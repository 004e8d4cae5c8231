import InfraConfig.Proofs.Analysis.Batch
import Mathlib.Data.List.Forall2

/-! What a report shows of sensitive outputs. From outside, the value of a sensitive output is a mark
that stands for it (`OutputValue.concealed`). Configuration units that differ in nothing but such
values cannot be told apart by what is shown, found or noted (`analyze_indistinct`): of a value that
must not be seen only the dependencies count, and whether it is composite. -/
namespace InfraConfig

/-! ### Seen from outside -/

/-- The output with the value that others may see. -/
def OutputValue.concealed (o : OutputValue) : OutputValue := { o with value := o.exposedValue }

/-- The entity as others may see it. -/
def Entity.concealed : Entity → Entity
  | .output o => .output o.concealed
  | e => e

/-- The entities as others may see them. -/
def Analysis.concealed (a : Analysis) : Analysis :=
  { a with outputs := a.outputs.map OutputValue.concealed }

/-- The report as others may see it. -/
def Report.concealed (r : Report) : Report := { r with analysis := r.analysis.concealed }

theorem OutputValue.toValue_concealed (o : OutputValue) : o.concealed.toValue = o.toValue := by
  have hshown : o.concealed.exposedValue = o.exposedValue := by
    rw [concealed, exposedValue, exposedValue]
    split <;> rfl
  rw [toValue, hshown]
  rfl

theorem Analysis.toValue_concealed (a : Analysis) : a.concealed.toValue = a.toValue := by
  have houtputs : a.concealed.outputs.map OutputValue.toValue = a.outputs.map OutputValue.toValue := by
    rw [concealed, List.map_map]
    exact List.map_congr_left fun o _ => o.toValue_concealed
  rw [toValue, houtputs]
  rfl

/-- The findings of a report are in sight. -/
theorem Report.findings_of_concealed {r r' : Report} (h : r.concealed = r'.concealed) :
    r.errors = r'.errors ∧ r.warnings = r'.warnings := by
  have herrors : r.concealed.errors = r'.concealed.errors := by rw [h]
  have hwarnings : r.concealed.warnings = r'.concealed.warnings := by rw [h]
  exact ⟨herrors, hwarnings⟩

theorem Report.toValue_of_concealed {r r' : Report} (h : r.concealed = r'.concealed) :
    r.analysis.toValue = r'.analysis.toValue := by
  have hshown : r.concealed.analysis.toValue = r'.concealed.analysis.toValue := by rw [h]
  rwa [concealed, concealed, Analysis.toValue_concealed, Analysis.toValue_concealed] at hshown

theorem Report.concealed_add (r : Report) (outcome : Except AnalysisError (Checked Entity)) :
    (r.add outcome).concealed = r.concealed.add (outcome.map (Checked.map Entity.concealed)) := by
  cases outcome with
  | error e => rfl
  | ok checked =>
    obtain ⟨entity, warnings⟩ := checked
    cases entity with
    | output o => simp [add, concealed, Analysis.concealed, Analysis.add, Except.map, Checked.map,
        Entity.concealed]
    | _ => rfl

/-! ### Runs that cannot be told apart -/

/-- Two computations of which a viewer sees the same, and which note the same. -/
structure Traced.Alike {α β : Type} (view : α → β) (x y : Traced α) : Prop where
  value : view x.value = view y.value
  records : x.records = y.records

namespace Traced.Alike

variable {α β γ δ : Type} {view : α → β} {x y : Traced α}

theorem refl (view : α → β) (x : Traced α) : Alike view x x := ⟨rfl, rfl⟩

theorem bind {view' : γ → δ} {f g : α → Traced γ} (h : Alike view x y)
    (hf : ∀ a b, view a = view b → Alike view' (f a) (g b)) : Alike view' (x >>= f) (y >>= g) := by
  have hnext := hf x.value y.value h.value
  constructor
  · exact hnext.value
  · rw [records_bind, records_bind, h.records, hnext.records]

/-- What comes before the two differ. -/
theorem bind_same {view' : γ → δ} (x : Traced α) {f g : α → Traced γ}
    (hf : ∀ a, Alike view' (f a) (g a)) : Alike view' (x >>= f) (x >>= g) := by
  apply bind (refl id x)
  intro a b hab
  rw [← show a = b from hab]
  exact hf a

end Traced.Alike

/-- Two checks of which a viewer sees the same, and which note the same. -/
abbrev Check.Alike {α β : Type} (view : α → β) (x y : Check α) : Prop :=
  Traced.Alike (Except.map view) x.run y.run

theorem Check.Alike.bind_same {α γ δ : Type} {view : γ → δ} (x : Check α) {f g : α → Check γ}
    (hf : ∀ a, Check.Alike view (f a) (g a)) : Check.Alike view (x >>= f) (x >>= g) := by
  refine Traced.Alike.bind_same x.run fun result => ?_
  cases result with
  | error e => exact .refl _ _
  | ok a => exact hf a

/-! ### Declarations that differ in a secret -/

/-- Two declarations of an output that is sensitive, of which nothing differs but the value, and
nothing of the value that may be told. -/
structure Declaration.DiffersInSecret (d d' : Declaration) (value value' : Value) : Prop where
  kind : d.kind = .output
  kind' : d'.kind = .output
  name : d.name = d'.name
  others : ∀ key, key ≠ "value" → d.attribute? key = d'.attribute? key
  sensitive : d.attribute? "sensitive" = some (.bool true) ∨
    d.attribute? "sensitive" = some (.string "true")
  present : d.presentAttribute? "value" = some value
  present' : d'.presentAttribute? "value" = some value'
  composite : value.isComposite = value'.isComposite
  dependencies : OutputValue.collectDependencies value (d.attribute? "depends_on") =
    OutputValue.collectDependencies value' (d'.attribute? "depends_on")

/-- Two declarations that do not differ, or only in a secret. -/
def Declaration.SameButSecret (d d' : Declaration) : Prop :=
  d = d' ∨ ∃ value value', d.DiffersInSecret d' value value'

namespace Declaration.DiffersInSecret

variable {d d' : Declaration} {value value' : Value} (h : d.DiffersInSecret d' value value')
include h

theorem misshapen_eq (fault : ShapeFault) : d.misshapen fault = d'.misshapen fault := by
  rw [misshapen, misshapen, h.kind, h.kind', h.name]

theorem presentAttribute_eq {key : String} (hkey : key ≠ "value") :
    d.presentAttribute? key = d'.presentAttribute? key := by
  rw [presentAttribute?, presentAttribute?, h.others key hkey]

theorem requireIdentifier_eq : d.requireIdentifier = d'.requireIdentifier := by
  simp only [requireIdentifier, requireName, h.misshapen_eq, h.name]

theorem optionalString_eq {key : String} (hkey : key ≠ "value") :
    d.optionalString key = d'.optionalString key := by
  simp only [optionalString, h.misshapen_eq, h.presentAttribute_eq hkey]

theorem flag_eq {key : String} (hkey : key ≠ "value") : d.flag key = d'.flag key := by
  simp only [flag, h.misshapen_eq, h.presentAttribute_eq hkey]

theorem flag_sensitive : d.flag "sensitive" = .ok true := by
  rcases h.sensitive with hflag | hflag <;>
    simp [flag, presentAttribute?, hflag, Option.filter, Value.isNull]

theorem check_alike :
    Check.Alike (Checked.map OutputValue.concealed) (OutputValue.check d) (OutputValue.check d') := by
  have hvalue : d.required "value" = .ok value := by rw [required, h.present]
  have hvalue' : d'.required "value" = .ok value' := by rw [required, h.present']
  have hflag' : d'.flag "sensitive" = .ok true := by
    rw [← h.flag_eq (by decide), h.flag_sensitive]
  have hread : ∀ {α : Type} (a : α), (liftM (Except.ok a : Except AnalysisError α) : Check α) = pure a :=
    fun _ => rfl
  -- Once the values are read, the two checks ask for the same texts and flags.
  unfold OutputValue.check
  rw [hvalue, hvalue', h.flag_sensitive, hflag', h.requireIdentifier_eq,
    h.optionalString_eq (by decide), h.name]
  simp only [hread, pure_bind, Bool.true_and, h.dependencies, h.composite]
  apply Check.Alike.bind_same
  intro _
  apply Check.Alike.bind_same
  intro description
  split
  · apply Check.Alike.bind_same
    exact fun _ => ⟨rfl, rfl⟩
  · exact ⟨rfl, rfl⟩

/-- A refusal tells only the error. -/
theorem noteRefusal_alike {α : Type} {x y : Except AnalysisError α}
    (hxy : failure? x = failure? y) :
    Traced.Alike id (d.noteRefusal x) (d'.noteRefusal y) := by
  cases x with
  | error e =>
    cases y with
    | error e' =>
      cases hxy
      rw [noteRefusal, noteRefusal, h.kind, h.kind', h.name]
      exact .refl _ _
    | ok b => cases hxy
  | ok a =>
    cases y with
    | error e' => cases hxy
    | ok b => exact .refl _ _

end Declaration.DiffersInSecret

/-- Another value is written for a sensitive output, of which the same may be told. -/
theorem Declaration.differsInSecret_withAttribute {d : Declaration} {value value' : Value}
    (hkind : d.kind = .output)
    (hsensitive : d.attribute? "sensitive" = some (.bool true) ∨
      d.attribute? "sensitive" = some (.string "true"))
    (hpresent : d.presentAttribute? "value" = some value) (hpresent' : value'.isNull = false)
    (hcomposite : value.isComposite = value'.isComposite)
    (hdependencies : OutputValue.collectDependencies value (d.attribute? "depends_on") =
      OutputValue.collectDependencies value' (d.attribute? "depends_on")) :
    d.DiffersInSecret (d.withAttribute "value" value') value value' := by
  have hothers : ∀ key, key ≠ "value" →
      d.attribute? key = (d.withAttribute "value" value').attribute? key :=
    fun key hkey => (d.attributes.lookup_insert_of_ne value' hkey).symm
  have hwritten : (d.withAttribute "value" value').attribute? "value" = some value' :=
    d.attributes.lookup_insert_self "value" value'
  constructor
  case kind => exact hkind
  case kind' => exact hkind
  case name => rfl
  case others => exact hothers
  case sensitive => exact hsensitive
  case present => exact hpresent
  case present' => simp [presentAttribute?, hwritten, hpresent', Option.filter]
  case composite => exact hcomposite
  case dependencies => rw [← hothers "depends_on" (by decide), hdependencies]

namespace Declaration.SameButSecret

variable {d d' : Declaration}

theorem identity_eq (h : d.SameButSecret d') : d.identity = d'.identity := by
  rcases h with rfl | ⟨value, value', h⟩
  · rfl
  · simp only [identity, h.kind, h.kind', h.name]

theorem kind_eq (h : d.SameButSecret d') : d.kind = d'.kind := congrArg Identity.kind h.identity_eq

theorem misshapen_eq (h : d.SameButSecret d') (fault : ShapeFault) :
    d.misshapen fault = d'.misshapen fault := by
  rcases h with rfl | ⟨value, value', h⟩
  · rfl
  · exact h.misshapen_eq fault

variable {ds ds' : List Declaration} (h : List.Forall₂ SameButSecret ds ds')
include h

/-- Local values are no outputs, and so nothing of them is a secret. -/
theorem locals_eq :
    ds.filter (·.kind == .localValue) = ds'.filter (·.kind == .localValue) := by
  induction h with
  | nil => rfl
  | cons hd _ ih =>
    rw [List.filter_cons, List.filter_cons, ih, hd.kind_eq]
    split
    · next hlocal =>
      rcases hd with rfl | ⟨value, value', hd⟩
      · rfl
      · rw [hd.kind'] at hlocal
        cases hlocal
    · rfl

theorem any_local_eq : ds.any (·.kind == .localValue) = ds'.any (·.kind == .localValue) := by
  induction h with
  | nil => rfl
  | cons hd _ ih => rw [List.any_cons, List.any_cons, ih, hd.kind_eq]

theorem blocks : List.Forall₂ SameButSecret (blocksOf ds) (blocksOf ds') := by
  refine List.rel_filter (fun d d' hd => ?_) h
  show d.kind != .localValue ↔ d'.kind != .localValue
  rw [hd.kind_eq]

end Declaration.SameButSecret

/-! ### Analyses -/

/-- What is seen of the check of a block. -/
def concealedResult (p : Except AnalysisError (Checked Entity) × Analyzer) :
    Except AnalysisError (Checked Entity) × Analyzer :=
  (p.1.map (Checked.map Entity.concealed), p.2)

/-- What is seen of an analysis. -/
def concealedReport (p : Report × Analyzer) : Report × Analyzer := (p.1.concealed, p.2)

namespace Analyzer

variable (a : Analyzer) (now : Nat) {d d' : Declaration}

theorem settle_alike {check check' : Check (Checked OutputValue)}
    (h : Check.Alike (Checked.map OutputValue.concealed) check check') :
    Traced.Alike concealedResult (a.settle .output check) (a.settle .output check') := by
  refine Traced.Alike.bind h fun x y hxy => ⟨?_, rfl⟩
  have hmap : ∀ x : Except AnalysisError (Checked OutputValue),
      (x.map (Checked.map Entity.output)).map (Checked.map Entity.concealed) =
        (x.map (Checked.map OutputValue.concealed)).map (Checked.map Entity.output) := by
    intro x
    cases x <;> rfl
  show ((x.map (Checked.map Entity.output)).map (Checked.map Entity.concealed), a) =
    ((y.map (Checked.map Entity.output)).map (Checked.map Entity.concealed), a)
  rw [hmap, hmap, hxy]

theorem validate_alike (h : d.SameButSecret d') :
    Traced.Alike concealedResult (a.validate now d.kind d) (a.validate now d'.kind d') := by
  rcases h with rfl | ⟨value, value', h⟩
  · exact .refl _ _
  · rw [h.kind, h.kind', validate, validate, if_pos h.kind, if_pos h.kind']
    refine (a.settle_alike h.check_alike).bind fun x y hxy => ?_
    have hresult : x.1.map (Checked.map Entity.concealed) = y.1.map (Checked.map Entity.concealed) :=
      congrArg Prod.fst hxy
    have hfailure : failure? x.1 = failure? y.1 := by
      rw [← failure?_map, hresult, failure?_map]
    exact (h.noteRefusal_alike hfailure).bind fun _ _ _ => ⟨hxy, rfl⟩

theorem analyzeEach_alike {blocks blocks' : List Declaration}
    (h : List.Forall₂ Declaration.SameButSecret blocks blocks') (seen : List Identity)
    {r r' : Report} (hr : r.concealed = r'.concealed) :
    Traced.Alike concealedReport (a.analyzeEach now seen r blocks)
      (a.analyzeEach now seen r' blocks') := by
  -- The reports may differ in what is concealed, the identities and the analyzers may not.
  induction h generalizing a seen r r' with
  | nil => exact ⟨congrArg (·, a) hr, rfl⟩
  | cons hd _ ih =>
    rw [analyzeEach, analyzeEach, hd.identity_eq]
    split
    · apply ih
      rw [hd.misshapen_eq]
      exact congrArg (Report.addError · _) hr
    · refine (a.validate_alike now hd).bind fun x y hxy => ?_
      obtain ⟨hresult, hafter⟩ := Prod.ext_iff.1 hxy
      simp only [concealedResult] at hresult hafter
      show Traced.Alike _ (x.2.analyzeEach now _ (r.add x.1) _) (y.2.analyzeEach now _ (r'.add y.1) _)
      rw [hafter]
      apply ih
      rw [Report.concealed_add, Report.concealed_add, hr, hresult]

theorem analyze_alike {ds ds' : List Declaration}
    (h : List.Forall₂ Declaration.SameButSecret ds ds') :
    Traced.Alike concealedReport (a.analyze now ds) (a.analyze now ds') := by
  have hevaluated : Locals.evaluateDeclared a.settings ds = Locals.evaluateDeclared a.settings ds' := by
    rw [Locals.evaluateDeclared, Locals.evaluateDeclared, Declaration.SameButSecret.locals_eq h]
  have hblocks : ∀ r : Report, Traced.Alike concealedReport
      (a.analyzeEach now [] r (blocksOf ds)) (a.analyzeEach now [] r (blocksOf ds')) :=
    fun r => a.analyzeEach_alike now (Declaration.SameButSecret.blocks h) [] rfl
  rw [analyze, analyze, Declaration.SameButSecret.any_local_eq h, hevaluated, h.length_eq]
  split
  all_goals
    refine Traced.Alike.bind_same _ fun r => ?_
    refine (hblocks r).bind fun x y hxy => ?_
    obtain ⟨herrors, hwarnings⟩ := Report.findings_of_concealed (congrArg Prod.fst hxy)
    simp only [herrors, hwarnings]
    exact ⟨hxy, rfl⟩

/-- Two analyses that show the same and find the same, and of which the same is noted. -/
structure Indistinct (x y : Traced (Report × Analyzer)) : Prop where
  shown : x.value.1.analysis.toValue = y.value.1.analysis.toValue
  errors : x.value.1.errors = y.value.1.errors
  warnings : x.value.1.warnings = y.value.1.warnings
  diagnostics : x.value.1.diagnostics = y.value.1.diagnostics
  records : x.records = y.records

/-- Configuration units that differ only in secrets cannot be told apart. -/
theorem analyze_indistinct {ds ds' : List Declaration}
    (h : List.Forall₂ Declaration.SameButSecret ds ds') :
    Indistinct (a.analyze now ds) (a.analyze now ds') := by
  have halike := a.analyze_alike now h
  have hseen : (a.analyze now ds).value.1.concealed = (a.analyze now ds').value.1.concealed :=
    congrArg Prod.fst halike.value
  obtain ⟨herrors, hwarnings⟩ := Report.findings_of_concealed hseen
  constructor
  case shown => exact Report.toValue_of_concealed hseen
  case errors => exact herrors
  case warnings => exact hwarnings
  case diagnostics => rw [Report.diagnostics, Report.diagnostics, herrors, hwarnings]
  case records => exact halike.records

/-- A sensitive output with a composite value. -/
def credentials : Declaration where
  kind := .output
  name := "credentials"
  attributes := [
    ("value", .object [("user", .string "${local.user}"), ("password", .string "swordfish")]),
    ("sensitive", .string "true")]

/-- The output with another password. -/
def otherCredentials : Declaration := credentials.withAttribute "value"
  (.object [("user", .string "${local.user}"), ("password", .string "open sesame")])

/-- The output is shown, and warned about, with no trace of the password. -/
theorem analyze_credentials :
    List.Forall₂ Declaration.SameButSecret
      [.ofLocal "user" (.string "admin"), credentials]
      [.ofLocal "user" (.string "admin"), otherCredentials] ∧
    Indistinct ((ofSettings .default).analyze 0 [.ofLocal "user" (.string "admin"), credentials])
      ((ofSettings .default).analyze 0 [.ofLocal "user" (.string "admin"), otherCredentials]) := by
  have hdiffers : ∃ value value', credentials.DiffersInSecret otherCredentials value value' :=
    ⟨_, _, Declaration.differsInSecret_withAttribute rfl (.inr rfl) rfl rfl rfl (by decide +kernel)⟩
  have hunits : List.Forall₂ Declaration.SameButSecret
      [.ofLocal "user" (.string "admin"), credentials]
      [.ofLocal "user" (.string "admin"), otherCredentials] :=
    .cons (.inl rfl) (.cons (.inr hdiffers) .nil)
  exact ⟨hunits, (ofSettings .default).analyze_indistinct 0 hunits⟩

end Analyzer

end InfraConfig
