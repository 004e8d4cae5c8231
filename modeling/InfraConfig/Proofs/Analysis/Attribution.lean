import InfraConfig.Proofs.Analysis.Batch
import InfraConfig.Proofs.Locals.Failure

/-! Whom a report blames. What is read from a declaration, and every check of one, ends as it should
or with an error about that very declaration (`Declaration.Settles`); an evaluation of local values
fails with an error about one that is declared. So each error of a report names a declaration of the
configuration unit (`Analyzer.attributed_analyze`), and it is grave, as no warning is. What ends as
it should gives an entity of the identity of its declaration (`Declaration.Gives`). -/
namespace InfraConfig

/-! ### Errors about a declaration -/

/-- The error is about a declaration, and it is more than advice. -/
structure AnalysisError.About (e : AnalysisError) (d : Declaration) : Prop where
  block : e.block = (d.kind, d.name)
  level : e.rule.level = .error

/-- No more than advice comes with the entity. -/
def Checked.Mild {α : Type} (c : Checked α) : Prop := ∀ w ∈ c.warnings, w.level = .warning

/-- What tells entities apart, as it does their declarations. -/
def Entity.identity : Entity → Identity
  | .localValue entry => ⟨.localValue, entry.name, none⟩
  | .variable v => ⟨.variable, v.name, none⟩
  | .output o => ⟨.output, o.name, none⟩
  | .provider p => ⟨.provider, p.name, p.aliasName⟩
  | .moduleCall m => ⟨.moduleCall, m.name, none⟩
  | .dataSource s => ⟨.dataSource, s.name, some s.type⟩

/-- What a check of a declaration is to give. -/
structure Declaration.Gives (d : Declaration) (c : Checked Entity) : Prop where
  identity : c.entity.identity = d.identity
  mild : c.Mild

/-- The outcome is something that `P` holds of, or an error about the declaration. -/
def Declaration.Settles {α : Type} (d : Declaration) (P : α → Prop) :
    Except AnalysisError α → Prop
  | .ok a => P a
  | .error e => e.About d

namespace Declaration

variable {α β : Type} {d : Declaration} {P : α → Prop} {Q : β → Prop}

theorem about_misshapen (d : Declaration) {fault : ShapeFault} (h : fault.rule.level = .error) :
    (d.misshapen fault).About d := ⟨rfl, h⟩

theorem about_unsound (d : Declaration) {fault : ContentFault} (h : fault.rule.level = .error) :
    (d.unsound fault).About d := ⟨rfl, h⟩

theorem Settles.about {x : Except AnalysisError α} {e : AnalysisError} (h : d.Settles P x)
    (he : x = .error e) : e.About d := by
  rw [he] at h
  exact h

theorem Settles.holds {x : Except AnalysisError α} {a : α} (h : d.Settles P x) (ha : x = .ok a) :
    P a := by
  rw [ha] at h
  exact h

theorem Settles.bind {x : Except AnalysisError α} {f : α → Except AnalysisError β}
    (h : d.Settles P x) (hf : ∀ a, P a → d.Settles Q (f a)) : d.Settles Q (x >>= f) := by
  cases x with
  | error e => exact h
  | ok a => exact hf a h

theorem Settles.map {x : Except AnalysisError α} {f : α → β} (h : d.Settles P x)
    (hf : ∀ a, P a → Q (f a)) : d.Settles Q (x.map f) := by
  cases x with
  | error e => exact h
  | ok a => exact hf a h

/-- Checks one after the other. -/
theorem Settles.check_bind {x : Check α} {f : α → Check β} (h : d.Settles P x.outcome)
    (hf : ∀ a, P a → d.Settles Q (f a).outcome) : d.Settles Q (x >>= f).outcome := by
  rw [Check.outcome_bind]
  exact h.bind hf

/-- What is read in the course of a check. -/
theorem Settles.check_lift {x : Except AnalysisError α} (h : d.Settles P x) :
    d.Settles P (liftM x : Check α).outcome := by
  cases x with
  | error e => exact h
  | ok a => exact h

theorem settles_note {message : String} {details : List (String × String)} :
    d.Settles (fun _ => True) (Check.note message details).outcome := trivial

/-! ### Readers -/

variable (d)

theorem settles_requireName : d.Settles (fun _ => True) d.requireName := by
  rw [requireName]
  split
  · exact d.about_misshapen rfl
  · trivial

theorem settles_requireIdentifier : d.Settles (fun _ => True) d.requireIdentifier := by
  refine d.settles_requireName.bind fun _ _ => ?_
  split
  · trivial
  · exact d.about_misshapen rfl

theorem settles_required (key : String) :
    d.Settles (fun value => d.presentAttribute? key = some value) (d.required key) := by
  rw [required]
  split
  · next hvalue => exact hvalue
  · exact d.about_misshapen rfl

/-- The text that is required is the text of the attribute. -/
theorem settles_requiredString (key : String) :
    d.Settles (fun s => d.string? key = some s) (d.requiredString key) := by
  refine (d.settles_required key).bind fun value hvalue => ?_
  split
  · split
    · exact d.about_misshapen rfl
    · exact (d.string?_eq key).trans (by rw [hvalue]; rfl)
  · exact d.about_misshapen rfl

/-- The text that may be absent is the text of the attribute, if it has one. -/
theorem settles_optionalString (key : String) :
    d.Settles (fun s => s = d.string? key) (d.optionalString key) := by
  rw [optionalString]
  split
  · next hnone => exact ((d.string?_eq key).trans (by rw [hnone]; rfl)).symm
  · next s hsome => exact ((d.string?_eq key).trans (by rw [hsome]; rfl)).symm
  · exact d.about_misshapen rfl

theorem settles_flag (key : String) : d.Settles (fun _ => True) (d.flag key) := by
  rw [flag]
  split
  case h_5 => exact d.about_misshapen rfl
  all_goals trivial

end Declaration

section Readers
variable (settings : Settings) (d : Declaration)

theorem ValidationRule.settles_read (index : Nat) (rule : Value) :
    d.Settles (fun _ => True) (read d index rule) := by
  rw [read]
  split
  · exact d.about_misshapen rfl
  · split
    · exact d.about_misshapen rfl
    · split
      · trivial
      · exact d.about_unsound rfl

theorem ValidationRule.settles_readAll (index : Nat) (rules : List Value) :
    d.Settles (fun _ => True) (readAll d index rules) := by
  induction rules generalizing index with
  | nil => trivial
  | cons rule rest ih =>
    refine (settles_read d index rule).bind fun _ _ => ?_
    exact (ih (index + 1)).bind fun _ _ => trivial

theorem ValidationRule.settles_ofDeclaration :
    d.Settles (fun _ => True) (ValidationRule.ofDeclaration d) := by
  rw [ofDeclaration]
  split
  · trivial
  · exact settles_readAll d 0 _
  · exact settles_readAll d 0 _
  · exact d.about_misshapen rfl

theorem InputVariable.settles_readType : d.Settles (fun _ => True) (readType settings d) := by
  rw [readType]
  split
  · trivial
  · exact d.about_unsound rfl

theorem InputVariable.settles_readDefault (type : TypeConstraint) :
    d.Settles (fun _ => True) (readDefault d type) := by
  rw [readDefault]
  split
  · trivial
  · split
    · trivial
    · exact d.about_unsound rfl

theorem Position.settles_ofDeclaration :
    d.Settles (fun _ => True) (Position.ofDeclaration settings d) := by
  rw [ofDeclaration]
  split
  · trivial
  · split
    · exact d.about_unsound rfl
    · dsimp only
      split
      · trivial
      · exact d.about_unsound rfl

theorem ModuleRequest.settles_ofDeclaration :
    d.Settles (fun request => d.string? "source" = some request.source)
      (ModuleRequest.ofDeclaration settings d) := by
  refine d.settles_requireName.bind fun _ _ => ?_
  refine (d.settles_requiredString "source").bind fun _ hsource => ?_
  exact (Position.settles_ofDeclaration settings d).bind fun _ _ => hsource

theorem ProviderRequest.settles_readVersion : d.Settles (fun _ => True) (readVersion d) := by
  refine (d.settles_optionalString "version").bind fun version _ => ?_
  cases version with
  | none => trivial
  | some version =>
    dsimp only
    split
    · trivial
    · exact d.about_unsound rfl

theorem ProviderRequest.settles_ofDeclaration :
    d.Settles (fun request => request.aliasName = d.string? "alias")
      (ProviderRequest.ofDeclaration d) := by
  refine d.settles_requireName.bind fun _ _ => ?_
  refine (d.settles_optionalString "alias").bind fun _ halias => ?_
  refine (settles_readVersion d).bind fun _ _ => ?_
  exact (d.settles_optionalString "source").bind fun _ _ => halias

/-! ### Checks -/

theorem LocalEntry.settles_check :
    d.Settles (fun c => c.entity.name = d.name ∧ c.Mild) (LocalEntry.check settings d).outcome := by
  have hrefused : d.Settles (fun _ => False)
      (throw (d.misshapen .reservedName) : Check Unit).outcome := d.about_misshapen rfl
  refine d.settles_requireName.check_lift.check_bind fun _ _ => ?_
  by_cases hreserved : settings.isReservedLocalName d.name = true
  · simp only [if_pos hreserved]
    exact hrefused.check_bind nofun
  · simp only [if_neg hreserved]
    cases d.attribute? "value" with
    | none => exact d.about_misshapen rfl
    | some expression => exact ⟨rfl, nofun⟩

theorem InputVariable.settles_check :
    d.Settles (fun c => c.entity.name = d.name ∧ c.Mild)
      (InputVariable.check settings d).outcome := by
  refine d.settles_requireIdentifier.check_lift.check_bind fun _ _ => ?_
  refine (settles_readType settings d).check_lift.check_bind fun type _ => ?_
  refine (settles_readDefault d type).check_lift.check_bind fun _ _ => ?_
  refine (ValidationRule.settles_ofDeclaration d).check_lift.check_bind fun _ _ => ?_
  refine Declaration.settles_note.check_bind fun _ _ => ?_
  refine (d.settles_optionalString "description").check_lift.check_bind fun _ _ => ?_
  refine (d.settles_flag "sensitive").check_lift.check_bind fun _ _ => ?_
  exact ⟨rfl, nofun⟩

theorem OutputValue.settles_check :
    d.Settles (fun c => c.entity.name = d.name ∧ c.Mild) (OutputValue.check d).outcome := by
  refine d.settles_requireIdentifier.check_lift.check_bind fun _ _ => ?_
  refine (d.settles_required "value").check_lift.check_bind fun value _ => ?_
  refine (d.settles_flag "sensitive").check_lift.check_bind fun isSensitive _ => ?_
  refine (d.settles_optionalString "description").check_lift.check_bind fun _ _ => ?_
  split
  · refine Declaration.settles_note.check_bind fun _ _ => ?_
    -- The one warning that a check gives.
    refine ⟨rfl, fun w hw => ?_⟩
    rw [List.mem_singleton.1 hw]
    rfl
  · exact ⟨rfl, nofun⟩

theorem ProviderConfiguration.settles_complete (request : ProviderRequest)
    (source : Except InvalidAddress ProviderAddress) :
    d.Settles (fun c => c.entity.name = d.name ∧ c.entity.aliasName = request.aliasName ∧ c.Mild)
      (complete settings d request source).outcome := by
  cases source with
  | error e => exact d.about_unsound rfl
  | ok source =>
    rw [complete]
    dsimp only
    split
    · exact Declaration.settles_note.check_bind fun _ _ => ⟨rfl, rfl, nofun⟩
    · exact ⟨rfl, rfl, nofun⟩

/-- A call shows the path of its source, and a version in the source comes before the attribute. -/
theorem ModuleCall.settles_complete (request : ModuleRequest) (source : ModuleSource) :
    d.Settles
      (fun c => c.entity = ⟨d.name, source.path, source.version.or (d.string? "version"),
        source.kind, request.position⟩ ∧ c.Mild)
      (complete d request source).outcome := by
  rw [complete]
  split
  · next hversion =>
    rw [hversion]
    exact Declaration.settles_note.check_bind fun _ _ => ⟨rfl, nofun⟩
  · next hnone =>
    rw [hnone, Option.none_or]
    refine (d.settles_optionalString "version").check_lift.check_bind fun _ hversion => ?_
    exact Declaration.settles_note.check_bind fun _ _ => ⟨by rw [hversion], nofun⟩

theorem DataSource.settles_check :
    d.Settles
      (fun c => c.entity.name = d.name ∧ d.string? "type" = some c.entity.type ∧ c.Mild)
      (DataSource.check d).outcome := by
  refine d.settles_requireName.check_lift.check_bind fun _ _ => ?_
  refine (d.settles_requiredString "type").check_lift.check_bind fun type htype => ?_
  split
  · exact d.about_unsound rfl
  · exact ⟨rfl, htype, nofun⟩

end Readers

namespace Analyzer

variable (a : Analyzer) (now : Nat) (d : Declaration)

theorem settles_settle {α : Type} {entity : α → Entity} {P : Checked α → Prop}
    {check : Check (Checked α)} (h : d.Settles P check.outcome)
    (hP : ∀ c, P c → d.Gives (c.map entity)) :
    d.Settles d.Gives (a.settle entity check).value.1 := by
  rw [value_settle]
  exact h.map hP

variable {d}

theorem settles_checkProvider (hkind : d.kind = .provider) :
    d.Settles d.Gives (a.checkProvider now d).value.1 := by
  rw [value_checkProvider]
  cases hread : ProviderRequest.ofDeclaration d with
  | error e => exact (ProviderRequest.settles_ofDeclaration d).about hread
  | ok request =>
    have halias := (ProviderRequest.settles_ofDeclaration d).holds hread
    refine (ProviderConfiguration.settles_complete a.settings d request _).map fun c h => ?_
    obtain ⟨hname, hrequested, hmild⟩ := h
    refine ⟨?_, hmild⟩
    simp [Declaration.identity, hkind, Checked.map, Entity.identity, hname, hrequested, halias]

theorem settles_checkModule (hkind : d.kind = .moduleCall) :
    d.Settles d.Gives (a.checkModule now d).value.1 := by
  rw [value_checkModule]
  cases hread : ModuleRequest.ofDeclaration a.settings d with
  | error e => exact (ModuleRequest.settles_ofDeclaration a.settings d).about hread
  | ok request =>
    refine (ModuleCall.settles_complete d request _).map fun c ⟨hentity, hmild⟩ => ⟨?_, hmild⟩
    simp [Declaration.identity, hkind, Checked.map, Entity.identity, hentity]

variable (d)

/-- Whatever kind of block a declaration is checked as, an entity that comes of it has its identity,
and an error is about it. -/
theorem settles_validate (kind : BlockKind) :
    d.Settles d.Gives (a.validate now kind d).value.1 := by
  rw [value_validate]
  split
  · next hkind =>
    cases kind with
    | provider => exact a.settles_checkProvider now hkind
    | moduleCall => exact a.settles_checkModule now hkind
    | localValue =>
      refine a.settles_settle d (LocalEntry.settles_check a.settings d) fun c h => ⟨?_, h.2⟩
      simp [Declaration.identity, hkind, Checked.map, Entity.identity, h.1]
    | «variable» =>
      refine a.settles_settle d (InputVariable.settles_check a.settings d) fun c h => ⟨?_, h.2⟩
      simp [Declaration.identity, hkind, Checked.map, Entity.identity, h.1]
    | output =>
      refine a.settles_settle d (OutputValue.settles_check d) fun c h => ⟨?_, h.2⟩
      simp [Declaration.identity, hkind, Checked.map, Entity.identity, h.1]
    | dataSource =>
      refine a.settles_settle d (DataSource.settles_check d) fun c h => ⟨?_, h.2.2⟩
      simp [Declaration.identity, hkind, Checked.map, Entity.identity, h.1, h.2.1]
  · exact d.about_misshapen rfl

theorem settles_resultAfter (earlier : List Declaration) :
    d.Settles d.Gives (a.resultAfter now earlier d) := by
  rw [resultAfter]
  split
  · exact d.about_misshapen rfl
  · exact a.settles_validate now d d.kind

end Analyzer

/-! ### Local values -/

namespace AnalysisError

/-- What is told of local values is told about one that is declared. -/
theorem Truthful.blames_declared {locals : Locals} {bound : Nat} {e : AnalysisError}
    (h : e.Truthful locals bound) :
    ∃ name ∈ Keyed.keys locals, e.block = (.localValue, name) ∧ e.rule.level = .error := by
  cases h with
  | @cycle front name edges _ closes =>
    have hblock : (circularDependency (front ++ [name])).block = (.localValue, name) := by
      simp [block]
    -- The name that closes the cycle stands in the path before, and there it depends on the next.
    have hmem : name ∈ front := List.count_pos_iff.1 (by omega)
    obtain ⟨before, after, rfl⟩ := List.append_of_mem hmem
    have hdeclared : name ∈ Keyed.keys locals := by
      rw [List.append_assoc] at edges
      have hrest : (name :: (after ++ [name])).IsChain locals.DependsOn := edges.right_of_append
      cases hnext : after ++ [name] with
      | nil => simp at hnext
      | cons next rest =>
        rw [hnext] at hrest
        exact (List.isChain_cons_cons.1 hrest).1.mem_keys
    exact ⟨name, hdeclared, hblock, rfl⟩
  | unknown _ declared => exact ⟨_, declared, rfl, rfl⟩
  | chainTooLong declared => exact ⟨_, declared, rfl, rfl⟩
  | tooManyLinks declared => exact ⟨_, declared, rfl, rfl⟩

end AnalysisError

namespace Locals

variable (settings : Settings)

theorem value_declare_cons (known : Locals) (d : Declaration) (rest : List Declaration) :
    (declare settings known (d :: rest)).value =
      match (LocalEntry.check settings d).outcome with
      | .error e => .error e
      | .ok c =>
        if (known.lookup c.entity.name).isSome then .error (d.misshapen .duplicateLocal)
        else (declare settings (known ++ [(c.entity.name, c.entity.expression)]) rest).value := by
  rw [declare]
  simp only [Traced.value_bind, Check.outcome]
  cases (LocalEntry.check settings d).run.value with
  | error e => rfl
  | ok c =>
    dsimp only
    split <;> rfl

/-- Local values are declared under the names of their declarations; if one is refused, this is
about its declaration. -/
theorem declare_cases (known : Locals) (ds : List Declaration) :
    (∃ e, (declare settings known ds).value = .error e ∧ ∃ d ∈ ds, e.About d) ∨
    ∃ locals, (declare settings known ds).value = .ok locals ∧
      Keyed.keys locals = Keyed.keys known ++ ds.map Declaration.name := by
  induction ds generalizing known with
  | nil => exact .inr ⟨known, rfl, by simp⟩
  | cons d rest ih =>
    have hcheck := LocalEntry.settles_check settings d
    rw [value_declare_cons]
    cases hread : (LocalEntry.check settings d).outcome with
    | error e => exact .inl ⟨e, rfl, d, List.mem_cons_self, hcheck.about hread⟩
    | ok c =>
      have hname : c.entity.name = d.name := (hcheck.holds hread).1
      dsimp only
      split
      · exact .inl ⟨_, rfl, d, List.mem_cons_self, d.about_misshapen rfl⟩
      · rcases ih (known ++ [(c.entity.name, c.entity.expression)]) with hfailed | hdeclared
        · obtain ⟨e, he, other, hother, habout⟩ := hfailed
          exact .inl ⟨e, he, other, List.mem_cons_of_mem _ hother, habout⟩
        · obtain ⟨locals, hlocals, hkeys⟩ := hdeclared
          exact .inr ⟨locals, hlocals, by rw [hkeys]; simp [Keyed.keys, hname]⟩

theorem value_evaluateDeclared (ds : List Declaration) :
    (evaluateDeclared settings ds).value =
      match (declare settings [] (ds.filter (·.kind == .localValue))).value with
      | .error e => .error e
      | .ok locals =>
        (Evaluator.ofList locals settings.maxDependencyDepth).evaluateAll.value := by
  rw [evaluateDeclared]
  simp only [Traced.value_bind]
  cases (declare settings [] (ds.filter (·.kind == .localValue))).value <;> rfl

/-- If local values fail, then by a declaration. -/
theorem about_of_evaluateDeclared {ds : List Declaration} {e : AnalysisError}
    (h : (evaluateDeclared settings ds).value = .error e) : ∃ d ∈ ds, e.About d := by
  rw [value_evaluateDeclared] at h
  rcases declare_cases settings [] (ds.filter (·.kind == .localValue)) with hfailed | hdeclared
  · obtain ⟨found, hfound, d, hd, habout⟩ := hfailed
    rw [hfound] at h
    cases h
    exact ⟨d, List.mem_of_mem_filter hd, habout⟩
  · obtain ⟨locals, hlocals, hkeys⟩ := hdeclared
    rw [hlocals] at h
    obtain ⟨root, hroot, hblocked⟩ :=
      Evaluator.exists_blocked_of_evaluateAll locals settings.maxDependencyDepth [] h
    obtain ⟨name, hname, hblock, hlevel⟩ := (hblocked.truthful hroot).blames_declared
    rw [Keyed.mem_keys_ofList, hkeys, Keyed.keys_nil, List.nil_append] at hname
    obtain ⟨d, hd, rfl⟩ := List.mem_map.1 hname
    have hkind : d.kind = .localValue := by simpa using (List.mem_filter.1 hd).2
    exact ⟨d, List.mem_of_mem_filter hd, by rw [hblock, hkind], hlevel⟩

end Locals

/-! ### Reports -/

/-- Every error of a report is about one of the declarations and is reported so; what it reports
besides is no more than advice. -/
structure Report.Attributed (r : Report) (declarations : List Declaration) : Prop where
  errors : ∀ e ∈ r.errors, ∃ d ∈ declarations, e.block = (d.kind, d.name) ∧
    e.diagnostic.block = some ⟨d.kind.name, d.name⟩ ∧ e.diagnostic.code = some e.rule.name ∧
    e.diagnostic.level = .error
  warnings : ∀ w ∈ r.warnings, w.level = .warning
  hasErrors : r.hasErrors = true ↔ ∃ found ∈ r.diagnostics, found.level = .error

/-- That a report has errors is seen from the levels of what it reports. -/
theorem Report.hasErrors_iff {r : Report} (herrors : ∀ e ∈ r.errors, e.rule.level = .error)
    (hwarnings : ∀ w ∈ r.warnings, w.level = .warning) :
    r.hasErrors = true ↔ ∃ found ∈ r.diagnostics, found.level = .error := by
  constructor
  · intro h
    have hsome : r.errors ≠ [] := by simpa [hasErrors] using h
    obtain ⟨e, he⟩ := List.exists_mem_of_ne_nil _ hsome
    exact ⟨e.diagnostic, List.mem_append_left _ (List.mem_map_of_mem he), herrors e he⟩
  · intro ⟨found, hfound, hlevel⟩
    rcases List.mem_append.1 hfound with herror | hwarning
    · obtain ⟨e, he, _⟩ := List.mem_map.1 herror
      have hsome : r.errors ≠ [] := List.ne_nil_of_mem he
      simpa [hasErrors] using hsome
    · rw [hwarnings found hwarning] at hlevel
      cases hlevel

namespace Analyzer

variable (a : Analyzer) (now : Nat) (declarations : List Declaration)

/-- What becomes of a block is told about this block. -/
theorem settles_outcomes {o : BlockOutcome}
    (h : o ∈ a.outcomes now [] (blocksOf declarations)) :
    o.block ∈ declarations ∧ o.block.Settles o.block.Gives o.result := by
  obtain ⟨i, hi⟩ := List.getElem?_of_mem h
  rw [getElem?_outcomes] at hi
  obtain ⟨d, hd, rfl⟩ := Option.map_eq_some_iff.1 hi
  exact ⟨List.mem_of_mem_filter (List.mem_of_getElem? hd), a.settles_resultAfter now d _⟩

theorem about_of_mem_errors {e : AnalysisError}
    (h : e ∈ (a.analyze now declarations).value.1.errors) : ∃ d ∈ declarations, e.About d := by
  rw [value_analyze_fst, Report.errors_addAll, localReport_eq] at h
  rcases List.mem_append.1 h with hlocal | hblock
  · have hfailed := failure?_eq_some_iff.1 (Option.mem_toList.1 hlocal)
    exact Locals.about_of_evaluateDeclared a.settings hfailed
  · obtain ⟨o, ho, he⟩ := List.mem_filterMap.1 hblock
    obtain ⟨hmem, hsettles⟩ := a.settles_outcomes now declarations ho
    exact ⟨o.block, hmem, hsettles.about (failure?_eq_some_iff.1 he)⟩

theorem level_of_mem_warnings {w : Diagnostic}
    (h : w ∈ (a.analyze now declarations).value.1.warnings) : w.level = .warning := by
  rw [value_analyze_fst, Report.warnings_addAll, localReport_eq, List.nil_append] at h
  obtain ⟨o, ho, hw⟩ := List.mem_flatMap.1 h
  obtain ⟨_, hsettles⟩ := a.settles_outcomes now declarations ho
  rw [BlockOutcome.warnings] at hw
  cases hresult : o.result with
  | error found =>
    rw [hresult] at hw
    cases hw
  | ok checked =>
    rw [hresult] at hw
    exact (hsettles.holds hresult).mild w hw

/-- Whatever is analyzed, each error of the report is about a declaration that was given. -/
theorem attributed_analyze : (a.analyze now declarations).value.1.Attributed declarations := by
  have herrors := fun e => a.about_of_mem_errors now declarations (e := e)
  have hwarnings := fun w => a.level_of_mem_warnings now declarations (w := w)
  constructor
  case errors =>
    intro e he
    obtain ⟨d, hd, habout⟩ := herrors e he
    have hblock : e.diagnostic.block = some ⟨d.kind.name, d.name⟩ := by
      rw [AnalysisError.diagnostic, habout.block]
    exact ⟨d, hd, habout.block, hblock, rfl, habout.level⟩
  case warnings => exact hwarnings
  case hasErrors =>
    refine Report.hasErrors_iff (fun e he => ?_) hwarnings
    obtain ⟨d, _, habout⟩ := herrors e he
    exact habout.level

end Analyzer

end InfraConfig
