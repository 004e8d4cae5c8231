import InfraConfig.Proofs.Analysis.Attribution
import InfraConfig.Proofs.Analysis.Documents

/-! The local values of a document, read in two ways. The declarations of a document hold one for
each attribute of its blocks of local values, among those of other blocks (`Document.localsOf_flatten`);
`localValues` reads the attributes of these blocks by themselves. Both come to the same names and
values in the same order, and a name that is written twice is refused by `localValues` exactly where
the evaluation of the declarations refuses it (`Document.localValues_agree`). -/
namespace InfraConfig

/-- The declarations of local values. -/
def localsOf (declarations : List Declaration) : List Declaration :=
  declarations.filter (·.kind == .localValue)

theorem localsOf_localsOf (declarations : List Declaration) :
    localsOf (localsOf declarations) = localsOf declarations := by
  simp [localsOf]

theorem not_nodup_of_count {names : List String} {name : String} (h : 1 < names.count name) :
    ¬ names.Nodup :=
  fun hnodup => absurd (List.nodup_iff_count.1 hnodup name) (Nat.not_le.2 h)

/-- A name is written twice if it is among those written before. -/
theorem count_of_mem {known : List String} {name : String} (h : name ∈ known) (rest : List String) :
    1 < (known ++ name :: rest).count name := by
  have hcount := List.count_pos_iff.2 h
  rw [List.count_append, List.count_cons_self]
  omega

namespace Keyed

variable {α : Type}

theorem keys_concat (m : Keyed α) (key : String) (value : α) :
    keys (m ++ [(key, value)]) = keys m ++ [key] := by
  simp [keys]

theorem nodup_keys_concat {m : Keyed α} {key : String} (value : α) (hnodup : (keys m).Nodup)
    (hnew : key ∉ keys m) : (keys (m ++ [(key, value)])).Nodup := by
  rw [← insert_of_not_mem _ hnew]
  exact nodup_keys_insert _ _ hnodup

end Keyed

namespace Document

/-! ### Names that are written twice -/

theorem addLocals_cons (known : Keyed Value) (entry : Attribute) (rest : List Attribute) :
    addLocals known (entry :: rest) =
      if entry.key ∈ Keyed.keys known then .error (.repeatedLocal entry.key)
      else addLocals (known ++ [(entry.key, entry.value.value)]) rest := by
  rw [addLocals]
  by_cases hknown : entry.key ∈ Keyed.keys known
  · obtain ⟨value, hvalue⟩ := Keyed.mem_keys_iff.1 hknown
    rw [if_pos hknown, hvalue]
    rfl
  · rw [if_neg hknown, Keyed.lookup_eq_none_iff.2 hknown, Keyed.insert_of_not_mem _ hknown]
    rfl

/-- Local values are added as they are, or a name that is written twice is told. -/
theorem addLocals_cases {known : Keyed Value} (hknown : (Keyed.keys known).Nodup)
    (entries : List Attribute) :
    ((Keyed.keys known ++ entries.map (·.key)).Nodup ∧ addLocals known entries =
      .ok (known ++ entries.map fun entry => (entry.key, entry.value.value))) ∨
    ∃ name, 1 < (Keyed.keys known ++ entries.map (·.key)).count name ∧
      addLocals known entries = .error (.repeatedLocal name) := by
  induction entries generalizing known with
  | nil => exact .inl ⟨by simpa using hknown, by rw [addLocals, List.map_nil, List.append_nil]⟩
  | cons entry rest ih =>
    rw [addLocals_cons, List.map_cons, List.map_cons]
    split
    · next hmem => exact .inr ⟨entry.key, count_of_mem hmem _, rfl⟩
    · next hnew =>
      have hnext := ih (Keyed.nodup_keys_concat entry.value.value hknown hnew)
      simp only [Keyed.keys_concat, List.append_assoc, List.singleton_append] at hnext
      exact hnext

/-! ### Blocks of local values -/

/-- The attributes of the blocks of local values. -/
def localAttributes (blocks : List Block) : List Attribute :=
  (blocks.filter (·.ident == BlockKind.localValue.ident)).flatMap (·.attributes)

theorem localAttributes_cons (block : Block) (rest : List Block) :
    localAttributes (block :: rest) = localAttributes [block] ++ localAttributes rest := by
  rw [localAttributes, ← List.singleton_append, List.filter_append, List.flatMap_append]
  rfl

theorem kind_of_declaration {block : Block} {kind : BlockKind} {d : Declaration}
    (h : block.declaration kind = .ok d) : d.kind = kind := by
  cases kind with
  | dataSource =>
    obtain ⟨type, -, h⟩ := exists_of_bind_eq_ok h
    obtain ⟨name, -, h⟩ := exists_of_bind_eq_ok h
    cases h
    rfl
  | «variable» =>
    obtain ⟨name, -, h⟩ := exists_of_bind_eq_ok h
    dsimp only at h
    split at h <;> (cases h; rfl)
  | _ =>
    obtain ⟨name, -, h⟩ := exists_of_bind_eq_ok h
    cases h
    rfl

theorem localsOf_localDeclarations (block : Block) :
    localsOf block.localDeclarations = block.localDeclarations := by
  rw [localsOf, List.filter_eq_self]
  intro d hd
  obtain ⟨entry, -, rfl⟩ := List.mem_map.1 hd
  rfl

theorem localAttributes_singleton (block : Block) :
    localAttributes [block] =
      if block.ident = BlockKind.localValue.ident then block.attributes else [] := by
  rw [localAttributes, List.filter_cons]
  by_cases h : block.ident = BlockKind.localValue.ident <;> simp [h]

/-- A block declares a local value for each of its attributes if it is one of local values, and none
otherwise, whatever it declares. -/
theorem localsOf_of_declarations {block : Block} {found : List Declaration}
    (h : block.declarations = .ok found) :
    localsOf found =
      (localAttributes [block]).map fun entry => .ofLocal entry.key entry.value.value := by
  have hother (hkind : BlockKind.ofIdent? block.ident ≠ some .localValue) :
      block.ident ≠ BlockKind.localValue.ident := by
    intro hident
    rw [hident, BlockKind.ofIdent?_ident] at hkind
    exact hkind rfl
  rw [localAttributes_singleton]
  unfold Block.declarations at h
  split at h
  · next hnone =>
    cases h
    rw [if_neg (hother (by simp [hnone]))]
    rfl
  · next hlocal =>
    have hident : BlockKind.localValue.ident = block.ident := by simpa using List.find?_some hlocal
    cases h
    rw [if_pos hident.symm]
    exact localsOf_localDeclarations block
  · next kind hkind hknown =>
    cases hread : block.declaration kind with
    | error fault =>
      rw [hread] at h
      cases h
    | ok d =>
      rw [hread] at h
      cases h
      have hne : d.kind ≠ .localValue := by
        rw [kind_of_declaration hread]
        exact hkind
      rw [if_neg (hother (by simpa [hknown] using hkind)), localsOf, List.filter_singleton,
        beq_false_of_ne hne]
      rfl

theorem localsOf_flatten {blocks : List Block} {found : List (List Declaration)}
    (h : blocks.mapM Block.declarations = .ok found) :
    localsOf found.flatten =
      (localAttributes blocks).map fun entry => .ofLocal entry.key entry.value.value := by
  have hfound := forall₂_of_mapM_eq_ok h
  clear h
  induction hfound with
  | nil => rfl
  | cons hblock _ ih =>
    rw [List.flatten_cons, localAttributes_cons, List.map_append, ← ih,
      ← localsOf_of_declarations hblock]
    exact List.filter_append ..

end Document

/-! ### The evaluation of declarations -/

namespace Locals

variable (settings : Settings)

theorem value_declare_of_valid {known : Locals} {d : Declaration} {rest : List Declaration}
    {c : Checked LocalEntry} (h : (LocalEntry.check settings d).outcome = .ok c) :
    (declare settings known (d :: rest)).value =
      if d.name ∈ Keyed.keys known then .error (d.misshapen .duplicateLocal)
      else (declare settings (known ++ [(d.name, c.entity.expression)]) rest).value := by
  have hname : c.entity.name = d.name := ((LocalEntry.settles_check settings d).holds h).1
  rw [value_declare_cons, h]
  dsimp only
  rw [hname]
  by_cases hknown : d.name ∈ Keyed.keys known
  · obtain ⟨value, hvalue⟩ := Keyed.mem_keys_iff.1 hknown
    rw [if_pos hknown, hvalue]
    rfl
  · rw [if_neg hknown, Keyed.lookup_eq_none_iff.2 hknown]
    rfl

/-- Declarations that are accepted one by one are accepted together, or one is refused whose name is
written twice. -/
theorem declare_cases_of_valid {known : Locals} {ds : List Declaration}
    (hknown : (Keyed.keys known).Nodup)
    (hvalid : ∀ d ∈ ds, (LocalEntry.check settings d).outcome.isOk = true) :
    ((Keyed.keys known ++ ds.map Declaration.name).Nodup ∧
      ∃ locals, (declare settings known ds).value = .ok locals) ∨
    ∃ d : Declaration, 1 < (Keyed.keys known ++ ds.map Declaration.name).count d.name ∧
      (declare settings known ds).value = .error (d.misshapen .duplicateLocal) := by
  induction ds generalizing known with
  | nil => exact .inl ⟨by simpa using hknown, known, rfl⟩
  | cons d rest ih =>
    have hrest : ∀ other ∈ rest, (LocalEntry.check settings other).outcome.isOk = true :=
      fun other hother => hvalid other (List.mem_cons_of_mem _ hother)
    cases hread : (LocalEntry.check settings d).outcome with
    | error e =>
      have hok := hvalid d List.mem_cons_self
      rw [hread] at hok
      cases hok
    | ok c =>
      rw [value_declare_of_valid settings hread, List.map_cons]
      split
      · next hmem => exact .inr ⟨d, count_of_mem hmem _, rfl⟩
      · next hnew =>
        have hnext := ih (Keyed.nodup_keys_concat c.entity.expression hknown hnew) hrest
        rwa [Keyed.keys_concat, List.append_assoc, List.singleton_append] at hnext

/-- What is told of local values that are evaluated is not that one is declared twice. -/
theorem rule_ne_of_truthful {locals : Locals} {bound : Nat} {e : AnalysisError}
    (h : e.Truthful locals bound) : e.rule ≠ .duplicateBlock := by
  cases h <;> exact fun hrule => by cases hrule

/-- Of declarations that are accepted one by one, the evaluation tells that a local value is declared
twice exactly if one is. -/
theorem duplicate_evaluateDeclared_iff {ds : List Declaration}
    (hvalid : ∀ d ∈ localsOf ds, (LocalEntry.check settings d).outcome.isOk = true) :
    (∃ e, (evaluateDeclared settings ds).value = .error e ∧ e.rule = .duplicateBlock) ↔
      ¬ ((localsOf ds).map Declaration.name).Nodup := by
  have hnone : (Keyed.keys ([] : Locals)).Nodup := List.nodup_nil
  have hdeclare := declare_cases_of_valid settings hnone hvalid
  rw [Keyed.keys_nil, List.nil_append, localsOf] at hdeclare
  rw [value_evaluateDeclared]
  constructor
  · intro h hnodup
    obtain ⟨e, he, hrule⟩ := h
    rcases hdeclare with ⟨-, locals, hlocals⟩ | ⟨d, hcount, -⟩
    · rw [hlocals] at he
      obtain ⟨root, hroot, hblocked⟩ :=
        Evaluator.exists_blocked_of_evaluateAll locals settings.maxDependencyDepth [] he
      exact rule_ne_of_truthful (hblocked.truthful hroot) hrule
    · exact not_nodup_of_count hcount hnodup
  · intro hrepeated
    rcases hdeclare with ⟨hnodup, -⟩ | ⟨d, -, hd⟩
    · exact absurd hnodup hrepeated
    · exact ⟨d.misshapen .duplicateLocal, by rw [hd], rfl⟩

end Locals

/-! ### Both readings -/

/-- The local values of a document are refused exactly if two of its declarations share a name, and
then one is told that does; and that is exactly when the evaluation of these declarations, each of
them acceptable by itself, tells of a duplicate. Otherwise they are the names and values of the
declarations, in order. -/
theorem Document.localValues_agree {text : String} {ds : List Declaration}
    (h : Document.declarations text = .ok ds) :
    ((∃ fault, Document.localValues text = .error fault) ↔
      ¬ ((localsOf ds).map Declaration.name).Nodup) ∧
    (∀ fault, Document.localValues text = .error fault →
      ∃ name, fault = .repeatedLocal name ∧ 1 < ((localsOf ds).map Declaration.name).count name) ∧
    (∀ settings, (∀ d ∈ localsOf ds, (LocalEntry.check settings d).outcome.isOk = true) →
      ((∃ e, (Locals.evaluateDeclared settings (localsOf ds)).value = .error e ∧
        e.rule = .duplicateBlock) ↔ ¬ ((localsOf ds).map Declaration.name).Nodup)) ∧
    ∀ found, Document.localValues text = .ok found →
      localsOf ds = found.map fun entry => .ofLocal entry.1 entry.2 := by
  obtain ⟨blocks, hblocks, h⟩ := exists_of_bind_eq_ok h
  obtain ⟨declared, hdeclared, h⟩ := exists_of_bind_eq_ok h
  cases h
  have hlocals := Document.localsOf_flatten hdeclared
  have hvalues : Document.localValues text =
      Document.addLocals [] (Document.localAttributes blocks) := by
    rw [Document.localValues, hblocks]
    rfl
  have hnames : (localsOf declared.flatten).map Declaration.name =
      (Document.localAttributes blocks).map (·.key) := by
    rw [hlocals, List.map_map]
    rfl
  have hevaluate := fun settings =>
    @Locals.duplicate_evaluateDeclared_iff settings (localsOf declared.flatten)
  simp only [localsOf_localsOf] at hevaluate
  have hnone : (Keyed.keys ([] : Keyed Value)).Nodup := List.nodup_nil
  have hcases := Document.addLocals_cases hnone (Document.localAttributes blocks)
  rw [Keyed.keys_nil, List.nil_append, ← hnames, ← hvalues] at hcases
  rcases hcases with ⟨hnodup, hok⟩ | ⟨name, hcount, herror⟩
  · rw [hok]
    refine ⟨⟨fun hfault => ?_, fun hrepeated => absurd hnodup hrepeated⟩, ?_, hevaluate, ?_⟩
    · obtain ⟨fault, hfault⟩ := hfault
      cases hfault
    · intro fault hfault
      cases hfault
    · intro found hfound
      cases hfound
      rw [hlocals, List.nil_append, List.map_map]
      rfl
  · rw [herror]
    refine ⟨⟨fun _ => not_nodup_of_count hcount, fun _ => ⟨_, rfl⟩⟩, ?_, hevaluate, ?_⟩
    · intro fault hfault
      cases hfault
      exact ⟨name, rfl, hcount⟩
    · intro found hfound
      cases hfound

/-- A name that stands in two blocks, with a block of another kind and an empty one between them. -/
theorem Document.localValues_agree_repeated :
    Document.declarations
        "locals \x7b\n a = 1\n\x7d\nvariable \"v\" \x7b\x7d\nlocals \x7b\x7d\nlocals \x7b\n a = null\n\x7d" =
      .ok [.ofLocal "a" (.int 1), ⟨.variable, "v", []⟩, .ofLocal "a" .null] ∧
    (∀ d ∈ localsOf [.ofLocal "a" (.int 1), ⟨.variable, "v", []⟩, .ofLocal "a" .null],
      (LocalEntry.check .default d).outcome.isOk = true) ∧
    (∃ fault, Document.localValues
        "locals \x7b\n a = 1\n\x7d\nvariable \"v\" \x7b\x7d\nlocals \x7b\x7d\nlocals \x7b\n a = null\n\x7d" =
      .error fault) ∧
    ∃ e, (Locals.evaluateDeclared .default (localsOf
      [.ofLocal "a" (.int 1), ⟨.variable, "v", []⟩, .ofLocal "a" .null])).value = .error e ∧
        e.rule = .duplicateBlock := by
  have hdeclared : Document.declarations
        "locals \x7b\n a = 1\n\x7d\nvariable \"v\" \x7b\x7d\nlocals \x7b\x7d\nlocals \x7b\n a = null\n\x7d" =
      .ok [.ofLocal "a" (.int 1), ⟨.variable, "v", []⟩, .ofLocal "a" .null] := by
    decide +kernel
  have hvalid : ∀ d ∈ localsOf [.ofLocal "a" (.int 1), ⟨.variable, "v", []⟩, .ofLocal "a" .null],
      (LocalEntry.check .default d).outcome.isOk = true := by
    decide +kernel
  obtain ⟨hvalues, -, hevaluate, -⟩ := Document.localValues_agree hdeclared
  exact ⟨hdeclared, hvalid, hvalues.2 (by decide), (hevaluate .default hvalid).2 (by decide)⟩

end InfraConfig
