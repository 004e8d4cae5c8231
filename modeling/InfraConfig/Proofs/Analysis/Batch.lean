import InfraConfig.Proofs.Analysis.Outcome
import Mathlib.Data.List.Basic

/-! What a report tells of a list of declarations. The blocks, which are the declarations other than
local values, have one outcome each (`Analyzer.outcomes`): an error if an earlier block has the same
identity, and otherwise what the check of the block answers. The report is these outcomes put
together, entities by kind, next to the outcome of the local values (`Analyzer.Accounts`). -/
namespace InfraConfig

/-! ### Entities and errors -/

/-- The error that an outcome is. -/
def failure? {α : Type} : Except AnalysisError α → Option AnalysisError
  | .ok _ => none
  | .error e => some e

theorem failure?_eq_some_iff {α : Type} {x : Except AnalysisError α} {e : AnalysisError} :
    failure? x = some e ↔ x = .error e := by
  cases x <;> simp [failure?]

theorem failure?_map {α β : Type} (f : α → β) (x : Except AnalysisError α) :
    failure? (x.map f) = failure? x := by
  cases x <;> rfl

namespace Analysis

/-- The entities of a kind. -/
def ofKind (a : Analysis) : BlockKind → List Entity
  | .localValue => []
  | .variable => a.inputVariables.map .variable
  | .output => a.outputs.map .output
  | .provider => a.providers.map .provider
  | .moduleCall => a.modules.map .moduleCall
  | .dataSource => a.dataSources.map .dataSource

/-- The entities of all kinds. -/
def entities (a : Analysis) : List Entity := BlockKind.all.flatMap a.ofKind

section Add
variable (a : Analysis) {e : Entity}

theorem locals_add (e : Entity) : (a.add e).locals = a.locals := by
  cases e <;> rfl

theorem ofKind_add (h : e.kind ≠ .localValue) (kind : BlockKind) :
    (a.add e).ofKind kind = a.ofKind kind ++ if e.kind = kind then [e] else [] := by
  cases e <;> cases kind <;> simp [add, ofKind, Entity.kind] at h ⊢

theorem length_entities_add (h : e.kind ≠ .localValue) :
    (a.add e).entities.length = a.entities.length + 1 := by
  simp only [entities, BlockKind.all, List.flatMap_cons, List.flatMap_nil, List.length_append,
    List.length_nil, ofKind_add a h]
  cases e <;> simp [Entity.kind] at h ⊢ <;> omega

end Add

end Analysis

/-! ### Outcomes -/

/-- A block with what becomes of it. -/
structure BlockOutcome where
  block : Declaration
  result : Except AnalysisError (Checked Entity)

namespace BlockOutcome

/-- The entity that is accepted. -/
def entity? (o : BlockOutcome) : Option Entity := o.result.toOption.map Checked.entity

/-- The entity that is accepted for a block of a kind. -/
def entityOf? (kind : BlockKind) (o : BlockOutcome) : Option Entity :=
  if o.block.kind = kind then o.entity? else none

/-- The error for a block that is refused. -/
def error? (o : BlockOutcome) : Option AnalysisError := failure? o.result

/-- The warnings about an entity that is accepted. -/
def warnings (o : BlockOutcome) : List Diagnostic :=
  (o.result.toOption.map Checked.warnings).getD []

/-- What is accepted is of the kind of the block, and no local value. -/
def Proper (o : BlockOutcome) : Prop :=
  o.block.kind ≠ .localValue ∧ ∀ e, o.entity? = some e → e.kind = o.block.kind

end BlockOutcome

namespace Report

section Add
variable (r : Report) (o : BlockOutcome)

theorem errors_add : (r.add o.result).errors = r.errors ++ o.error?.toList := by
  obtain ⟨block, _ | _⟩ := o <;> simp [add, addError, BlockOutcome.error?, failure?]

theorem warnings_add : (r.add o.result).warnings = r.warnings ++ o.warnings := by
  obtain ⟨block, _ | _⟩ := o <;> simp [add, addError, BlockOutcome.warnings, Except.toOption]

theorem locals_add : (r.add o.result).analysis.locals = r.analysis.locals := by
  obtain ⟨block, _ | _⟩ := o
  · rfl
  · exact r.analysis.locals_add _

variable {o} (h : o.Proper)
include h

theorem ofKind_add (kind : BlockKind) :
    (r.add o.result).analysis.ofKind kind =
      r.analysis.ofKind kind ++ (o.entityOf? kind).toList := by
  obtain ⟨block, e | checked⟩ := o
  · simp [add, addError, BlockOutcome.entityOf?, BlockOutcome.entity?, Except.toOption]
  · have hkind : checked.entity.kind = block.kind := h.2 checked.entity rfl
    have hproper : checked.entity.kind ≠ .localValue := hkind ▸ h.1
    rw [add, Analysis.ofKind_add _ hproper, hkind]
    by_cases heq : block.kind = kind <;>
      simp [heq, BlockOutcome.entityOf?, BlockOutcome.entity?, Except.toOption]

theorem size_add :
    (r.add o.result).analysis.entities.length + (r.add o.result).errors.length =
      r.analysis.entities.length + r.errors.length + 1 := by
  obtain ⟨block, e | checked⟩ := o
  · simp [add, addError, Nat.add_assoc]
  · have hkind : checked.entity.kind = block.kind := h.2 checked.entity rfl
    have hproper : checked.entity.kind ≠ .localValue := hkind ▸ h.1
    simp only [add, Analysis.length_entities_add _ hproper]
    omega

end Add

/-- The report with the outcomes of blocks, one after the other. -/
def addAll (r : Report) (outcomes : List BlockOutcome) : Report :=
  outcomes.foldl (fun r o => r.add o.result) r

/-- What grows by a part for each outcome has grown by all parts, in order. -/
theorem view_addAll {β : Type} (view : Report → List β) (part : BlockOutcome → List β)
    {outcomes : List BlockOutcome}
    (h : ∀ o ∈ outcomes, ∀ r : Report, view (r.add o.result) = view r ++ part o) (r : Report) :
    view (r.addAll outcomes) = view r ++ outcomes.flatMap part := by
  induction outcomes generalizing r with
  | nil => simp [addAll]
  | cons o rest ih =>
    have hrest := ih (fun o ho => h o (List.mem_cons_of_mem _ ho)) (r.add o.result)
    rw [addAll] at hrest
    rw [addAll, List.foldl_cons, hrest, h o List.mem_cons_self, List.flatMap_cons,
      List.append_assoc]

section AddAll
variable (r : Report) (outcomes : List BlockOutcome)

theorem errors_addAll :
    (r.addAll outcomes).errors = r.errors ++ outcomes.filterMap BlockOutcome.error? := by
  rw [List.filterMap_eq_flatMap_toList]
  exact view_addAll errors (·.error?.toList) (fun o _ r => r.errors_add o) r

theorem warnings_addAll :
    (r.addAll outcomes).warnings = r.warnings ++ outcomes.flatMap BlockOutcome.warnings :=
  view_addAll warnings BlockOutcome.warnings (fun o _ r => r.warnings_add o) r

theorem locals_addAll : (r.addAll outcomes).analysis.locals = r.analysis.locals := by
  induction outcomes generalizing r with
  | nil => rfl
  | cons o rest ih => exact (ih (r.add o.result)).trans (r.locals_add o)

variable {outcomes} (h : ∀ o ∈ outcomes, o.Proper)
include h

theorem ofKind_addAll (kind : BlockKind) :
    (r.addAll outcomes).analysis.ofKind kind =
      r.analysis.ofKind kind ++ outcomes.filterMap (BlockOutcome.entityOf? kind) := by
  rw [List.filterMap_eq_flatMap_toList]
  exact view_addAll (·.analysis.ofKind kind) (fun o => (o.entityOf? kind).toList)
    (fun o ho r => r.ofKind_add (h o ho) kind) r

theorem size_addAll :
    (r.addAll outcomes).analysis.entities.length + (r.addAll outcomes).errors.length =
      r.analysis.entities.length + r.errors.length + outcomes.length := by
  induction outcomes generalizing r with
  | nil => rfl
  | cons o rest ih =>
    have hstep := r.size_add (h o List.mem_cons_self)
    have hrest := ih (r.add o.result) fun o ho => h o (List.mem_cons_of_mem _ ho)
    rw [List.length_cons]
    show ((r.add o.result).addAll rest).analysis.entities.length +
      ((r.add o.result).addAll rest).errors.length = _
    omega

end AddAll

end Report

/-! ### Blocks -/

/-- The declarations other than local values. -/
def blocksOf (declarations : List Declaration) : List Declaration :=
  declarations.filter (·.kind != .localValue)

namespace Analyzer

/-- What becomes of a block that comes after others. -/
def resultAfter (a : Analyzer) (now : Nat) (earlier : List Declaration) (d : Declaration) :
    Except AnalysisError (Checked Entity) :=
  if d.identity ∈ earlier.map Declaration.identity then .error (d.misshapen .duplicateBlock)
  else (a.validate now d.kind d).value.1

/-- The outcomes of blocks that come after others, in order. -/
def outcomes (a : Analyzer) (now : Nat) (earlier blocks : List Declaration) : List BlockOutcome :=
  blocks.mapIdx fun i d => ⟨d, a.resultAfter now (earlier ++ blocks.take i) d⟩

/-- The errors of the local values: one, if they fail. -/
def localErrors (a : Analyzer) (declarations : List Declaration) : List AnalysisError :=
  (failure? (Locals.evaluateDeclared a.settings declarations).value).toList

/-- A report tells of each declaration, and of nothing else. -/
structure Accounts (a : Analyzer) (now : Nat) (declarations : List Declaration) (r : Report) :
    Prop where
  entities : ∀ kind, r.analysis.ofKind kind =
    (a.outcomes now [] (blocksOf declarations)).filterMap (BlockOutcome.entityOf? kind)
  locals : r.analysis.locals =
    if declarations.any (·.kind == .localValue) then
      (Locals.evaluateDeclared a.settings declarations).value.toOption
    else none
  errors : r.errors = a.localErrors declarations ++
    (a.outcomes now [] (blocksOf declarations)).filterMap BlockOutcome.error?
  warnings : r.warnings = (a.outcomes now [] (blocksOf declarations)).flatMap BlockOutcome.warnings
  count : r.analysis.entities.length + r.errors.length =
    (a.localErrors declarations).length + (blocksOf declarations).length

variable {a : Analyzer} {now : Nat}

theorem outcomes_cons (earlier : List Declaration) (d : Declaration) (rest : List Declaration) :
    a.outcomes now earlier (d :: rest) =
      ⟨d, a.resultAfter now earlier d⟩ :: a.outcomes now (earlier ++ [d]) rest := by
  simp [outcomes, List.mapIdx_cons]

/-- One by one: whatever the checks before it have come to remember, a block is answered as by the
analyzer at the beginning. -/
theorem value_analyzeEach_fst {b : Analyzer} (h : Agree now b a) {seen : List Identity}
    {earlier : List Declaration}
    (hseen : ∀ identity, identity ∈ seen ↔ identity ∈ earlier.map Declaration.identity)
    (r : Report) (blocks : List Declaration) :
    (b.analyzeEach now seen r blocks).value.1 = r.addAll (a.outcomes now earlier blocks) := by
  -- The identities seen count by membership only, and the analyzer only by its answers.
  induction blocks generalizing b seen earlier r with
  | nil => rfl
  | cons d rest ih =>
    rw [outcomes_cons, analyzeEach]
    by_cases hrepeated : d.identity ∈ earlier.map Declaration.identity
    · have hcontains : seen.contains d.identity = true := by
        rw [List.contains_iff_mem]
        exact (hseen _).2 hrepeated
      have hresult : a.resultAfter now earlier d = .error (d.misshapen .duplicateBlock) :=
        if_pos hrepeated
      have hseen' : ∀ identity, identity ∈ seen ↔
          identity ∈ (earlier ++ [d]).map Declaration.identity := by
        intro identity
        rw [hseen, List.map_append, List.mem_append, List.map_singleton, List.mem_singleton]
        constructor
        · exact .inl
        · rintro (hmem | rfl)
          · exact hmem
          · exact hrepeated
      rw [if_pos hcontains, ih h hseen', hresult]
      rfl
    · have hcontains : ¬ seen.contains d.identity = true := by
        rw [List.contains_iff_mem, hseen]
        exact hrepeated
      have hresult : a.resultAfter now earlier d = (b.validate now d.kind d).value.1 := by
        rw [resultAfter, if_neg hrepeated, outcome_eq_of_agree d h]
      have hseen' : ∀ identity, identity ∈ d.identity :: seen ↔
          identity ∈ (earlier ++ [d]).map Declaration.identity := by
        intro identity
        rw [List.mem_cons, hseen, List.map_append, List.mem_append, List.map_singleton,
          List.mem_singleton, or_comm]
      rw [if_neg hcontains, Traced.value_bind]
      have hafter := (agree_validate b now d d.kind).trans h
      rw [hresult]
      exact ih hafter hseen' _

theorem getElem?_outcomes (blocks : List Declaration) (i : Nat) :
    (a.outcomes now [] blocks)[i]? =
      blocks[i]?.map fun d => ⟨d, a.resultAfter now (blocks.take i) d⟩ := by
  simp [outcomes, List.getElem?_mapIdx]

theorem proper_outcomes (a : Analyzer) (now : Nat) (declarations : List Declaration) :
    ∀ o ∈ a.outcomes now [] (blocksOf declarations), o.Proper := by
  intro o ho
  obtain ⟨i, hi⟩ := List.getElem?_of_mem ho
  rw [getElem?_outcomes] at hi
  obtain ⟨d, hd, rfl⟩ := Option.map_eq_some_iff.1 hi
  have hkind : d.kind ≠ .localValue := by
    have hmem := List.mem_filter.1 (List.mem_of_getElem? hd)
    simpa using hmem.2
  refine ⟨hkind, fun e he => ?_⟩
  simp only [BlockOutcome.entity?, resultAfter] at he
  split at he
  · cases he
  · cases hresult : (a.validate now d.kind d).value.1 with
    | error failure =>
      rw [hresult] at he
      cases he
    | ok checked =>
      rw [hresult] at he
      cases he
      exact kind_of_validate hresult

/-- Without local values nothing fails. -/
theorem localErrors_eq_nil {declarations : List Declaration}
    (h : declarations.any (·.kind == .localValue) = false) : a.localErrors declarations = [] := by
  have hnone : declarations.filter (·.kind == .localValue) = [] := by
    rw [List.any_eq_false] at h
    exact List.filter_eq_nil_iff.2 h
  have hvalue : (Locals.evaluateDeclared a.settings declarations).value = .ok ⟨[], []⟩ := by
    rw [Locals.evaluateDeclared, hnone]
    rfl
  rw [localErrors, hvalue]
  rfl

/-- The report before the first block. -/
def localReport (a : Analyzer) (declarations : List Declaration) : Report :=
  if declarations.any (·.kind == .localValue) then
    Report.empty.addLocals (Locals.evaluateDeclared a.settings declarations).value
  else .empty

variable (a now) in
theorem value_analyze (declarations : List Declaration) :
    (a.analyze now declarations).value =
      (a.analyzeEach now [] (a.localReport declarations) (blocksOf declarations)).value := by
  rw [analyze, localReport]
  split <;> rfl

theorem value_analyze_fst (declarations : List Declaration) :
    (a.analyze now declarations).value.1 =
      (a.localReport declarations).addAll (a.outcomes now [] (blocksOf declarations)) := by
  rw [value_analyze]
  exact value_analyzeEach_fst (Agree.refl now a) (by simp) _ _

theorem localReport_eq (declarations : List Declaration) :
    a.localReport declarations =
      ⟨{ Analysis.empty with
          locals :=
            if declarations.any (·.kind == .localValue) then
              (Locals.evaluateDeclared a.settings declarations).value.toOption
            else none },
        a.localErrors declarations, []⟩ := by
  rw [localReport]
  split
  · rw [localErrors]
    cases (Locals.evaluateDeclared a.settings declarations).value <;> rfl
  · next hnone =>
    rw [localErrors_eq_nil (eq_false_of_ne_true hnone)]
    rfl

/-- The outcome of a block depends on no other block but an earlier one of its identity. -/
theorem outcomes_independent (a : Analyzer) (now : Nat) {blocks others : List Declaration}
    {i j : Nat} {d : Declaration} (hd : blocks[i]? = some d) (hd' : others[j]? = some d)
    (h : d.identity ∈ (blocks.take i).map Declaration.identity ↔
      d.identity ∈ (others.take j).map Declaration.identity) :
    (a.outcomes now [] blocks)[i]? = (a.outcomes now [] others)[j]? := by
  simp only [getElem?_outcomes, hd, hd', Option.map_some, resultAfter, h]

/-- A report tells exactly what becomes of each declaration, and what becomes of a block does not
depend on the others unless it repeats one. -/
theorem accounts_analyze (a : Analyzer) (now : Nat) (declarations : List Declaration) :
    Accounts a now declarations (a.analyze now declarations).value.1 ∧
      ∀ (others : List Declaration) (i j : Nat) (d : Declaration),
        (blocksOf declarations)[i]? = some d → (blocksOf others)[j]? = some d →
        (d.identity ∈ ((blocksOf declarations).take i).map Declaration.identity ↔
          d.identity ∈ ((blocksOf others).take j).map Declaration.identity) →
        (a.outcomes now [] (blocksOf declarations))[i]? =
          (a.outcomes now [] (blocksOf others))[j]? := by
  refine ⟨?_, fun others i j d hd hd' => outcomes_independent a now hd hd'⟩
  have hproper := proper_outcomes a now declarations
  have hlength : (a.outcomes now [] (blocksOf declarations)).length =
      (blocksOf declarations).length := List.length_mapIdx
  rw [value_analyze_fst]
  constructor
  case entities =>
    intro kind
    rw [Report.ofKind_addAll _ hproper, localReport_eq]
    cases kind <;> rfl
  case locals => rw [Report.locals_addAll, localReport_eq]
  case errors => rw [Report.errors_addAll, localReport_eq]
  case warnings =>
    rw [Report.warnings_addAll, localReport_eq]
    rfl
  case count =>
    rw [Report.size_addAll _ hproper, hlength, localReport_eq]
    exact congrArg (· + _) (Nat.zero_add _)

end Analyzer

end InfraConfig
