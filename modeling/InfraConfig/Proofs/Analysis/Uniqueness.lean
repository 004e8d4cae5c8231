import InfraConfig.Proofs.Analysis.Attribution

/-! Entities of a report are told apart by their keys. Repeated declarations are refused by their
identity, in which an attribute that is no text counts as absent; the checks read the same
attributes and refuse what is no text. Since what is accepted has the identity of its declaration
(`Declaration.Gives`), entities of one kind differ in name, providers in name or alias, data sources
in name or type; and the local values are those declared, each once
(`Analyzer.distinguished_analyze`). -/
namespace InfraConfig

/-! ### Blocks -/

namespace Analyzer

variable (a : Analyzer) (now : Nat)

/-- The identities of what is accepted among blocks. -/
def acceptedIdentities (earlier blocks : List Declaration) : List Identity :=
  ((a.outcomes now earlier blocks).filterMap BlockOutcome.entity?).map Entity.identity

/-- No identity is accepted twice, nor after an earlier block that has it. -/
theorem nodup_acceptedIdentities (earlier blocks : List Declaration) :
    (a.acceptedIdentities now earlier blocks).Nodup ∧
      ∀ identity ∈ a.acceptedIdentities now earlier blocks,
        identity ∉ earlier.map Declaration.identity := by
  induction blocks generalizing earlier with
  | nil => exact ⟨List.nodup_nil, nofun⟩
  | cons d rest ih =>
    obtain ⟨hnodup, hlater⟩ := ih (earlier ++ [d])
    have hrest : ∀ identity ∈ a.acceptedIdentities now (earlier ++ [d]) rest,
        identity ∉ earlier.map Declaration.identity ∧ identity ≠ d.identity := by
      intro identity hmem
      have hnot := hlater identity hmem
      rw [List.map_append, List.mem_append, List.map_singleton, List.mem_singleton] at hnot
      exact not_or.1 hnot
    have hsettles := a.settles_resultAfter now d earlier
    rw [acceptedIdentities, outcomes_cons]
    cases hresult : a.resultAfter now earlier d with
    | error e => exact ⟨hnodup, fun identity hmem => (hrest identity hmem).1⟩
    | ok c =>
      have hidentity : c.entity.identity = d.identity := (hsettles.holds hresult).identity
      have hnew : d.identity ∉ earlier.map Declaration.identity := by
        intro hseen
        rw [resultAfter, if_pos hseen] at hresult
        cases hresult
      have haccepted : BlockOutcome.entity? ⟨d, .ok c⟩ = some c.entity := rfl
      rw [List.filterMap_cons_some haccepted, List.map_cons, hidentity]
      constructor
      · exact List.nodup_cons.2 ⟨fun hmem => (hrest _ hmem).2 rfl, hnodup⟩
      · exact List.forall_mem_cons.2 ⟨hnew, fun identity hmem => (hrest identity hmem).1⟩

/-- The entities of a kind in a report have different identities. -/
theorem nodup_identity_ofKind (declarations : List Declaration) (kind : BlockKind) :
    (((a.analyze now declarations).value.1.analysis.ofKind kind).map Entity.identity).Nodup := by
  have hentities := (a.accounts_analyze now declarations).1.entities kind
  obtain ⟨hnodup, -⟩ := a.nodup_acceptedIdentities now [] (blocksOf declarations)
  have hkind : (a.outcomes now [] (blocksOf declarations)).filterMap (BlockOutcome.entityOf? kind) =
      ((a.outcomes now [] (blocksOf declarations)).filter
        fun o => decide (o.block.kind = kind)).filterMap BlockOutcome.entity? := by
    rw [List.filterMap_filter]
    simp only [decide_eq_true_eq]
    rfl
  rw [hentities, hkind]
  exact hnodup.sublist ((List.filter_sublist.filterMap _).map _)

end Analyzer

/-! ### Local values -/

namespace Locals

variable (settings : Settings)

/-- No local value is declared twice. -/
theorem nodup_keys_of_declare {known locals : Locals} {ds : List Declaration}
    (hknown : (Keyed.keys known).Nodup) (h : (declare settings known ds).value = .ok locals) :
    (Keyed.keys locals).Nodup := by
  induction ds generalizing known with
  | nil =>
    cases h
    exact hknown
  | cons d rest ih =>
    rw [value_declare_cons] at h
    cases hread : (LocalEntry.check settings d).outcome with
    | error e =>
      rw [hread] at h
      cases h
    | ok c =>
      simp only [hread] at h
      split at h
      · cases h
      · next hnew =>
        have hfresh : c.entity.name ∉ Keyed.keys known :=
          Keyed.lookup_eq_none_iff.1 (Option.not_isSome_iff_eq_none.1 hnew)
        refine ih ?_ h
        rw [← Keyed.insert_of_not_mem _ hfresh]
        exact Keyed.nodup_keys_insert _ _ hknown

/-- The entries of local values that are evaluated are those declared, in order. -/
theorem keys_of_evaluateDeclared {declarations : List Declaration} {l : EvaluatedLocals}
    (h : (evaluateDeclared settings declarations).value = .ok l) :
    Keyed.keys l.entries =
        (declarations.filter (·.kind == .localValue)).map Declaration.name ∧
      (Keyed.keys l.entries).Nodup := by
  rw [value_evaluateDeclared] at h
  rcases declare_cases settings [] (declarations.filter (·.kind == .localValue)) with
    ⟨e, he, -⟩ | ⟨locals, hlocals, hkeys⟩
  · rw [he] at h
    cases h
  · have hnone : (Keyed.keys ([] : Locals)).Nodup := List.nodup_nil
    have hnodup := nodup_keys_of_declare settings hnone hlocals
    rw [hlocals] at h
    obtain ⟨after, -, hafter, -, rfl⟩ :=
      Evaluator.exists_settled_of_evaluateAll locals settings.maxDependencyDepth [] h
    have hentries : Keyed.keys after.entries = Keyed.keys locals := by
      rw [← Evaluator.keys_locals, hafter, Keyed.ofList_of_nodup hnodup]
    exact ⟨hentries.trans hkeys, hentries ▸ hnodup⟩

end Locals

/-! ### Reports -/

/-- What tells the entities of a report apart: names, of providers also the alias, of data sources
also the type. Its local values are those declared, each once. -/
structure Report.Distinguished (r : Report) (declarations : List Declaration) : Prop where
  inputVariables : (r.analysis.inputVariables.map InputVariable.name).Nodup
  outputs : (r.analysis.outputs.map OutputValue.name).Nodup
  modules : (r.analysis.modules.map ModuleCall.name).Nodup
  providers : (r.analysis.providers.map fun p => (p.name, p.aliasName)).Nodup
  dataSources : (r.analysis.dataSources.map fun s => (s.name, s.type)).Nodup
  locals : ∀ l, r.analysis.locals = some l →
    Keyed.keys l.entries = (declarations.filter (·.kind == .localValue)).map Declaration.name ∧
      (Keyed.keys l.entries).Nodup

/-- Entities whose identities say no more than their keys differ in their keys. -/
theorem nodup_keys_of_identities {α κ : Type} {entities : List α} {entity : α → Entity}
    {key : α → κ} (identity : κ → Identity) (h : ∀ x, (entity x).identity = identity (key x))
    (hnodup : ((entities.map entity).map Entity.identity).Nodup) : (entities.map key).Nodup := by
  have hkeys : (entities.map entity).map Entity.identity = (entities.map key).map identity := by
    simp only [List.map_map, Function.comp_def, h]
  rw [hkeys] at hnodup
  exact hnodup.of_map

/-- In what is found in a configuration unit, no two entities have the same key. -/
theorem Analyzer.distinguished_analyze (a : Analyzer) (now : Nat)
    (declarations : List Declaration) :
    (a.analyze now declarations).value.1.Distinguished declarations := by
  have hnodup := a.nodup_identity_ofKind now declarations
  constructor
  case inputVariables =>
    exact nodup_keys_of_identities (⟨.variable, ·, none⟩) (fun _ => rfl) (hnodup .variable)
  case outputs =>
    exact nodup_keys_of_identities (⟨.output, ·, none⟩) (fun _ => rfl) (hnodup .output)
  case modules =>
    exact nodup_keys_of_identities (⟨.moduleCall, ·, none⟩) (fun _ => rfl) (hnodup .moduleCall)
  case providers =>
    exact nodup_keys_of_identities (fun key => ⟨.provider, key.1, key.2⟩) (fun _ => rfl)
      (hnodup .provider)
  case dataSources =>
    exact nodup_keys_of_identities (fun key => ⟨.dataSource, key.1, some key.2⟩) (fun _ => rfl)
      (hnodup .dataSource)
  case locals =>
    intro l hl
    rw [(a.accounts_analyze now declarations).1.locals] at hl
    split at hl
    · refine Locals.keys_of_evaluateDeclared a.settings ?_
      cases hvalue : (Locals.evaluateDeclared a.settings declarations).value with
      | error e =>
        rw [hvalue] at hl
        cases hl
      | ok found =>
        rw [hvalue] at hl
        cases hl
        rfl
    · cases hl

end InfraConfig
