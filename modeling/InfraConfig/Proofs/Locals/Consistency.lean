import InfraConfig.Proofs.Locals.Coverage
import InfraConfig.Proofs.Locals.Graph
import Mathlib.Data.List.Perm.Subperm

/-! What an evaluator keeps agrees with what is declared. `Settled` is about the completed local
values: the entries, the order of completion and the depths tell of the same names, a name comes
after all that it depends on, its depth is the length of its longest chain, and its value is what
its expression becomes under the values of all others. `Stacked` is about those that are being
evaluated. The step that keeps both is the record of one more name (`Settled.record`). -/
namespace InfraConfig.Evaluator

open LocalEntry (environment)

/-- What is kept of the local values that are evaluated. -/
structure Settled (e : Evaluator) : Prop where
  nodup_order : e.order.Nodup
  /-- The depths are kept for the names that are evaluated, in the same order. -/
  keys_depths : Keyed.keys e.depths = e.order
  declared : ∀ name ∈ e.order, name ∈ Keyed.keys e.entries
  evaluated_iff : ∀ name entry, e.entries.lookup name = some entry →
    (entry.evaluated = true ↔ name ∈ e.order)
  /-- What a name depends on is evaluated before it. -/
  sorted : ∀ before name after, e.order = before ++ name :: after →
    ∀ other, e.locals.DependsOn name other → other ∈ before
  /-- The depth is the number of links in the longest chain, and within the bound. -/
  longest : ∀ name depth, e.depths.lookup name = some depth →
    IsGreatest {links | e.locals.StartsChain name links} depth
  bounded : ∀ name depth, e.depths.lookup name = some depth → depth ≤ e.maxDepth
  /-- The value fits the values that are known by now. -/
  value_eq : ∀ name entry, e.entries.lookup name = some entry → entry.evaluated = true →
    entry.value = (environment e.entries).substitute entry.expression
  untouched : ∀ name entry, e.entries.lookup name = some entry → entry.evaluated = false →
    entry.value = .null

/-- What stands on the stack: a chain of declared names, none of them twice or evaluated. -/
structure Stacked (e : Evaluator) : Prop where
  nodup : e.resolving.Nodup
  chain : e.resolving.IsChain e.locals.DependsOn
  declared : ∀ name ∈ e.resolving, name ∈ Keyed.keys e.entries
  fresh : ∀ name ∈ e.resolving, name ∉ e.order

theorem stacked_of_resolving_nil {e : Evaluator} (h : e.resolving = []) : e.Stacked := by
  refine ⟨?_, ?_, ?_, ?_⟩ <;> simp [h]

theorem settled_ofList (locals : List (String × Value)) (maxDepth : Nat) :
    (ofList locals maxDepth).Settled := by
  have hentry : ∀ name entry, (ofList locals maxDepth).entries.lookup name = some entry →
      entry.evaluated = false ∧ entry.value = .null := by
    intro name entry hlookup
    rw [ofList, ← Keyed.mapValues_ofList LocalEntry.ofExpression, Keyed.lookup_mapValues] at hlookup
    obtain ⟨expression, _, rfl⟩ := Option.map_eq_some_iff.1 hlookup
    exact ⟨rfl, rfl⟩
  refine ⟨List.nodup_nil, rfl, nofun, fun name entry h => ?_, ?_, nofun, nofun, ?_, ?_⟩
  · simp [(hentry name entry h).1, ofList]
  · intro before name after h
    simp [ofList] at h
  · intro name entry h hevaluated
    simp [(hentry name entry h).1] at hevaluated
  · exact fun name entry h _ => (hentry name entry h).2

theorem locals_ofList (locals : List (String × Value)) (maxDepth : Nat) :
    (ofList locals maxDepth).locals = Keyed.ofList locals := by
  rw [Evaluator.locals, ofList, Keyed.mapValues_ofList, List.map_map]
  exact congrArg Keyed.ofList (List.map_id locals)

theorem keys_locals (e : Evaluator) : Keyed.keys e.locals = Keyed.keys e.entries :=
  Keyed.keys_mapValues ..

theorem lookup_locals_of_entry {e : Evaluator} {name : String} {entry : LocalEntry}
    (h : e.entries.lookup name = some entry) : e.locals.lookup name = some entry.expression := by
  rw [lookup_locals, h]
  rfl

theorem Keeps.keys {before after : Evaluator} (h : before.Keeps after) :
    Keyed.keys after.entries = Keyed.keys before.entries := by
  rw [← keys_locals, h.locals, keys_locals]

/-! ### What is known -/

theorem environment_eq_some_iff {entries : Keyed LocalEntry} {name : String} {value : Value} :
    environment entries name = some value ↔
      ∃ entry, entries.lookup name = some entry ∧ entry.evaluated = true ∧ entry.value = value := by
  simp only [environment, Option.map_eq_some_iff, Option.filter_eq_some_iff]
  constructor
  · rintro ⟨entry, ⟨hlookup, hevaluated⟩, hvalue⟩
    exact ⟨entry, hlookup, hevaluated, hvalue⟩
  · rintro ⟨entry, hlookup, hevaluated, hvalue⟩
    exact ⟨entry, ⟨hlookup, hevaluated⟩, hvalue⟩

namespace Settled

variable {e : Evaluator} {name other : String} {expression : Value}

theorem mem_order_of_known (h : e.Settled) {value : Value}
    (hknown : environment e.entries name = some value) : name ∈ e.order := by
  obtain ⟨entry, hlookup, hevaluated, _⟩ := environment_eq_some_iff.1 hknown
  exact (h.evaluated_iff name entry hlookup).1 hevaluated

theorem exists_entry (h : e.Settled) (hmem : name ∈ e.order) :
    ∃ entry, e.entries.lookup name = some entry ∧ entry.evaluated = true := by
  obtain ⟨entry, hlookup⟩ := Keyed.mem_keys_iff.1 (h.declared name hmem)
  exact ⟨entry, hlookup, (h.evaluated_iff name entry hlookup).2 hmem⟩

/-- The value of a name that is evaluated. -/
theorem environment_eq (h : e.Settled) (hmem : name ∈ e.order)
    (hexpression : e.locals.lookup name = some expression) :
    environment e.entries name = some ((environment e.entries).substitute expression) := by
  obtain ⟨entry, hlookup, hevaluated⟩ := h.exists_entry hmem
  rw [lookup_locals, hlookup] at hexpression
  cases hexpression
  exact environment_eq_some_iff.2 ⟨entry, hlookup, hevaluated, h.value_eq name entry hlookup hevaluated⟩

theorem exists_depth (h : e.Settled) (hmem : name ∈ e.order) :
    ∃ depth, e.depths.lookup name = some depth := by
  rw [← h.keys_depths] at hmem
  exact Keyed.mem_keys_iff.1 hmem

/-- What an evaluated name depends on is evaluated. -/
theorem closed (h : e.Settled) (hmem : name ∈ e.order) (hdepends : e.locals.DependsOn name other) :
    other ∈ e.order := by
  obtain ⟨before, after, horder⟩ := List.append_of_mem hmem
  have hbefore := h.sorted before name after horder other hdepends
  simp [horder, hbefore]

/-- The depth over dependencies that are evaluated is that of what depends on them. -/
theorem isGreatest_depthOver (h : e.Settled) (hexpression : e.locals.lookup name = some expression)
    (hdependencies : ∀ other ∈ expression.localNames, other ∈ e.order) :
    IsGreatest {links | e.locals.StartsChain name links} (e.depthOver expression.localNames) := by
  have hmem : ∀ links, links ∈ (expression.localNames.filterMap fun other =>
        (e.depths.lookup other).map (· + 1)) ↔
      ∃ other ∈ expression.localNames, ∃ depth,
        e.depths.lookup other = some depth ∧ depth + 1 = links := by
    simp [List.mem_filterMap, Option.map_eq_some_iff]
  -- A chain goes on from one of the dependencies, whose own chains are no longer than its depth.
  have hlinks : ∀ links, e.locals.StartsChain name (links + 1) →
      ∃ depth, links ≤ depth ∧ depth + 1 ∈ (expression.localNames.filterMap fun other =>
        (e.depths.lookup other).map (· + 1)) := by
    intro links hchain
    obtain ⟨other, hdepends, hrest⟩ := Locals.startsChain_succ_iff.1 hchain
    have hother := (Locals.dependsOn_iff hexpression).1 hdepends
    obtain ⟨depth, hdepth⟩ := h.exists_depth (hdependencies other hother)
    exact ⟨depth, (h.longest other depth hdepth).2 hrest, (hmem _).2 ⟨other, hother, depth, hdepth, rfl⟩⟩
  unfold depthOver
  cases hmax : (expression.localNames.filterMap fun other =>
      (e.depths.lookup other).map (· + 1)).max? with
  | none =>
    rw [List.max?_eq_none_iff] at hmax
    refine ⟨Locals.startsChain_zero name, fun links hchain => ?_⟩
    cases links with
    | zero => exact Nat.le_refl 0
    | succ links =>
      obtain ⟨depth, _, hin⟩ := hlinks links hchain
      simp [hmax] at hin
  | some greatest =>
    obtain ⟨hin, hgreatest⟩ := List.max?_eq_some_iff.1 hmax
    obtain ⟨other, hother, depth, hdepth, rfl⟩ := (hmem _).1 hin
    refine ⟨?_, fun links hchain => ?_⟩
    · exact Locals.startsChain_succ_iff.2
        ⟨other, (Locals.dependsOn_iff hexpression).2 hother, (h.longest other depth hdepth).1⟩
    · cases links with
      | zero => exact Nat.zero_le _
      | succ links =>
        obtain ⟨depth', hle, hin'⟩ := hlinks links hchain
        have := hgreatest _ hin'
        simp only [Option.getD_some]
        omega

end Settled

/-! ### One more name -/

theorem environment_record {e : Evaluator} {name : String} (hmem : name ∈ Keyed.keys e.entries)
    (value : Value) (depth : Nat) (other : String) :
    environment (e.record name value depth).entries other =
      if other = name then some value else environment e.entries other := by
  simp only [environment, record, Keyed.lookup_modify]
  by_cases h : other = name
  · subst h
    obtain ⟨entry, hlookup⟩ := Keyed.mem_keys_iff.1 hmem
    simp [hlookup, LocalEntry.complete]
  · cases e.entries.lookup other <;> simp [h]

theorem lookup_entries_record {e : Evaluator} {name other : String} {value : Value} {depth : Nat}
    {entry : LocalEntry} (h : (e.record name value depth).entries.lookup other = some entry) :
    ∃ old, e.entries.lookup other = some old ∧
      entry = if other = name then old.complete value else old := by
  simp only [record, Keyed.lookup_modify] at h
  obtain ⟨old, hold, rfl⟩ := Option.map_eq_some_iff.1 h
  exact ⟨old, hold, rfl⟩

theorem lookup_depths_record {e : Evaluator} {name : String} {value : Value} {depth : Nat}
    (other : String) : (e.record name value depth).depths.lookup other =
      if other = name then some depth else e.depths.lookup other := by
  by_cases h : other = name
  · subst h
    simp [record, Keyed.lookup_insert_self]
  · simp [record, h, Keyed.lookup_insert_of_ne]

/-- Where the last element of a list is split off, the rest is in front of it. -/
theorem split_concat {order before after : List String} {name last : String}
    (h : order ++ [last] = before ++ name :: after) :
    (before = order ∧ name = last) ∨ ∃ rest, order = before ++ name :: rest := by
  rcases List.eq_nil_or_concat after with rfl | ⟨rest, tail, rfl⟩
  · have := List.append_inj' h rfl
    simp_all
  · refine .inr ⟨rest, ?_⟩
    rw [List.concat_eq_append, ← List.cons_append, ← List.append_assoc] at h
    exact (List.append_inj' h rfl).1

/-- Keeping a name whose dependencies are evaluated leaves everything in agreement: no value that
is known refers to the new name. -/
theorem Settled.record {e : Evaluator} (h : e.Settled) {name : String} {expression : Value}
    (hexpression : e.locals.lookup name = some expression) (hnew : name ∉ e.order)
    (hdependencies : ∀ other ∈ expression.localNames, other ∈ e.order)
    (hbound : e.depthOver expression.localNames ≤ e.maxDepth) :
    (e.record name ((environment e.entries).substitute expression)
      (e.depthOver expression.localNames)).Settled := by
  have hdeclared : name ∈ Keyed.keys e.entries := by
    rw [← keys_locals]
    exact Keyed.mem_keys_of_lookup hexpression
  -- Of what an evaluated name refers to, the new name is none.
  have hsame : ∀ x : Value, (∀ other ∈ x.localNames, other ∈ e.order) →
      (environment (e.record name ((environment e.entries).substitute expression)
        (e.depthOver expression.localNames)).entries).substitute x =
      (environment e.entries).substitute x := by
    intro x hx
    apply Environment.substitute_congr
    intro other hother
    have hne : other ≠ name := fun heq => hnew (heq ▸ hx other hother)
    rw [environment_record hdeclared, if_neg hne]
  constructor
  case nodup_order =>
    exact List.nodup_append.2 ⟨h.nodup_order, by simp, by rintro a ha b hb rfl; simp_all⟩
  case keys_depths =>
    have hkeys : name ∉ Keyed.keys e.depths := h.keys_depths ▸ hnew
    show Keyed.keys (Keyed.insert e.depths name _) = e.order ++ [name]
    rw [Keyed.keys_insert, if_neg hkeys, h.keys_depths]
  case declared =>
    intro other hother
    show other ∈ Keyed.keys (Keyed.modify _ _ _)
    rw [Keyed.keys_modify]
    rcases List.mem_append.1 hother with hold | hlast
    · exact h.declared other hold
    · rw [List.mem_singleton.1 hlast]
      exact hdeclared
  case evaluated_iff =>
    intro other entry hlookup
    obtain ⟨old, hold, rfl⟩ := lookup_entries_record hlookup
    show _ ↔ other ∈ e.order ++ [name]
    by_cases heq : other = name
    · simp [heq, LocalEntry.complete]
    · simp [heq, h.evaluated_iff other old hold]
  case sorted =>
    intro before middle after horder other hdepends
    rw [locals_record] at hdepends
    rcases split_concat horder with ⟨rfl, rfl⟩ | ⟨rest, hrest⟩
    · exact hdependencies other ((Locals.dependsOn_iff hexpression).1 hdepends)
    · exact h.sorted before middle rest hrest other hdepends
  case longest =>
    intro other depth hdepth
    rw [locals_record]
    rw [lookup_depths_record] at hdepth
    split at hdepth
    · next heq =>
      cases hdepth
      rw [heq]
      exact h.isGreatest_depthOver hexpression hdependencies
    · exact h.longest other depth hdepth
  case bounded =>
    intro other depth hdepth
    rw [lookup_depths_record] at hdepth
    split at hdepth
    · cases hdepth
      exact hbound
    · exact h.bounded other depth hdepth
  case value_eq =>
    intro other entry hlookup hevaluated
    obtain ⟨old, hold, rfl⟩ := lookup_entries_record hlookup
    by_cases heq : other = name
    · subst heq
      rw [lookup_locals, hold] at hexpression
      cases hexpression
      simp only [if_pos, LocalEntry.complete]
      exact (hsame old.expression hdependencies).symm
    · simp only [if_neg heq] at hevaluated ⊢
      have hmem := (h.evaluated_iff other old hold).1 hevaluated
      rw [hsame old.expression fun x hx =>
        h.closed hmem ((Locals.dependsOn_iff (lookup_locals_of_entry hold)).2 hx)]
      exact h.value_eq other old hold hevaluated
  case untouched =>
    intro other entry hlookup hevaluated
    obtain ⟨old, hold, rfl⟩ := lookup_entries_record hlookup
    by_cases heq : other = name
    · simp [heq, LocalEntry.complete] at hevaluated
    · simp only [if_neg heq] at hevaluated ⊢
      exact h.untouched other old hold hevaluated

/-! ### The stack -/

/-- Distinct keys among which one is missing are fewer than all keys. -/
theorem length_lt_keys {α : Type} {m : Keyed α} {names : List String} {name : String}
    (hnodup : names.Nodup) (hkeys : ∀ other ∈ names, other ∈ Keyed.keys m)
    (hmem : name ∈ Keyed.keys m) (hmissing : name ∉ names) :
    names.length < (Keyed.keys m).length := by
  have hcons : (name :: names).Nodup := List.nodup_cons.2 ⟨hmissing, hnodup⟩
  have hsub : name :: names ⊆ Keyed.keys m := List.cons_subset.2 ⟨hmem, hkeys⟩
  exact (List.subperm_of_subset hcons hsub).length_le

section Stack
variable {e : Evaluator} {name : String}

theorem Settled.push (h : e.Settled) (name : String) : (e.push name).Settled :=
  ⟨h.1, h.2, h.3, h.4, h.5, h.6, h.7, h.8, h.9⟩

theorem Settled.pop (h : e.Settled) : e.pop.Settled :=
  ⟨h.1, h.2, h.3, h.4, h.5, h.6, h.7, h.8, h.9⟩

theorem Stacked.push (h : e.Stacked) (hdeclared : name ∈ Keyed.keys e.entries)
    (hoff : name ∉ e.resolving) (hnew : name ∉ e.order)
    (hchain : (e.resolving ++ [name]).IsChain e.locals.DependsOn) : (e.push name).Stacked := by
  have hmem : ∀ other ∈ e.resolving ++ [name], other ∈ e.resolving ∨ other = name := by simp
  refine ⟨?_, hchain, fun other hother => ?_, fun other hother => ?_⟩
  · exact List.nodup_append.2 ⟨h.nodup, by simp, by rintro a ha b hb rfl; simp_all⟩
  · rcases hmem other hother with hold | rfl
    · exact h.declared other hold
    · exact hdeclared
  · rcases hmem other hother with hold | rfl
    · exact h.fresh other hold
    · exact hnew

theorem Stacked.pop (h : e.Stacked) : e.pop.Stacked :=
  ⟨h.nodup.sublist (List.dropLast_sublist _), h.chain.dropLast,
    fun name hname => h.declared name ((List.dropLast_sublist _).subset hname),
    fun name hname => h.fresh name ((List.dropLast_sublist _).subset hname)⟩

/-- A dependency of the name on top of the stack goes on the chain. -/
theorem isChain_push {other : String}
    (hchain : (e.resolving ++ [name]).IsChain e.locals.DependsOn)
    (hdepends : e.locals.DependsOn name other) :
    ((e.push name).resolving ++ [other]).IsChain (e.push name).locals.DependsOn := by
  show (e.resolving ++ [name] ++ [other]).IsChain e.locals.DependsOn
  rw [List.append_assoc]
  exact List.isChain_append_cons_cons.2 ⟨hchain, hdepends, List.isChain_singleton other⟩

theorem isChain_push_dependencies {entry : LocalEntry}
    (hchain : (e.resolving ++ [name]).IsChain e.locals.DependsOn)
    (hlookup : e.entries.lookup name = some entry) : ∀ other ∈ entry.dependencies,
      ((e.push name).resolving ++ [other]).IsChain (e.push name).locals.DependsOn :=
  fun _ hother => isChain_push hchain ⟨entry.expression, lookup_locals_of_entry hlookup, hother⟩

/-- The name on top of the stack is taken off once it is kept. -/
theorem Stacked.pop_record (h : e.Stacked) {stack : List String} (hstack : e.resolving = stack ++ [name])
    (value : Value) (depth : Nat) : (e.record name value depth).pop.Stacked := by
  have hresolving : (e.record name value depth).pop.resolving = stack := by
    show e.resolving.dropLast = stack
    rw [hstack, List.dropLast_concat]
  have hsub : ∀ other ∈ stack, other ∈ e.resolving := by
    intro other hother
    simp [hstack, hother]
  refine ⟨?_, ?_, ?_, ?_⟩
  · exact h.pop.nodup
  · show e.pop.resolving.IsChain (e.record name value depth).locals.DependsOn
    rw [locals_record]
    exact h.pop.chain
  · intro other hother
    rw [hresolving] at hother
    show other ∈ Keyed.keys (Keyed.modify _ _ _)
    rw [Keyed.keys_modify]
    exact h.declared other (hsub other hother)
  · intro other hother
    rw [hresolving] at hother
    have hne : other ≠ name := by
      rintro rfl
      have hnodup := h.nodup
      rw [hstack] at hnodup
      exact (List.nodup_append.1 hnodup).2.2 other hother other (by simp) rfl
    show other ∉ e.order ++ [name]
    simp [h.fresh other (hsub other hother), hne]

end Stack

end InfraConfig.Evaluator
