import InfraConfig.Proofs.Locals.Run
import Mathlib

/-! Evaluation of all local values. It succeeds exactly if the local values can be evaluated
(`evaluateAll_isOk_iff`), which is a property of the graph of local values alone: neither the order
of declaration nor what was evaluated before plays a part. What it then returns is complete
(`complete_of_evaluateAll`): each local value is evaluated after those it depends on, and the values
fit each other although each was made when only some of the others were known. -/
namespace InfraConfig

open LocalEntry (environment)

/-- What evaluation of all local values is to return. -/
structure EvaluatedLocals.Complete (l : EvaluatedLocals) (declared : Locals) : Prop where
  /-- The entries are those declared. -/
  expressions : Keyed.mapValues (fun _ entry => entry.expression) l.entries = declared
  evaluated : ∀ name entry, (name, entry) ∈ l.entries → entry.evaluated = true
  perm : l.order.Perm (Keyed.keys declared)
  /-- What a local value depends on comes before it. -/
  sorted : ∀ before name after, l.order = before ++ name :: after →
    ∀ entry, (name, entry) ∈ l.entries → ∀ other ∈ entry.dependencies, other ∈ before
  /-- Each value is its expression under the values of all. -/
  value_eq : ∀ name entry, (name, entry) ∈ l.entries →
    entry.value = (environment l.entries).substitute entry.expression

namespace Evaluator

variable (declared : List (String × Value)) (maxDepth : Nat) (earlier : List String)

theorem keys_entries_run : Keyed.keys ((ofList declared maxDepth).run earlier).entries =
    Keyed.keys (Keyed.ofList declared) := by
  rw [← keys_locals, locals_run]

theorem isOk_evaluateAll_run :
    ((ofList declared maxDepth).run earlier).evaluateAll.value.isOk = true ↔
      Locals.Evaluable (Keyed.ofList declared) maxDepth := by
  have hiff := visitAll_ok_iff (settled_run declared maxDepth earlier)
    (resolving_run declared maxDepth earlier) (Keyed.keys (Keyed.ofList declared))
  rw [locals_run, maxDepth_run, ← Locals.evaluable_iff] at hiff
  rw [← hiff, value_evaluateAll, keys_entries_run]
  cases ((ofList declared maxDepth).run earlier).visitAll (Keyed.keys (Keyed.ofList declared)) with
  | mk result after keeps => cases result <;> simp [Except.isOk, Except.toBool, Except.map]

/-- All local values are evaluated exactly if every dependency is declared, none depends on itself
and no chain of dependencies has too many links. Declarations of the same local values in another
order, or other evaluations before, lead to the same decision. -/
theorem evaluateAll_isOk_iff :
    (((ofList declared maxDepth).run earlier).evaluateAll.value.isOk = true ↔
      Locals.Evaluable (Keyed.ofList declared) maxDepth) ∧
    ∀ (reordered : List (String × Value)) (other : List String),
      (∀ name, (Keyed.ofList reordered).lookup name = (Keyed.ofList declared).lookup name) →
      ((ofList reordered maxDepth).run other).evaluateAll.value.isOk =
        ((ofList declared maxDepth).run earlier).evaluateAll.value.isOk := by
  refine ⟨isOk_evaluateAll_run declared maxDepth earlier, fun reordered other hsame => ?_⟩
  rw [Bool.eq_iff_iff, isOk_evaluateAll_run, isOk_evaluateAll_run]
  constructor
  · exact fun h => h.of_lookup fun name => (hsame name).symm
  · exact fun h => h.of_lookup hsame

/-- What is returned is what an evaluator keeps that has evaluated every declared name. -/
theorem exists_settled_of_evaluateAll {l : EvaluatedLocals}
    (h : ((ofList declared maxDepth).run earlier).evaluateAll.value = .ok l) :
    ∃ after : Evaluator, after.Settled ∧ after.locals = Keyed.ofList declared ∧
      (∀ name ∈ Keyed.keys (Keyed.ofList declared), name ∈ after.order) ∧
      l = ⟨after.entries, after.order⟩ := by
  rw [value_evaluateAll, keys_entries_run] at h
  have hvisited := visitedAll_of_idle (settled_run declared maxDepth earlier)
    (resolving_run declared maxDepth earlier) (Keyed.keys (Keyed.ofList declared))
  have hlocals := (((ofList declared maxDepth).run earlier).visitAll
    (Keyed.keys (Keyed.ofList declared))).keeps.locals
  rw [locals_run] at hlocals
  cases hresult : (((ofList declared maxDepth).run earlier).visitAll
      (Keyed.keys (Keyed.ofList declared))).result with
  | error error =>
    rw [hresult] at h
    cases h
  | ok done =>
    rw [hresult] at h
    cases h
    exact ⟨_, hvisited.settled, hlocals, hvisited.known hresult, rfl⟩

/-- What an evaluator keeps that has evaluated every declared name is complete. -/
theorem Settled.complete {e : Evaluator} (h : e.Settled) (hnodup : (Keyed.keys e.locals).Nodup)
    (hall : ∀ name ∈ Keyed.keys e.locals, name ∈ e.order) :
    EvaluatedLocals.Complete ⟨e.entries, e.order⟩ e.locals := by
  have hentry : ∀ name entry, (name, entry) ∈ e.entries → e.entries.lookup name = some entry := by
    intro name entry hmem
    rw [keys_locals] at hnodup
    exact Keyed.lookup_of_mem hnodup hmem
  have hevaluated : ∀ name entry, (name, entry) ∈ e.entries → entry.evaluated = true := by
    intro name entry hmem
    rw [h.evaluated_iff name entry (hentry name entry hmem)]
    exact hall name (Keyed.mem_keys_of_lookup (lookup_locals_of_entry (hentry name entry hmem)))
  constructor
  case expressions => rfl
  case evaluated => exact hevaluated
  case perm =>
    apply (List.perm_ext_iff_of_nodup h.nodup_order hnodup).2
    intro name
    refine ⟨fun hmem => ?_, hall name⟩
    rw [keys_locals]
    exact h.declared name hmem
  case sorted =>
    intro before name after horder entry hmem other hother
    have hexpression := lookup_locals_of_entry (hentry name entry hmem)
    exact h.sorted before name after horder other ((Locals.dependsOn_iff hexpression).2 hother)
  case value_eq =>
    intro name entry hmem
    exact h.value_eq name entry (hentry name entry hmem) (hevaluated name entry hmem)

/-- What is returned is complete. -/
theorem complete_of_evaluateAll {l : EvaluatedLocals}
    (h : ((ofList declared maxDepth).run earlier).evaluateAll.value = .ok l) :
    l.Complete (Keyed.ofList declared) := by
  obtain ⟨after, hsettled, hlocals, hall, rfl⟩ :=
    exists_settled_of_evaluateAll declared maxDepth earlier h
  rw [← hlocals] at hall ⊢
  apply hsettled.complete _ hall
  rw [hlocals]
  exact Keyed.nodup_keys_ofList declared

/-- Two local values, the first of which depends on the second, after an evaluation that failed. -/
theorem complete_pair :
    ((ofList [("host", .string "db.${local.env}"), ("env", .string "prod")] 1).run
      ["missing"]).evaluateAll.value = .ok ⟨[
        ("host", ⟨"host", .string "db.${local.env}", .string "db.prod", true⟩),
        ("env", ⟨"env", .string "prod", .string "prod", true⟩)], ["env", "host"]⟩ ∧
    EvaluatedLocals.Complete ⟨[
        ("host", ⟨"host", .string "db.${local.env}", .string "db.prod", true⟩),
        ("env", ⟨"env", .string "prod", .string "prod", true⟩)], ["env", "host"]⟩
      (Keyed.ofList [("host", .string "db.${local.env}"), ("env", .string "prod")]) := by
  constructor
  · cbv
  · apply complete_of_evaluateAll _ 1 ["missing"]
    cbv

end Evaluator

end InfraConfig
