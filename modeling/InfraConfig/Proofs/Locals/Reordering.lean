import InfraConfig.Proofs.Locals.Recomputation
import Mathlib

/-! The order of declaration. In another order other names are visited first, other names are known
already when they are reached, and another of the two checks of the depth can be the one that fails.
None of this shows: whether all local values can be evaluated is a property of their graph, and the
values that are returned are those of a recomputation (`lookup_values_of_evaluateAll`), which only
looks names up (`recompute_congr`). -/
namespace InfraConfig

open LocalEntry (environment)

namespace Locals

/-- What a name is recomputed to is read off what each name is declared as. -/
theorem recompute_congr {locals locals' : Locals}
    (hsame : ∀ name, locals'.lookup name = locals.lookup name) :
    (∀ chain name, locals'.recompute chain name = locals.recompute chain name) ∧
    ∀ chain names, locals'.recomputeEach chain names = locals.recomputeEach chain names := by
  apply recompute.mutual_induct locals
  case case1 =>
    intro chain name hlookup
    rw [recompute_of_undeclared hlookup, recompute_of_undeclared ((hsame name).trans hlookup)]
  case case2 =>
    intro chain name expression hlookup hon
    rw [recompute_of_mem hlookup hon, recompute_of_mem ((hsame name).trans hlookup) hon]
  case case3 =>
    intro chain name expression hlookup hoff error _ ih
    rw [recompute_of_lookup hlookup hoff, recompute_of_lookup ((hsame name).trans hlookup) hoff, ih]
  case case4 =>
    intro chain name expression hlookup hoff values _ ih
    rw [recompute_of_lookup hlookup hoff, recompute_of_lookup ((hsame name).trans hlookup) hoff, ih]
  case case5 =>
    intro chain
    rw [recomputeEach, recomputeEach]
  case case6 =>
    intro chain name rest error herror ih
    rw [recomputeEach_cons, recomputeEach_cons, ih, herror]
    rfl
  case case7 =>
    intro chain name rest value _ ih ihrest
    rw [recomputeEach_cons, recomputeEach_cons, ih, ihrest]

end Locals

namespace Evaluator

/-- The values that are returned are those of a recomputation. -/
theorem lookup_values_of_evaluateAll (declared : List (String × Value)) (maxDepth : Nat)
    (earlier : List String) {l : EvaluatedLocals}
    (h : ((ofList declared maxDepth).run earlier).evaluateAll.value = .ok l) (name : String) :
    l.values.lookup name = (Locals.recompute (Keyed.ofList declared) [] name).toOption := by
  obtain ⟨after, hsettled, hlocals, hall, rfl⟩ :=
    exists_settled_of_evaluateAll declared maxDepth earlier h
  have hvalues : EvaluatedLocals.values ⟨after.entries, after.order⟩ =
      Keyed.mapValues (fun _ entry => entry.value) after.entries := rfl
  rw [hvalues, Keyed.lookup_mapValues]
  rw [← hlocals] at hall ⊢
  cases hentry : after.entries.lookup name with
  | none =>
    rw [Locals.recompute_of_undeclared]
    · rfl
    · rw [lookup_locals, hentry]
      rfl
  | some entry =>
    have hmem : name ∈ after.order := hall name (mem_keys_locals hentry)
    have hevaluated := (hsettled.evaluated_iff name entry hentry).2 hmem
    have hknown : environment after.entries name = some entry.value :=
      environment_eq_some_iff.2 ⟨entry, hentry, hevaluated, rfl⟩
    rw [hsettled.recompute_eq_ok hknown (by simp)]
    rfl

/-- The same local values in another order are evaluated if and only if they are in this one, and
each has the same value. -/
theorem evaluateAll_of_perm {declared reordered : List (String × Value)}
    (hnodup : (Keyed.keys declared).Nodup) (hperm : reordered.Perm declared) (maxDepth : Nat)
    (earlier other : List String) :
    ((ofList reordered maxDepth).run other).evaluateAll.value.isOk =
      ((ofList declared maxDepth).run earlier).evaluateAll.value.isOk ∧
    ∀ l l', ((ofList declared maxDepth).run earlier).evaluateAll.value = .ok l →
      ((ofList reordered maxDepth).run other).evaluateAll.value = .ok l' →
      ∀ name, l'.values.lookup name = l.values.lookup name := by
  have hsame : ∀ name,
      (Keyed.ofList reordered).lookup name = (Keyed.ofList declared).lookup name := by
    intro name
    have hkeys : (Keyed.keys reordered).Perm (Keyed.keys declared) := hperm.map _
    rw [Keyed.ofList_of_nodup hnodup, Keyed.ofList_of_nodup (hkeys.nodup_iff.2 hnodup)]
    exact Keyed.lookup_eq_of_perm hnodup hperm name
  constructor
  · rw [Bool.eq_iff_iff, isOk_evaluateAll_run, isOk_evaluateAll_run]
    constructor
    · exact fun h => h.of_lookup fun name => (hsame name).symm
    · exact fun h => h.of_lookup hsame
  · intro l l' hl hl' name
    rw [lookup_values_of_evaluateAll declared maxDepth earlier hl,
      lookup_values_of_evaluateAll reordered maxDepth other hl', (Locals.recompute_congr hsame).1]

/-- In the one order the dependency is visited on the way, in the other it is known already. -/
theorem evaluateAll_swap :
    (Keyed.keys [("a", Value.string "${local.b}"), ("b", .string "x")]).Nodup ∧
    [("b", Value.string "x"), ("a", .string "${local.b}")].Perm
      [("a", .string "${local.b}"), ("b", .string "x")] ∧
    ∃ l l', ((ofList [("a", .string "${local.b}"), ("b", .string "x")] 1).run
        []).evaluateAll.value = .ok l ∧
      ((ofList [("b", .string "x"), ("a", .string "${local.b}")] 1).run
        []).evaluateAll.value = .ok l' ∧
      ∀ name, l'.values.lookup name = l.values.lookup name := by
  have hnodup : (Keyed.keys [("a", Value.string "${local.b}"), ("b", .string "x")]).Nodup := by
    decide
  have hperm : [("b", Value.string "x"), ("a", .string "${local.b}")].Perm
      [("a", .string "${local.b}"), ("b", .string "x")] := List.Perm.swap _ _ []
  have hl : ((ofList [("a", .string "${local.b}"), ("b", .string "x")] 1).run
      []).evaluateAll.value = .ok ⟨[("a", ⟨"a", .string "${local.b}", .string "x", true⟩),
        ("b", ⟨"b", .string "x", .string "x", true⟩)], ["b", "a"]⟩ := by cbv
  have hl' : ((ofList [("b", .string "x"), ("a", .string "${local.b}")] 1).run
      []).evaluateAll.value = .ok ⟨[("b", ⟨"b", .string "x", .string "x", true⟩),
        ("a", ⟨"a", .string "${local.b}", .string "x", true⟩)], ["b", "a"]⟩ := by cbv
  exact ⟨hnodup, hperm, _, _, hl, hl', (evaluateAll_of_perm hnodup hperm 1 [] []).2 _ _ hl hl'⟩

end Evaluator

end InfraConfig
