import InfraConfig.Proofs.Locals.Failure
import Mathlib

/-! How cycles are told. A walk along dependencies comes round a cycle only if its bound lets it: the
names on the way are different, and the walk is cut off once they are too many. So local values of
which some depend on themselves are refused with a cycle, unless different names stand in a chain
that is too long; then the walk may be cut off on such a chain, which the error shows
(`evaluateAll_of_cyclic`). A cycle of more names than the bound lets stand on the way is one case
(`cut_off_on_cycle`). -/
namespace InfraConfig

open Relation (ReflTransGen TransGen)

namespace Locals

/-- The name depends, directly or not, on one that depends on itself. -/
def ReachesCycle (locals : Locals) (name : String) : Prop :=
  ∃ other, ReflTransGen locals.DependsOn name other ∧ TransGen locals.DependsOn other other

/-- Nothing is wrong with local values but that there are cycles. -/
structure Cyclic (locals : Locals) (bound : Nat) : Prop where
  declared : ∀ a b, locals.DependsOn a b → b ∈ Keyed.keys locals
  cycle : ∃ a, TransGen locals.DependsOn a a
  /-- The chains that lead to no cycle are within the bound. -/
  bounded : ∀ a links, ¬ locals.ReachesCycle a → locals.StartsChain a links → links ≤ bound

/-- A chain of different names, from one that reaches a cycle, with more links than the bound. -/
structure LongPath (locals : Locals) (bound : Nat) (first : String) (rest : List String) : Prop where
  reaches : locals.ReachesCycle first
  edges : (first :: rest).IsChain locals.DependsOn
  nodup : (first :: rest).Nodup
  long : bound < rest.length

variable {locals : Locals} {bound : Nat} {name : String}

/-- Chains that lead to a cycle have no longest. -/
theorem not_reachesCycle_of_isGreatest {links : Nat}
    (h : IsGreatest {links | locals.StartsChain name links} links) : ¬ locals.ReachesCycle name := by
  rintro ⟨other, hreach, hcycle⟩
  obtain ⟨longer, hlt, hchain⟩ := StartsChain.of_cycle hcycle links
  obtain ⟨longest, hle, hlongest⟩ := StartsChain.of_reflTransGen hreach hchain
  have := h.2 hlongest
  omega

/-- A chain that is too long leads to a cycle, if those that do not are short. -/
theorem Cyclic.reachesCycle (h : locals.Cyclic bound) {links : Nat}
    (hchain : locals.StartsChain name links) (hlong : bound < links) :
    locals.ReachesCycle name := by
  by_contra hnot
  have := h.bounded name links hnot hchain
  omega

/-- What is declared together with what it depends on. -/
def edges (locals : Locals) : List (String × String) :=
  locals.flatMap fun (name, expression) => expression.localNames.map (name, ·)

theorem mem_edges_iff (hnodup : (Keyed.keys locals).Nodup) {a b : String} :
    (a, b) ∈ locals.edges ↔ locals.DependsOn a b := by
  constructor
  · intro hmem
    obtain ⟨⟨name, expression⟩, hdeclared, hedge⟩ := List.mem_flatMap.1 hmem
    obtain ⟨other, hother, heq⟩ := List.mem_map.1 hedge
    cases heq
    exact ⟨expression, Keyed.lookup_of_mem hnodup hdeclared, hother⟩
  · rintro ⟨expression, hlookup, hmem⟩
    exact List.mem_flatMap.2
      ⟨(a, expression), Keyed.mem_of_lookup hlookup, List.mem_map.2 ⟨b, hmem, rfl⟩⟩

/-- Nothing is wrong but a cycle if all that depends on something leads to it. -/
theorem cyclic_of_edges (hnodup : (Keyed.keys locals).Nodup)
    (hdeclared : ∀ edge ∈ locals.edges, edge.2 ∈ Keyed.keys locals)
    (hcycle : TransGen locals.DependsOn name name)
    (hleads : ∀ edge ∈ locals.edges, ReflTransGen locals.DependsOn edge.1 name) :
    locals.Cyclic bound := by
  refine ⟨fun a b hab => hdeclared (a, b) ((mem_edges_iff hnodup).2 hab), ⟨name, hcycle⟩, ?_⟩
  intro a links hnot hchain
  cases links with
  | zero => exact Nat.zero_le bound
  | succ links =>
    obtain ⟨b, hab, -⟩ := startsChain_succ_iff.1 hchain
    exact absurd ⟨name, hleads (a, b) ((mem_edges_iff hnodup).2 hab), hcycle⟩ hnot

end Locals

/-- An error about local values with cycles: a cycle, or a chain of different names on which the walk
was cut off. -/
inductive AnalysisError.OfCyclic (locals : Locals) (bound : Nat) : AnalysisError → Prop where
  | cycle (path : List String) : OfCyclic locals bound (.circularDependency path)
  | cutOff {first : String} {rest : List String} (h : locals.LongPath bound first rest) :
      OfCyclic locals bound (.content .localValue first (.chainTooLong (first :: rest) bound))

namespace Evaluator

variable {locals : Locals} {bound : Nat} {error : AnalysisError}

/-- What a chain runs into where nothing is wrong but cycles. -/
theorem Blocked.ofCyclic (h : locals.Cyclic bound) {root : String} (hroot : root ∈ Keyed.keys locals)
    (hblocked : Blocked locals bound [root] error) : error.OfCyclic locals bound := by
  have htruthful := hblocked.truthful hroot
  obtain ⟨chain, name, hstart, hedges, hnodup, hdeclared, hobstacle⟩ := hblocked
  cases hobstacle with
  | undeclared hundeclared =>
    generalize chain.getLast? = holder at htruthful
    cases htruthful with
    | unknown _ _ hholds => exact absurd (h.declared _ _ hholds) hundeclared
  | cycle _ => exact .cycle _
  | deep hnew hlong =>
    cases chain with
    | nil => cases hlong
    | cons first rest =>
      have hlinks : bound < (rest ++ [name]).length := by simpa using hlong
      refine .cutOff ⟨h.reachesCycle ⟨rest ++ [name], rfl, hedges⟩ hlinks, hedges, ?_, hlinks⟩
      exact List.nodup_append.2 ⟨hnodup, List.nodup_singleton name, fun a ha b hb => by
        rw [List.mem_singleton.1 hb]
        exact fun heq => hnew (heq ▸ ha)⟩
  | steep links hlong _ hlongest =>
    exact absurd (h.reachesCycle hlongest.1 hlong) (Locals.not_reachesCycle_of_isGreatest hlongest)

/-- Local values with cycles, of which nothing else is wrong, are refused: with a cycle, or with a
chain of different names, from one that reaches a cycle, that has too many links. If there is no such
chain, a cycle is what is told. -/
theorem evaluateAll_of_cyclic (declared : List (String × Value)) (maxDepth : Nat)
    (earlier : List String) (h : Locals.Cyclic (Keyed.ofList declared) maxDepth) :
    ∃ error, ((ofList declared maxDepth).run earlier).evaluateAll.value = .error error ∧
      error.OfCyclic (Keyed.ofList declared) maxDepth ∧
      ((∀ first rest, ¬ Locals.LongPath (Keyed.ofList declared) maxDepth first rest) →
        ∃ path, error = .circularDependency path) := by
  have hrefused : ¬ ((ofList declared maxDepth).run earlier).evaluateAll.value.isOk = true := by
    rw [isOk_evaluateAll_run]
    intro hevaluable
    obtain ⟨a, hcycle⟩ := h.cycle
    exact hevaluable.acyclic a hcycle
  cases hvalue : ((ofList declared maxDepth).run earlier).evaluateAll.value with
  | ok l =>
    rw [hvalue] at hrefused
    exact absurd rfl hrefused
  | error error =>
    obtain ⟨root, hroot, hblocked⟩ := exists_blocked_of_evaluateAll declared maxDepth earlier hvalue
    have hof := hblocked.ofCyclic h hroot
    refine ⟨error, rfl, hof, fun hshort => ?_⟩
    cases hof with
    | cycle path => exact ⟨path, rfl⟩
    | cutOff hlong => exact absurd hlong (hshort _ _)

/-- Local values that depend on each other, one of them on a third as well, which was evaluated
before. -/
theorem evaluateAll_back_and_forth :
    Locals.Cyclic (Keyed.ofList [("c", .string "x"), ("a", .string "${local.c}${local.b}"),
      ("b", .string "${local.a}")]) 1 ∧
    ((ofList [("c", .string "x"), ("a", .string "${local.c}${local.b}"),
      ("b", .string "${local.a}")] 1).run ["c"]).evaluateAll.value =
        .error (.circularDependency ["a", "b", "a"]) ∧
    AnalysisError.OfCyclic (Keyed.ofList [("c", .string "x"),
      ("a", .string "${local.c}${local.b}"), ("b", .string "${local.a}")]) 1
      (.circularDependency ["a", "b", "a"]) := by
  have hedges : Locals.edges (Keyed.ofList [("c", .string "x"),
      ("a", .string "${local.c}${local.b}"), ("b", .string "${local.a}")]) =
      [("a", "c"), ("a", "b"), ("b", "a")] := by decide +kernel
  have hnodup := Keyed.nodup_keys_ofList [("c", Value.string "x"),
    ("a", .string "${local.c}${local.b}"), ("b", .string "${local.a}")]
  have hab := (Locals.mem_edges_iff hnodup (a := "a") (b := "b")).1 (by simp [hedges])
  have hba := (Locals.mem_edges_iff hnodup (a := "b") (b := "a")).1 (by simp [hedges])
  have hcyclic : Locals.Cyclic (Keyed.ofList [("c", .string "x"),
      ("a", .string "${local.c}${local.b}"), ("b", .string "${local.a}")]) 1 := by
    apply Locals.cyclic_of_edges hnodup _ (TransGen.tail (.single hab) hba) _
    · rw [hedges]
      decide +kernel
    · rw [hedges]
      simp only [List.forall_mem_cons]
      exact ⟨.refl, .refl, .single hba, by simp⟩
  have hvalue : ((ofList [("c", .string "x"), ("a", .string "${local.c}${local.b}"),
      ("b", .string "${local.a}")] 1).run ["c"]).evaluateAll.value =
      .error (.circularDependency ["a", "b", "a"]) := by cbv
  obtain ⟨error, herror, hof, -⟩ := evaluateAll_of_cyclic _ 1 ["c"] hcyclic
  rw [hvalue] at herror
  cases herror
  exact ⟨hcyclic, hvalue, hof⟩

/-- A cycle of three names under a bound of one link: the walk is cut off before it comes round. -/
theorem cut_off_on_cycle :
    Locals.Cyclic (Keyed.ofList [("a", .string "${local.b}"), ("b", .string "${local.c}"),
      ("c", .string "${local.a}")]) 1 ∧
    (ofList [("a", .string "${local.b}"), ("b", .string "${local.c}"),
      ("c", .string "${local.a}")] 1).evaluateAll.value =
        .error (.content .localValue "a" (.chainTooLong ["a", "b", "c"] 1)) := by
  have hedges : Locals.edges (Keyed.ofList [("a", .string "${local.b}"),
      ("b", .string "${local.c}"), ("c", .string "${local.a}")]) =
      [("a", "b"), ("b", "c"), ("c", "a")] := by decide +kernel
  have hnodup := Keyed.nodup_keys_ofList [("a", Value.string "${local.b}"),
    ("b", .string "${local.c}"), ("c", .string "${local.a}")]
  have hab := (Locals.mem_edges_iff hnodup (a := "a") (b := "b")).1 (by simp [hedges])
  have hbc := (Locals.mem_edges_iff hnodup (a := "b") (b := "c")).1 (by simp [hedges])
  have hca := (Locals.mem_edges_iff hnodup (a := "c") (b := "a")).1 (by simp [hedges])
  refine ⟨?_, by cbv⟩
  apply Locals.cyclic_of_edges hnodup _ (TransGen.tail (.tail (.single hab) hbc) hca) _
  · rw [hedges]
    decide +kernel
  · rw [hedges]
    simp only [List.forall_mem_cons]
    exact ⟨.refl, .tail (.single hbc) hca, .single hca, by simp⟩

end Evaluator

end InfraConfig
