import InfraConfig.Proofs.Locals.Pass
import Mathlib

/-! What a failed evaluation tells. The path of a cycle, the holder of an unknown reference and the
local value that is blamed for a long chain are read off the stack at the moment of the failure, or
off the depths that are kept. They are true of the graph of local values all the same: a failure is
what the end of a chain from the visited name runs into (`Blocked`), and what is read off the chain
there holds of the graph (`Blocked.truthful`). -/
namespace InfraConfig

/-- What the error tells is true of local values of which no chain may have more than `bound`
links. -/
inductive AnalysisError.Truthful (locals : Locals) (bound : Nat) : AnalysisError → Prop where
  /-- Each name of the path depends on the next; the last stands once before, and no other does. -/
  | cycle {front : List String} {name : String}
      (edges : (front ++ [name]).IsChain locals.DependsOn) (nodup : front.Nodup)
      (closes : front.count name = 1) :
      Truthful locals bound (.circularDependency (front ++ [name]))
  | unknown {name holder : String} (undeclared : name ∉ Keyed.keys locals)
      (declared : holder ∈ Keyed.keys locals) (holds : locals.DependsOn holder name) :
      Truthful locals bound (.unknownReference name (some holder))
  /-- The chain that is shown starts at the name that is blamed. -/
  | chainTooLong {name : String} {rest : List String} (declared : name ∈ Keyed.keys locals)
      (edges : (name :: rest).IsChain locals.DependsOn) (long : bound < rest.length) :
      Truthful locals bound (.content .localValue name (.chainTooLong (name :: rest) bound))
  | tooManyLinks {name : String} {links : Nat} (declared : name ∈ Keyed.keys locals)
      (chain : locals.StartsChain name links) (long : bound < links) :
      Truthful locals bound (.content .localValue name (.tooManyLinks links bound))

namespace AnalysisError.Truthful

variable {locals : Locals} {bound : Nat} {error : AnalysisError}

/-- Whichever of the two checks of the depth has failed, the block that the error is about starts
a chain that is too long. -/
theorem startsChain (h : error.Truthful locals bound) (hrule : error.rule = .dependencyTooDeep) :
    ∃ name links, error.block = (.localValue, name) ∧ name ∈ Keyed.keys locals ∧
      locals.StartsChain name links ∧ bound < links := by
  cases h with
  | cycle => cases hrule
  | unknown => cases hrule
  | chainTooLong declared edges long => exact ⟨_, _, rfl, declared, ⟨_, rfl, edges⟩, long⟩
  | tooManyLinks declared chain long => exact ⟨_, _, rfl, declared, chain, long⟩

end AnalysisError.Truthful

namespace Evaluator

variable {locals : Locals} {bound : Nat} {error : AnalysisError}

/-- What a chain from a declared name runs into is told as it is. -/
theorem Blocked.truthful {root : String} (hroot : root ∈ Keyed.keys locals)
    (h : Blocked locals bound [root] error) : error.Truthful locals bound := by
  obtain ⟨chain, name, hstart, hedges, hnodup, hdeclared, hobstacle⟩ := h
  cases hobstacle with
  | undeclared hundeclared =>
    rcases List.eq_nil_or_concat chain with rfl | ⟨front, holder, rfl⟩
    · -- The visited name itself is declared.
      obtain rfl : root = name := by simpa using hstart
      exact absurd hroot hundeclared
    · rw [List.concat_eq_append] at hedges hdeclared ⊢
      rw [List.getLast?_concat]
      have hlast : locals.DependsOn holder name := by
        rw [List.append_assoc] at hedges
        exact (List.isChain_cons_cons.1 hedges.right_of_append).1
      exact .unknown hundeclared (hdeclared holder (by simp)) hlast
  | cycle hmem => exact .cycle hedges hnodup (List.count_eq_one_of_mem hnodup hmem)
  | deep _ hdeep =>
    cases chain with
    | nil => cases hdeep
    | cons first rest =>
      have hlong : bound < (rest ++ [name]).length := by simpa using hdeep
      exact .chainTooLong (hdeclared first (by simp)) hedges hlong
  | steep links hlong hmem hlongest => exact .tooManyLinks hmem hlongest.1 hlong

variable (declared : List (String × Value)) (maxDepth : Nat) (earlier : List String)

/-- A failed evaluation of all local values has met its obstacle on a chain from a declared name. -/
theorem exists_blocked_of_evaluateAll
    (h : ((ofList declared maxDepth).run earlier).evaluateAll.value = .error error) :
    ∃ root ∈ Keyed.keys (Keyed.ofList declared),
      Blocked (Keyed.ofList declared) maxDepth [root] error := by
  have hvisited := visitedAll_of_idle (settled_run declared maxDepth earlier)
    (resolving_run declared maxDepth earlier) (Keyed.keys (Keyed.ofList declared))
  rw [value_evaluateAll, keys_entries_run] at h
  cases hresult : (((ofList declared maxDepth).run earlier).visitAll
      (Keyed.keys (Keyed.ofList declared))).result with
  | ok done =>
    rw [hresult] at h
    cases h
  | error found =>
    rw [hresult] at h
    cases h
    obtain ⟨root, hroot, hblocked⟩ := hvisited.blocked error hresult
    rw [locals_run, maxDepth_run, resolving_run] at hblocked
    exact ⟨root, hroot, hblocked⟩

/-- An error of an evaluation of all local values tells the truth, and one of too long a chain is
about a declared local value that starts one. -/
theorem truthful_of_evaluateAll
    (h : ((ofList declared maxDepth).run earlier).evaluateAll.value = .error error) :
    error.Truthful (Keyed.ofList declared) maxDepth ∧
      (error.rule = .dependencyTooDeep → ∃ name links, error.block = (.localValue, name) ∧
        name ∈ Keyed.keys (Keyed.ofList declared) ∧
        Locals.StartsChain (Keyed.ofList declared) name links ∧ maxDepth < links) := by
  obtain ⟨root, hroot, hblocked⟩ := exists_blocked_of_evaluateAll declared maxDepth earlier h
  have htruthful := hblocked.truthful hroot
  exact ⟨htruthful, htruthful.startsChain⟩

/-- A local value whose dependency was evaluated before: its depth is read off what is kept. -/
theorem truthful_kept_depth :
    ((ofList [("c", .string "x"), ("b", .string "${local.c}"), ("a", .string "${local.b}")] 1).run
      ["b"]).evaluateAll.value = .error (.content .localValue "a" (.tooManyLinks 2 1)) ∧
    AnalysisError.Truthful (Keyed.ofList [("c", .string "x"), ("b", .string "${local.c}"),
      ("a", .string "${local.b}")]) 1
      (.content .localValue "a" (.tooManyLinks 2 1)) := by
  have hfailed : ((ofList [("c", .string "x"), ("b", .string "${local.c}"),
      ("a", .string "${local.b}")] 1).run ["b"]).evaluateAll.value =
      .error (.content .localValue "a" (.tooManyLinks 2 1)) := by cbv
  exact ⟨hfailed, (truthful_of_evaluateAll _ 1 ["b"] hfailed).1⟩

end Evaluator

end InfraConfig
