import InfraConfig.Proofs.Locals.Recomputation

/-! Single evaluations, one after the other. Any of them may fail, and what a failed one completed
on its way is kept. After each the evaluator is idle and what it keeps is in agreement
(`run_consistent`), and nobody can tell from a success what was evaluated before: a name has its
value, or none, whether it is evaluated first or last. -/
namespace InfraConfig.Evaluator

/-- A visit that succeeds has found what a recomputation finds. -/
theorem Settled.recompute_of_visit_eq_ok {e : Evaluator} (h : e.Settled) (hidle : e.resolving = [])
    {name : String} {value : Value} (hresult : (e.visit name).result = .ok value) :
    e.locals.recompute [] name = .ok value := by
  have hvisited := visited_of_idle h hidle name
  have hknown := hvisited.known value hresult
  rw [← (e.visit name).keeps.locals]
  apply hvisited.settled.recompute_eq_ok hknown
  simp

section Idle
variable {a b : Evaluator} (ha : a.Settled) (hb : b.Settled) (hidle : a.resolving = [])
  (hidle' : b.resolving = []) (hlocals : a.locals = b.locals) (hmax : a.maxDepth = b.maxDepth)

include ha hb hidle hidle' hlocals hmax

theorem visit_eq_ok_of_idle {name : String} {value : Value}
    (hresult : (a.visit name).result = .ok value) : (b.visit name).result = .ok value := by
  have hevaluable : a.locals.EvaluableFrom a.maxDepth name :=
    (exists_visit_ok_iff ha hidle).1 ⟨value, hresult⟩
  rw [hlocals, hmax] at hevaluable
  obtain ⟨found, hfound⟩ := (exists_visit_ok_iff hb hidle').2 hevaluable
  have hvalue := ha.recompute_of_visit_eq_ok hidle hresult
  rw [hlocals, hb.recompute_of_visit_eq_ok hidle' hfound] at hvalue
  rw [hfound, hvalue]

/-- Of what an evaluator keeps, the outcome of an evaluation shows nothing. -/
theorem toOption_visit_of_idle (name : String) :
    (a.visit name).result.toOption = (b.visit name).result.toOption := by
  cases hresult : (a.visit name).result with
  | ok value =>
    rw [visit_eq_ok_of_idle ha hb hidle hidle' hlocals hmax hresult]
  | error error =>
    cases hother : (b.visit name).result with
    | error other => rfl
    | ok value =>
      rw [visit_eq_ok_of_idle hb ha hidle' hidle hlocals.symm hmax.symm hother] at hresult
      cases hresult

end Idle

/-- After any evaluations nothing stands on the stack, what is kept is in agreement and closed under
dependencies, and the next evaluation ends as on an evaluator that has evaluated nothing yet. -/
theorem run_consistent (declared : List (String × Value)) (maxDepth : Nat) (calls : List String) :
    ((ofList declared maxDepth).run calls).resolving = [] ∧
    ((ofList declared maxDepth).run calls).Settled ∧
    (∀ name ∈ ((ofList declared maxDepth).run calls).order, ∀ other,
      Locals.DependsOn (Keyed.ofList declared) name other →
      other ∈ ((ofList declared maxDepth).run calls).order) ∧
    ((ofList declared maxDepth).run calls).locals = Keyed.ofList declared ∧
    ((ofList declared maxDepth).run calls).maxDepth = maxDepth ∧
    ∀ name, (((ofList declared maxDepth).run calls).evaluate name).value.1.toOption =
      ((ofList declared maxDepth).evaluate name).value.1.toOption := by
  have hsettled := settled_run declared maxDepth calls
  have hlocals := locals_run declared maxDepth calls
  refine ⟨resolving_run declared maxDepth calls, hsettled, ?_, hlocals,
    maxDepth_run declared maxDepth calls, fun name => ?_⟩
  · intro name hmem other hdepends
    rw [← hlocals] at hdepends
    exact hsettled.closed hmem hdepends
  · rw [value_evaluate, value_evaluate]
    apply toOption_visit_of_idle hsettled (settled_ofList declared maxDepth)
      (resolving_run declared maxDepth calls) rfl
    · rw [hlocals, locals_ofList]
    · exact maxDepth_run declared maxDepth calls

end InfraConfig.Evaluator
