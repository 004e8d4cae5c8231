import InfraConfig.Proofs.Locals.Visit

/-! Runs of evaluations. Between evaluations nothing stands on the stack, and what is kept is in
agreement (`settled_run`), whatever was evaluated before and however it ended. From there on an
evaluation succeeds exactly if all that the name reaches is declared and its chains are within the
bound (`exists_visit_ok_iff`): what is kept already plays no part. -/
namespace InfraConfig.Evaluator

open LocalEntry (environment)

/-- The evaluator after evaluations one after the other, of which any may fail. -/
def run (e : Evaluator) (names : List String) : Evaluator :=
  names.foldl (fun e name => (e.evaluate name).value.2) e

/-! ### Values aside from the records -/

theorem value_evaluate (e : Evaluator) (name : String) :
    (e.evaluate name).value = ((e.visit name).result, (e.visit name).after) := rfl

theorem value_evaluateEach (e : Evaluator) (names : List String) :
    (e.evaluateEach names).value = ((e.visitAll names).result, (e.visitAll names).after) := by
  induction names generalizing e with
  | nil => rw [visitAll]; rfl
  | cons name rest ih =>
    rw [evaluateEach, Traced.value_bind, value_evaluate, visitAll]
    cases hvisit : e.visit name with
    | mk result after keeps =>
      cases result with
      | error error => rfl
      | ok value => exact ih after

theorem value_evaluateAll (e : Evaluator) :
    e.evaluateAll.value = (e.visitAll (Keyed.keys e.entries)).result.map fun _ =>
      ⟨(e.visitAll (Keyed.keys e.entries)).after.entries,
        (e.visitAll (Keyed.keys e.entries)).after.order⟩ := by
  rw [evaluateAll, Traced.value_bind, value_evaluateEach]
  cases (e.visitAll (Keyed.keys e.entries)).result <;> rfl

/-! ### What holds between evaluations -/

/-- What an evaluation leaves as it is, a run leaves as it is. -/
theorem keeps_run (e : Evaluator) (names : List String) : e.Keeps (e.run names) := by
  induction names generalizing e with
  | nil => exact Keeps.refl e
  | cons name rest ih => exact (e.visit name).keeps.trans (ih (e.visit name).after)

theorem visited_of_idle {e : Evaluator} (h : e.Settled) (hidle : e.resolving = []) (name : String) :
    Visited e name (e.visit name).result (e.visit name).after := by
  refine visit_visited.1 e name h (stacked_of_resolving_nil hidle) ?_
  rw [hidle]
  exact List.isChain_singleton name

theorem visitedAll_of_idle {e : Evaluator} (h : e.Settled) (hidle : e.resolving = [])
    (names : List String) :
    VisitedAll e names (e.visitAll names).result (e.visitAll names).after := by
  refine visit_visited.2 e names h (stacked_of_resolving_nil hidle) fun name _ => ?_
  rw [hidle]
  exact List.isChain_singleton name

theorem Settled.run {e : Evaluator} (h : e.Settled) (hidle : e.resolving = [])
    (names : List String) : (e.run names).Settled := by
  induction names generalizing e with
  | nil => exact h
  | cons name rest ih =>
    exact ih (visited_of_idle h hidle name).settled ((e.visit name).keeps.resolving.trans hidle)

section Declared
variable (declared : List (String × Value)) (maxDepth : Nat) (names : List String)

theorem settled_run : ((ofList declared maxDepth).run names).Settled :=
  (settled_ofList declared maxDepth).run rfl names

theorem resolving_run : ((ofList declared maxDepth).run names).resolving = [] :=
  (keeps_run _ names).resolving

theorem maxDepth_run : ((ofList declared maxDepth).run names).maxDepth = maxDepth :=
  (keeps_run _ names).maxDepth

theorem locals_run : ((ofList declared maxDepth).run names).locals = Keyed.ofList declared :=
  (keeps_run _ names).locals.trans (locals_ofList declared maxDepth)

end Declared

/-! ### When an evaluation succeeds -/

section Success
variable {e : Evaluator} {name : String}

theorem Settled.mem_order_of_reach (h : e.Settled) {other : String} (hmem : name ∈ e.order)
    (hreach : Relation.ReflTransGen e.locals.DependsOn name other) : other ∈ e.order := by
  induction hreach with
  | refl => exact hmem
  | tail _ hdepends ih => exact h.closed ih hdepends

/-- What is evaluated could be evaluated. -/
theorem Settled.evaluableFrom (h : e.Settled) (hmem : name ∈ e.order) :
    e.locals.EvaluableFrom e.maxDepth name := by
  constructor
  · intro other hreach
    rw [keys_locals]
    exact h.declared other (h.mem_order_of_reach hmem hreach)
  · intro links hchain
    obtain ⟨depth, hdepth⟩ := h.exists_depth hmem
    exact Nat.le_trans ((h.longest name depth hdepth).2 hchain) (h.bounded name depth hdepth)

/-- What runs into an obstacle cannot be evaluated. -/
theorem not_evaluableFrom_of_blocked {locals : Locals} {bound : Nat} {error : AnalysisError}
    (h : Blocked locals bound [name] error) : ¬ locals.EvaluableFrom bound name := by
  intro hevaluable
  obtain ⟨chain, last, hstart, hchain, _, _, hobstacle⟩ := h
  have hreach : Relation.ReflTransGen locals.DependsOn name last :=
    Locals.reflTransGen_of_isChain hchain hstart (by simp)
  have hbound : ∀ links, locals.StartsChain last links → links ≤ bound := by
    intro links hlinks
    obtain ⟨longer, hle, hlonger⟩ := Locals.StartsChain.of_reflTransGen hreach hlinks
    exact hle.trans (hevaluable.bounded longer hlonger)
  cases hobstacle with
  | undeclared hundeclared => exact hundeclared (hevaluable.declared last hreach)
  | cycle hmem =>
    obtain ⟨longer, hlt, hlonger⟩ :=
      Locals.StartsChain.of_cycle (Locals.transGen_of_isChain hchain hmem) bound
    have := hbound longer hlonger
    omega
  | deep _ hdeep =>
    obtain ⟨rest, hrest⟩ := hstart
    have hlength : rest.length = chain.length := by
      have := congrArg List.length hrest
      simp only [List.length_append, List.length_cons, List.length_nil] at this
      omega
    rw [← hrest] at hchain
    have := hevaluable.bounded chain.length ⟨rest, hlength, hchain⟩
    omega
  | steep links hsteep _ hlongest =>
    have := hbound links hlongest.1
    omega

/-- An evaluation succeeds exactly if the name can be evaluated. -/
theorem exists_visit_ok_iff (h : e.Settled) (hidle : e.resolving = []) :
    (∃ value, (e.visit name).result = .ok value) ↔ e.locals.EvaluableFrom e.maxDepth name := by
  have hvisited := visited_of_idle h hidle name
  constructor
  · rintro ⟨value, hresult⟩
    have hmem := hvisited.settled.mem_order_of_known (hvisited.known value hresult)
    rw [← (e.visit name).keeps.locals, ← (e.visit name).keeps.maxDepth]
    exact hvisited.settled.evaluableFrom hmem
  · intro hevaluable
    cases hresult : (e.visit name).result with
    | ok value => exact ⟨value, rfl⟩
    | error error =>
      have hblocked := hvisited.blocked error hresult
      rw [hidle] at hblocked
      exact absurd hevaluable (not_evaluableFrom_of_blocked hblocked)

/-- Several evaluations succeed exactly if every name can be evaluated. -/
theorem visitAll_ok_iff (h : e.Settled) (hidle : e.resolving = []) (names : List String) :
    (e.visitAll names).result = .ok () ↔
      ∀ name ∈ names, e.locals.EvaluableFrom e.maxDepth name := by
  have hvisited := visitedAll_of_idle h hidle names
  constructor
  · intro hresult name hname
    rw [← (e.visitAll names).keeps.locals, ← (e.visitAll names).keeps.maxDepth]
    exact hvisited.settled.evaluableFrom (hvisited.known hresult name hname)
  · intro hevaluable
    cases hresult : (e.visitAll names).result with
    | ok value => rfl
    | error error =>
      obtain ⟨name, hname, hblocked⟩ := hvisited.blocked error hresult
      rw [hidle] at hblocked
      exact absurd (hevaluable name hname) (not_evaluableFrom_of_blocked hblocked)

end Success

end InfraConfig.Evaluator
