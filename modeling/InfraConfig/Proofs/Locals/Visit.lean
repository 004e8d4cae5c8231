import InfraConfig.Proofs.Locals.Consistency

/-! What a visit does. `visit_induction` is the recursion of visits as a principle of induction:
one case for each way in which a visit or a sequence of visits can end. By it every visit that
starts from an evaluator in agreement ends in one (`visit_visited`): it only adds to what is
evaluated, a name that is visited with success is evaluated, and a failure is what the end of a
chain of dependencies from the visited name runs into (`Blocked`). -/
namespace InfraConfig.Evaluator

open LocalEntry (environment)

/-- A visit of a declared name. -/
theorem visit_of_entry {e : Evaluator} {name : String} {entry : LocalEntry}
    (h : e.entries.lookup name = some entry) : e.visit name =
      if name ∈ e.resolving then e.still (.error (.circularDependency (e.resolving ++ [name])))
      else if entry.evaluated then e.still (.ok entry.value)
      else if e.maxDepth < e.resolving.length then
        e.still (.error (.content .localValue (e.resolving.head?.getD name)
          (.chainTooLong (e.resolving ++ [name]) e.maxDepth)))
      else match (e.push name).visitAll entry.dependencies with
        | ⟨.error error, after, keeps⟩ => ⟨.error error, after.pop, keeps.pop⟩
        | ⟨.ok (), after, keeps⟩ =>
          let last := after.complete name entry.expression
          ⟨last.result, last.after.pop, (keeps.trans last.keeps).pop⟩ := by
  rw [visit]
  split
  · next hnone => cases hnone.symm.trans h
  · next found hfound =>
    obtain rfl : found = entry := Option.some.inj (hfound.symm.trans h)
    rfl

/-- The recursion of visits. What holds of every way in which a visit ends, if it holds of the
visits on the way, holds of all visits. -/
theorem visit_induction
    {P : Evaluator → String → Except AnalysisError Value → Evaluator → Prop}
    {Q : Evaluator → List String → Except AnalysisError Unit → Evaluator → Prop}
    (undeclared : ∀ e name, e.entries.lookup name = none →
      P e name (.error (.unknownReference name e.resolving.getLast?)) e)
    (cycle : ∀ e name entry, e.entries.lookup name = some entry → name ∈ e.resolving →
      P e name (.error (.circularDependency (e.resolving ++ [name]))) e)
    (known : ∀ e name entry, e.entries.lookup name = some entry → name ∉ e.resolving →
      entry.evaluated = true → P e name (.ok entry.value) e)
    (deep : ∀ e name entry, e.entries.lookup name = some entry → name ∉ e.resolving →
      entry.evaluated = false → e.maxDepth < e.resolving.length →
      P e name (.error (.content .localValue (e.resolving.head?.getD name)
        (.chainTooLong (e.resolving ++ [name]) e.maxDepth))) e)
    (failed : ∀ e name entry error after keeps, e.entries.lookup name = some entry →
      name ∉ e.resolving → entry.evaluated = false → e.resolving.length ≤ e.maxDepth →
      (e.push name).visitAll entry.dependencies = ⟨.error error, after, keeps⟩ →
      Q (e.push name) entry.dependencies (.error error) after → P e name (.error error) after.pop)
    (reached : ∀ e name entry after keeps, e.entries.lookup name = some entry →
      name ∉ e.resolving → entry.evaluated = false → e.resolving.length ≤ e.maxDepth →
      (e.push name).visitAll entry.dependencies = ⟨.ok (), after, keeps⟩ →
      Q (e.push name) entry.dependencies (.ok ()) after →
      P e name (after.complete name entry.expression).result
        (after.complete name entry.expression).after.pop)
    (nil : ∀ e, Q e [] (.ok ()) e)
    (stopped : ∀ e name rest error after keeps, e.visit name = ⟨.error error, after, keeps⟩ →
      P e name (.error error) after → Q e (name :: rest) (.error error) after)
    (continued : ∀ e name rest value between keeps, e.visit name = ⟨.ok value, between, keeps⟩ →
      P e name (.ok value) between →
      Q between rest (between.visitAll rest).result (between.visitAll rest).after →
      Q e (name :: rest) (between.visitAll rest).result (between.visitAll rest).after) :
    (∀ e name, P e name (e.visit name).result (e.visit name).after) ∧
      ∀ e names, Q e names (e.visitAll names).result (e.visitAll names).after := by
  apply visit.mutual_induct
  case case1 =>
    intro e name hlookup
    rw [visit]
    split
    · exact undeclared e name hlookup
    · next hfound => cases hfound.symm.trans hlookup
  case case2 =>
    intro e name entry hlookup hon
    rw [visit_of_entry hlookup, if_pos hon]
    exact cycle e name entry hlookup hon
  case case3 =>
    intro e name entry hlookup hoff hevaluated
    rw [visit_of_entry hlookup, if_neg hoff, if_pos hevaluated]
    exact known e name entry hlookup hoff hevaluated
  case case4 =>
    intro e name entry hlookup hoff hevaluated hdeep
    rw [visit_of_entry hlookup, if_neg hoff, if_neg hevaluated, if_pos hdeep]
    exact deep e name entry hlookup hoff (by simpa using hevaluated) hdeep
  case case5 =>
    intro e name entry hlookup hoff hevaluated hdeep error after keeps hall ih
    rw [hall] at ih
    rw [visit_of_entry hlookup, if_neg hoff, if_neg hevaluated, if_neg hdeep, hall]
    exact failed e name entry error after keeps hlookup hoff (by simpa using hevaluated)
      (Nat.le_of_not_lt hdeep) hall ih
  case case6 =>
    intro e name entry hlookup hoff hevaluated hdeep after keeps hall ih
    rw [hall] at ih
    rw [visit_of_entry hlookup, if_neg hoff, if_neg hevaluated, if_neg hdeep, hall]
    exact reached e name entry after keeps hlookup hoff (by simpa using hevaluated)
      (Nat.le_of_not_lt hdeep) hall ih
  case case7 =>
    intro e
    rw [visitAll]
    exact nil e
  case case8 =>
    intro e name rest error after keeps hvisit ih
    rw [hvisit] at ih
    rw [visitAll, hvisit]
    exact stopped e name rest error after keeps hvisit ih
  case case9 =>
    intro e name rest value after keeps hvisit ih ihrest
    rw [hvisit] at ih
    rw [visitAll, hvisit]
    exact continued e name rest value after keeps hvisit ih ihrest

/-! ### Failures -/

/-- What an evaluation that has come down a chain to a name runs into there. -/
inductive Obstacle (locals : Locals) (bound : Nat) (chain : List String) (name : String) :
    AnalysisError → Prop where
  | undeclared (h : name ∉ Keyed.keys locals) :
    Obstacle locals bound chain name (.unknownReference name chain.getLast?)
  | cycle (h : name ∈ chain) :
    Obstacle locals bound chain name (.circularDependency (chain ++ [name]))
  /-- The chain is too long, and its first name is blamed. -/
  | deep (hnew : name ∉ chain) (h : bound < chain.length) : Obstacle locals bound chain name
    (.content .localValue (chain.head?.getD name) (.chainTooLong (chain ++ [name]) bound))
  /-- The longest chain that starts at the name is too long, and the name is blamed. -/
  | steep (links : Nat) (h : bound < links) (hdeclared : name ∈ Keyed.keys locals)
      (hlongest : IsGreatest {links | locals.StartsChain name links} links) :
    Obstacle locals bound chain name (.content .localValue name (.tooManyLinks links bound))

/-- A chain of dependencies that starts as given runs into an obstacle. -/
def Blocked (locals : Locals) (bound : Nat) (start : List String) (error : AnalysisError) : Prop :=
  ∃ chain name, start <+: chain ++ [name] ∧ (chain ++ [name]).IsChain locals.DependsOn ∧
    chain.Nodup ∧ (∀ other ∈ chain, other ∈ Keyed.keys locals) ∧
    Obstacle locals bound chain name error

theorem Blocked.mono {locals : Locals} {bound : Nat} {start further : List String}
    {error : AnalysisError} (h : Blocked locals bound further error) (hstart : start <+: further) :
    Blocked locals bound start error := by
  obtain ⟨chain, name, hfurther, hrest⟩ := h
  exact ⟨chain, name, hstart.trans hfurther, hrest⟩

/-! ### What a visit leaves -/

/-- What a visit of a name leaves. -/
structure Visited (e : Evaluator) (name : String) (result : Except AnalysisError Value)
    (after : Evaluator) : Prop where
  settled : after.Settled
  stacked : after.Stacked
  /-- What is evaluated stays evaluated. -/
  order : e.order <+: after.order
  known : ∀ value, result = .ok value → environment after.entries name = some value
  blocked : ∀ error, result = .error error →
    Blocked e.locals e.maxDepth (e.resolving ++ [name]) error

/-- What visits of several names leave. -/
structure VisitedAll (e : Evaluator) (names : List String) (result : Except AnalysisError Unit)
    (after : Evaluator) : Prop where
  settled : after.Settled
  stacked : after.Stacked
  order : e.order <+: after.order
  known : result = .ok () → ∀ name ∈ names, name ∈ after.order
  blocked : ∀ error, result = .error error → ∃ name ∈ names,
    Blocked e.locals e.maxDepth (e.resolving ++ [name]) error

theorem visited_of_obstacle {e : Evaluator} {name : String} {error : AnalysisError}
    (h : e.Settled) (hs : e.Stacked) (hchain : (e.resolving ++ [name]).IsChain e.locals.DependsOn)
    (hobstacle : Obstacle e.locals e.maxDepth e.resolving name error) :
    Visited e name (.error error) e where
  settled := h
  stacked := hs
  order := List.prefix_refl e.order
  known := nofun
  blocked := by
    rintro _ ⟨⟩
    refine ⟨e.resolving, name, List.prefix_refl _, hchain, hs.nodup, ?_, hobstacle⟩
    rw [keys_locals]
    exact hs.declared

/-- Once the dependencies of a name are evaluated, nothing but the name itself is missing. -/
theorem VisitedAll.ready {e after : Evaluator} {name : String} {entry : LocalEntry}
    (hall : VisitedAll (e.push name) entry.dependencies (.ok ()) after)
    (hlookup : e.entries.lookup name = some entry) (hkeeps : (e.push name).Keeps after) :
    after.locals.lookup name = some entry.expression ∧ name ∉ after.order ∧
      ∀ other ∈ entry.expression.localNames, other ∈ after.order := by
  have hlocals : after.locals = e.locals := hkeeps.locals
  have hresolving : after.resolving = e.resolving ++ [name] := hkeeps.resolving
  refine ⟨?_, ?_, hall.known rfl⟩
  · rw [hlocals, lookup_locals_of_entry hlookup]
  · apply hall.stacked.fresh
    simp [hresolving]

/-- The visit of a name whose dependencies are evaluated. -/
theorem visited_complete {e after : Evaluator} {name : String} {entry : LocalEntry}
    (hlookup : e.entries.lookup name = some entry)
    (hchain : (e.resolving ++ [name]).IsChain e.locals.DependsOn) (hs : e.Stacked)
    (hkeeps : (e.push name).Keeps after)
    (hall : VisitedAll (e.push name) entry.dependencies (.ok ()) after) :
    Visited e name (after.complete name entry.expression).result
      (after.complete name entry.expression).after.pop := by
  have hlocals : after.locals = e.locals := hkeeps.locals
  have hresolving : after.resolving = e.resolving ++ [name] := hkeeps.resolving
  have hmax : after.maxDepth = e.maxDepth := hkeeps.maxDepth
  obtain ⟨hexpression, hnew, hdependencies⟩ := hall.ready hlookup hkeeps
  have hmem : name ∈ Keyed.keys after.entries := by
    rw [← keys_locals]
    exact Keyed.mem_keys_of_lookup hexpression
  by_cases hdepth : after.maxDepth < after.depthOver entry.expression.localNames
  · simp only [complete, if_pos hdepth, still]
    refine ⟨hall.settled.pop, hall.stacked.pop, hall.order, nofun, ?_⟩
    rintro _ ⟨⟩
    refine ⟨e.resolving, name, List.prefix_refl _, hchain, hs.nodup, ?_, ?_⟩
    · rw [keys_locals]
      exact hs.declared
    · rw [← hlocals, ← hmax]
      exact .steep _ hdepth (Keyed.mem_keys_of_lookup hexpression)
        (hall.settled.isGreatest_depthOver hexpression hdependencies)
  · simp only [complete, if_neg hdepth]
    refine ⟨?_, ?_, ?_, ?_, fun _ hresult => nomatch hresult⟩
    · exact (hall.settled.record hexpression hnew hdependencies (Nat.le_of_not_lt hdepth)).pop
    · exact hall.stacked.pop_record hresolving ((environment after.entries).substitute _)
        (after.depthOver _)
    · exact hall.order.trans (List.prefix_append _ _)
    · rintro _ ⟨⟩
      have hknown := environment_record hmem ((environment after.entries).substitute entry.expression)
        (after.depthOver entry.expression.localNames) name
      rwa [if_pos rfl] at hknown

/-- What is on the stack while the dependencies of a name are visited. -/
theorem Stacked.push_of_lookup {e : Evaluator} {name : String} {entry : LocalEntry}
    (hs : e.Stacked) (h : e.Settled) (hchain : (e.resolving ++ [name]).IsChain e.locals.DependsOn)
    (hlookup : e.entries.lookup name = some entry) (hoff : name ∉ e.resolving)
    (hevaluated : entry.evaluated = false) :
    (e.push name).Stacked ∧ ∀ other ∈ entry.dependencies,
      ((e.push name).resolving ++ [other]).IsChain (e.push name).locals.DependsOn := by
  have hnew : name ∉ e.order := by
    rw [← h.evaluated_iff name entry hlookup, hevaluated]
    exact Bool.false_ne_true
  exact ⟨hs.push (Keyed.mem_keys_of_lookup hlookup) hoff hnew hchain,
    isChain_push_dependencies hchain hlookup⟩

/-- Visits keep an evaluator in agreement, and fail at the end of a chain of dependencies only. -/
theorem visit_visited :
    (∀ e name, e.Settled → e.Stacked → (e.resolving ++ [name]).IsChain e.locals.DependsOn →
      Visited e name (e.visit name).result (e.visit name).after) ∧
    ∀ e names, e.Settled → e.Stacked →
      (∀ name ∈ names, (e.resolving ++ [name]).IsChain e.locals.DependsOn) →
      VisitedAll e names (e.visitAll names).result (e.visitAll names).after := by
  apply visit_induction
    (P := fun e name result after => e.Settled → e.Stacked →
      (e.resolving ++ [name]).IsChain e.locals.DependsOn → Visited e name result after)
    (Q := fun e names result after => e.Settled → e.Stacked →
      (∀ name ∈ names, (e.resolving ++ [name]).IsChain e.locals.DependsOn) →
      VisitedAll e names result after)
  case undeclared =>
    intro e name hlookup h hs hchain
    refine visited_of_obstacle h hs hchain (.undeclared ?_)
    rw [keys_locals]
    exact Keyed.lookup_eq_none_iff.1 hlookup
  case cycle =>
    intro e name entry _ hon h hs hchain
    exact visited_of_obstacle h hs hchain (.cycle hon)
  case known =>
    intro e name entry hlookup _ hevaluated h hs _
    refine ⟨h, hs, List.prefix_refl _, ?_, fun _ hresult => nomatch hresult⟩
    rintro _ ⟨⟩
    exact environment_eq_some_iff.2 ⟨entry, hlookup, hevaluated, rfl⟩
  case deep =>
    intro e name entry _ hoff _ hdeep h hs hchain
    exact visited_of_obstacle h hs hchain (.deep hoff hdeep)
  case failed =>
    intro e name entry error after _ hlookup hoff hevaluated _ _ ih h hs hchain
    obtain ⟨hstacked, hothers⟩ := hs.push_of_lookup h hchain hlookup hoff hevaluated
    have hall := ih (h.push name) hstacked hothers
    refine ⟨hall.settled.pop, hall.stacked.pop, hall.order, nofun, ?_⟩
    rintro _ ⟨⟩
    obtain ⟨other, _, hblocked⟩ := hall.blocked error rfl
    exact Blocked.mono hblocked (List.prefix_append _ _)
  case reached =>
    intro e name entry after hkeeps hlookup hoff hevaluated _ _ ih h hs hchain
    obtain ⟨hstacked, hothers⟩ := hs.push_of_lookup h hchain hlookup hoff hevaluated
    exact visited_complete hlookup hchain hs hkeeps (ih (h.push name) hstacked hothers)
  case nil =>
    intro e h hs _
    exact ⟨h, hs, List.prefix_refl _, fun _ => by simp, fun _ hresult => nomatch hresult⟩
  case stopped =>
    intro e name rest error after _ _ ih h hs hchain
    have hfirst := ih h hs (hchain name (by simp))
    refine ⟨hfirst.settled, hfirst.stacked, hfirst.order, nofun, ?_⟩
    rintro _ ⟨⟩
    exact ⟨name, by simp, hfirst.blocked error rfl⟩
  case continued =>
    intro e name rest value between hkeeps _ ih ihrest h hs hchain
    have hfirst := ih h hs (hchain name (by simp))
    have hlast := ihrest hfirst.settled hfirst.stacked fun other hother => by
      rw [hkeeps.resolving, hkeeps.locals]
      exact hchain other (by simp [hother])
    refine ⟨hlast.settled, hlast.stacked, hfirst.order.trans hlast.order, ?_, ?_⟩
    · intro hresult other hother
      rcases List.mem_cons.1 hother with rfl | hrest
      · have hmem := hfirst.settled.mem_order_of_known (hfirst.known value rfl)
        exact hlast.order.subset hmem
      · exact hlast.known hresult other hrest
    · intro error hresult
      obtain ⟨other, hother, hblocked⟩ := hlast.blocked error hresult
      rw [hkeeps.locals, hkeeps.maxDepth, hkeeps.resolving] at hblocked
      exact ⟨other, by simp [hother], hblocked⟩

end InfraConfig.Evaluator
