import InfraConfig.Proofs.Locals.Pass

/-! Evaluation without keeping anything. `Locals.recompute` evaluates a local value by evaluating
anew each of its dependencies, in the order of their first occurrence; all it knows is the chain of
names it is on behalf of. What an evaluator keeps hides nothing from it (`recompute_eq_ok`): a
name that is evaluated is recomputed with success, to the value that is kept, on behalf of any chain
that it does not reach. So a visit has the result of a recomputation, as long as no chain can be
too long (`visit_eq_recompute`), and evaluation of all local values the values or the failure of
their recomputation one after the other (`evaluateAll_eq_recomputeAll`). -/
namespace InfraConfig

open LocalEntry (environment)
open Relation (ReflTransGen TransGen)

namespace Locals

mutual

/-- Evaluates a local value, and before it what it depends on, on behalf of a chain of names. -/
def recompute (locals : Locals) (chain : List String) (name : String) :
    Except AnalysisError Value :=
  match _h : locals.lookup name with
  | none => .error (.unknownReference name chain.getLast?)
  | some expression =>
    if _hc : name ∈ chain then .error (.circularDependency (chain ++ [name]))
    else
      match locals.recomputeEach (chain ++ [name]) expression.localNames with
      | .error error => .error error
      | .ok values => .ok (Environment.substitute (fun other => values.lookup other) expression)
termination_by ((locals.unvisited chain).length, 0)
decreasing_by
  exact Prod.Lex.left _ _ (length_unvisited_lt (Keyed.mem_keys_of_lookup ‹_›) ‹_›)

/-- Evaluates local values one after the other, up to the first that fails. -/
def recomputeEach (locals : Locals) (chain : List String) (names : List String) :
    Except AnalysisError (Keyed Value) :=
  match names with
  | [] => .ok []
  | name :: rest =>
    match locals.recompute chain name with
    | .error error => .error error
    | .ok value => (locals.recomputeEach chain rest).map fun values => (name, value) :: values
termination_by ((locals.unvisited chain).length, names.length + 1)

end

/-- Evaluates all local values in the order of declaration. -/
def recomputeAll (locals : Locals) : Except AnalysisError (Keyed Value) :=
  locals.recomputeEach [] (Keyed.keys locals)

variable {locals : Locals} {chain : List String} {name : String}

theorem recompute_of_lookup {expression : Value} (hlookup : locals.lookup name = some expression)
    (hoff : name ∉ chain) : locals.recompute chain name =
      (locals.recomputeEach (chain ++ [name]) expression.localNames).map fun values =>
        Environment.substitute (fun other => values.lookup other) expression := by
  rw [recompute]
  split
  · next hnone => cases hnone.symm.trans hlookup
  · next found hfound =>
    obtain rfl : found = expression := Option.some.inj (hfound.symm.trans hlookup)
    rw [dif_neg hoff]
    cases locals.recomputeEach (chain ++ [name]) found.localNames <;> rfl

theorem recompute_of_mem {expression : Value} (hlookup : locals.lookup name = some expression)
    (hon : name ∈ chain) :
    locals.recompute chain name = .error (.circularDependency (chain ++ [name])) := by
  rw [recompute]
  split
  · next hnone => cases hnone.symm.trans hlookup
  · exact dif_pos hon

theorem recompute_of_undeclared (hlookup : locals.lookup name = none) :
    locals.recompute chain name = .error (.unknownReference name chain.getLast?) := by
  rw [recompute]
  split
  · rfl
  · next found hfound => cases hlookup.symm.trans hfound

theorem recomputeEach_cons (rest : List String) : locals.recomputeEach chain (name :: rest) =
    (locals.recompute chain name).bind fun value =>
      (locals.recomputeEach chain rest).map fun values => (name, value) :: values := by
  rw [recomputeEach]
  cases locals.recompute chain name <;> rfl

theorem recomputeEach_eq_ok {names : List String} {value : String → Value}
    (h : ∀ name ∈ names, locals.recompute chain name = .ok (value name)) :
    locals.recomputeEach chain names = .ok (names.map fun name => (name, value name)) := by
  induction names with
  | nil => rw [recomputeEach]; rfl
  | cons name rest ih =>
    rw [recomputeEach_cons, h name (by simp), ih fun other hother => h other (by simp [hother])]
    rfl

end Locals

namespace Evaluator

/-! ### What is kept -/

namespace Settled

variable {e : Evaluator} {name : String}

theorem acyclic (h : e.Settled) (hmem : name ∈ e.order) :
    ¬ TransGen e.locals.DependsOn name name := by
  intro hcycle
  obtain ⟨longer, hlt, hchain⟩ := Locals.StartsChain.of_cycle hcycle e.maxDepth
  have := (h.evaluableFrom hmem).bounded longer hchain
  omega

/-- On a chain of evaluated names none stands twice. -/
theorem nodup_of_isChain (h : e.Settled) {names : List String}
    (hchain : names.IsChain e.locals.DependsOn) (hmem : ∀ name ∈ names, name ∈ e.order) :
    names.Nodup := by
  have hreach : names.Pairwise (TransGen e.locals.DependsOn) :=
    List.isChain_iff_pairwise.1 (hchain.imp fun _ _ => TransGen.single)
  refine hreach.imp_of_mem ?_
  rintro a b ha _ hab rfl
  exact h.acyclic (hmem a ha) hab

/-- The kept value of a name. -/
theorem exists_known (h : e.Settled) (hmem : name ∈ e.order) :
    ∃ value, environment e.entries name = some value := by
  obtain ⟨entry, hlookup, hevaluated⟩ := h.exists_entry hmem
  exact ⟨entry.value, environment_eq_some_iff.2 ⟨entry, hlookup, hevaluated, rfl⟩⟩

/-- A name is recomputed to what its expression becomes under the kept values, if its dependencies
are recomputed to theirs. -/
theorem recompute_eq_substitute (h : e.Settled) {expression : Value} {chain : List String}
    (hexpression : e.locals.lookup name = some expression) (hself : name ∉ chain)
    (hdependencies : ∀ other ∈ expression.localNames, other ∈ e.order)
    (heach : ∀ other ∈ expression.localNames, ∀ value, environment e.entries other = some value →
      e.locals.recompute (chain ++ [name]) other = .ok value) :
    e.locals.recompute chain name = .ok ((environment e.entries).substitute expression) := by
  have hkept : ∀ other ∈ expression.localNames,
      environment e.entries other = some ((environment e.entries other).getD .null) := by
    intro other hother
    obtain ⟨value, hvalue⟩ := h.exists_known (hdependencies other hother)
    rw [hvalue]
    rfl
  rw [Locals.recompute_of_lookup hexpression hself,
    Locals.recomputeEach_eq_ok fun other hother => heach other hother _ (hkept other hother)]
  refine congrArg Except.ok (Environment.substitute_congr fun other hother => ?_)
  rw [Keyed.lookup_map_of_mem _ hother]
  exact (hkept other hother).symm

/-- What is kept hides nothing. The induction is on the depth: the dependencies of an evaluated
name are evaluated with lesser depths, and do not reach the name either. -/
theorem recompute_eq_ok (h : e.Settled) {value : Value} {chain : List String}
    (hknown : environment e.entries name = some value)
    (hoff : ∀ other ∈ chain, ¬ ReflTransGen e.locals.DependsOn name other) :
    e.locals.recompute chain name = .ok value := by
  obtain ⟨depth, hdepth⟩ := h.exists_depth (h.mem_order_of_known hknown)
  induction depth using Nat.strong_induction_on generalizing name value chain with
  | _ depth ih =>
    have hmem := h.mem_order_of_known hknown
    obtain ⟨expression, hexpression⟩ : ∃ expression, e.locals.lookup name = some expression := by
      rw [← Keyed.mem_keys_iff, keys_locals]
      exact h.declared name hmem
    have hdepends : ∀ other ∈ expression.localNames, e.locals.DependsOn name other :=
      fun other hother => (Locals.dependsOn_iff hexpression).2 hother
    have hvalue := h.environment_eq hmem hexpression
    rw [hknown] at hvalue
    rw [Option.some.inj hvalue]
    refine h.recompute_eq_substitute hexpression (fun hin => hoff name hin .refl)
      (fun other hother => h.closed hmem (hdepends other hother)) ?_
    intro other hother kept hkept
    obtain ⟨lesser, hlesser⟩ := h.exists_depth (h.mem_order_of_known hkept)
    have hlt : lesser + 1 ≤ depth := (h.longest name depth hdepth).2
      (Locals.startsChain_succ_iff.2
        ⟨other, hdepends other hother, (h.longest other lesser hlesser).1⟩)
    refine ih lesser hlt hkept ?_ hlesser
    intro further hfurther hreach
    rcases List.mem_append.1 hfurther with hin | hlast
    · exact hoff further hin (.head (hdepends other hother) hreach)
    · obtain rfl : further = name := List.mem_singleton.1 hlast
      exact h.acyclic hmem (.head' (hdepends other hother) hreach)

end Settled

/-! ### Visits -/

/-- A value that is kept is recomputed on behalf of the stack: no evaluated name reaches it. -/
theorem Settled.recompute_resolving_eq_ok {e : Evaluator} (h : e.Settled) (hs : e.Stacked)
    {name : String} {value : Value} (hknown : environment e.entries name = some value) :
    e.locals.recompute e.resolving name = .ok value := by
  refine h.recompute_eq_ok hknown fun other hon hreach => ?_
  exact hs.fresh other hon (h.mem_order_of_reach (h.mem_order_of_known hknown) hreach)

/-- The stack has room for a declared name that is not on it. -/
theorem Stacked.length_lt {e : Evaluator} (hs : e.Stacked) {name : String}
    (hdeclared : name ∈ Keyed.keys e.entries) (hoff : name ∉ e.resolving) :
    e.resolving.length < (Keyed.keys e.entries).length :=
  length_lt_keys hs.nodup hs.declared hdeclared hoff

/-- A chain over evaluated names has fewer links than there are declared names. -/
theorem Settled.links_lt {e : Evaluator} (h : e.Settled) {name : String} {links : Nat}
    (hdeclared : name ∈ Keyed.keys e.entries) (hnew : name ∉ e.order)
    (hdependencies : ∀ other, e.locals.DependsOn name other → other ∈ e.order)
    (hchain : e.locals.StartsChain name links) : links < (Keyed.keys e.entries).length := by
  obtain ⟨rest, rfl, hchain⟩ := hchain
  have hrest : ∀ other ∈ rest, other ∈ e.order := by
    cases rest with
    | nil => simp
    | cons first rest =>
      rw [List.isChain_cons_cons] at hchain
      intro other hother
      exact h.mem_order_of_reach (hdependencies first hchain.1)
        (Locals.reflTransGen_of_isChain hchain.2 (List.prefix_append [first] rest) hother)
  apply length_lt_keys _ _ hdeclared
  · exact fun hin => hnew (hrest name hin)
  · exact h.nodup_of_isChain hchain.tail hrest
  · exact fun other hother => h.declared other (hrest other hother)

/-- Where no chain can be too long, what is completed once its dependencies are evaluated has the
value that a recomputation gives it. -/
theorem result_complete_eq_recompute {e after : Evaluator} {name : String} {entry : LocalEntry}
    (hlookup : e.entries.lookup name = some entry) (hoff : name ∉ e.resolving)
    (hkeeps : (e.push name).Keeps after)
    (hall : VisitedAll (e.push name) entry.dependencies (.ok ()) after)
    (hroom : (Keyed.keys e.entries).length ≤ e.maxDepth) :
    (after.complete name entry.expression).result = e.locals.recompute e.resolving name := by
  have hlocals : after.locals = e.locals := hkeeps.locals
  have hresolving : after.resolving = e.resolving ++ [name] := hkeeps.resolving
  have hmax : after.maxDepth = e.maxDepth := hkeeps.maxDepth
  have hkeys : Keyed.keys after.entries = Keyed.keys e.entries := hkeeps.keys
  obtain ⟨hexpression, hnew, hdependencies⟩ := hall.ready hlookup hkeeps
  have hfew : ¬ after.maxDepth < after.depthOver entry.expression.localNames := by
    have := hall.settled.links_lt (hkeys ▸ Keyed.mem_keys_of_lookup hlookup) hnew
      (fun other hother => hdependencies other ((Locals.dependsOn_iff hexpression).1 hother))
      (hall.settled.isGreatest_depthOver hexpression hdependencies).1
    rw [hkeys] at this
    omega
  rw [complete, if_neg hfew, ← hlocals]
  refine (hall.settled.recompute_eq_substitute hexpression hoff hdependencies ?_).symm
  intro other _ value hknown
  rw [← hresolving]
  exact hall.settled.recompute_resolving_eq_ok hall.stacked hknown

/-- Where no chain can be too long, a visit has the result of a recomputation: keeping values
changes neither a value nor which failure is met first. -/
theorem visit_eq_recompute :
    (∀ (e : Evaluator) name, e.Settled → e.Stacked → (e.resolving ++ [name]).IsChain e.locals.DependsOn →
      (Keyed.keys e.entries).length ≤ e.maxDepth →
      (e.visit name).result = e.locals.recompute e.resolving name) ∧
    ∀ (e : Evaluator) names, e.Settled → e.Stacked →
      (∀ name ∈ names, (e.resolving ++ [name]).IsChain e.locals.DependsOn) →
      (Keyed.keys e.entries).length ≤ e.maxDepth →
      (e.visitAll names).result =
        (e.locals.recomputeEach e.resolving names).map fun _ => () := by
  apply visit_induction
    (P := fun e name result _ => e.Settled → e.Stacked →
      (e.resolving ++ [name]).IsChain e.locals.DependsOn →
      (Keyed.keys e.entries).length ≤ e.maxDepth →
      result = e.locals.recompute e.resolving name)
    (Q := fun e names result _ => e.Settled → e.Stacked →
      (∀ name ∈ names, (e.resolving ++ [name]).IsChain e.locals.DependsOn) →
      (Keyed.keys e.entries).length ≤ e.maxDepth →
      result = (e.locals.recomputeEach e.resolving names).map fun _ => ())
  case undeclared =>
    intro e name hlookup _ _ _ _
    rw [Locals.recompute_of_undeclared]
    rw [lookup_locals, hlookup]
    rfl
  case cycle =>
    intro e name entry hlookup hon _ _ _ _
    exact (Locals.recompute_of_mem (lookup_locals_of_entry hlookup) hon).symm
  case known =>
    intro e name entry hlookup _ hevaluated h hs _ _
    exact (h.recompute_resolving_eq_ok hs
      (environment_eq_some_iff.2 ⟨entry, hlookup, hevaluated, rfl⟩)).symm
  case deep =>
    intro e name entry hlookup hoff _ hdeep _ hs _ hroom
    have := hs.length_lt (Keyed.mem_keys_of_lookup hlookup) hoff
    omega
  case failed =>
    intro e name entry error after _ hlookup hoff hevaluated _ _ ih h hs hchain hroom
    obtain ⟨hstacked, hothers⟩ := hs.push_of_lookup h hchain hlookup hoff hevaluated
    have hfailed := ih (h.push name) hstacked hothers hroom
    change _ = (e.locals.recomputeEach (e.resolving ++ [name]) entry.expression.localNames).map _
      at hfailed
    rw [Locals.recompute_of_lookup (lookup_locals_of_entry hlookup) hoff]
    cases heach : e.locals.recomputeEach (e.resolving ++ [name]) entry.expression.localNames with
    | error other =>
      rw [heach] at hfailed
      cases hfailed
      rfl
    | ok values =>
      rw [heach] at hfailed
      cases hfailed
  case reached =>
    intro e name entry after keeps hlookup hoff hevaluated _ hvisit _ h hs hchain hroom
    obtain ⟨hstacked, hothers⟩ := hs.push_of_lookup h hchain hlookup hoff hevaluated
    have hall : VisitedAll (e.push name) entry.dependencies (.ok ()) after := by
      have hvisited := visit_visited.2 _ _ (h.push name) hstacked hothers
      rwa [hvisit] at hvisited
    exact result_complete_eq_recompute hlookup hoff keeps hall hroom
  case nil =>
    intro e _ _ _ _
    rw [Locals.recomputeEach]
    rfl
  case stopped =>
    intro e name rest error after _ _ ih h hs hchain hroom
    rw [Locals.recomputeEach_cons, ← ih h hs (hchain name (by simp)) hroom]
    rfl
  case continued =>
    intro e name rest value between keeps hvisit ih ihrest h hs hchain hroom
    have hfirst : Visited e name (.ok value) between := by
      have hvisited := visit_visited.1 e name h hs (hchain name (by simp))
      rwa [hvisit] at hvisited
    have hlast := ihrest hfirst.settled hfirst.stacked
      (fun other hother => by
        rw [keeps.resolving, keeps.locals]
        exact hchain other (by simp [hother]))
      (by rw [keeps.keys, keeps.maxDepth]; exact hroom)
    rw [keeps.locals, keeps.resolving] at hlast
    rw [hlast, Locals.recomputeEach_cons, ← ih h hs (hchain name (by simp)) hroom]
    cases e.locals.recomputeEach e.resolving rest <;> rfl

/-! ### All local values -/

/-- Where all names are evaluated, the values are those that are known. -/
theorem Settled.values_eq {e : Evaluator} (h : e.Settled) (hnodup : (Keyed.keys e.entries).Nodup)
    (hall : ∀ name ∈ Keyed.keys e.entries, name ∈ e.order) :
    EvaluatedLocals.values ⟨e.entries, e.order⟩ =
      (Keyed.keys e.entries).map fun name => (name, (environment e.entries name).getD .null) := by
  rw [EvaluatedLocals.values, Keyed.keys, List.map_map]
  refine List.map_congr_left fun pair hpair => ?_
  obtain ⟨name, entry⟩ := pair
  have hlookup := Keyed.lookup_of_mem hnodup hpair
  have hevaluated := (h.evaluated_iff name entry hlookup).2
    (hall name (Keyed.mem_keys_of_lookup hlookup))
  have hknown : environment e.entries name = some entry.value :=
    environment_eq_some_iff.2 ⟨entry, hlookup, hevaluated, rfl⟩
  show (name, entry.value) = (name, (environment e.entries name).getD .null)
  rw [hknown]
  rfl

section Declared
variable (declared : List (String × Value)) (maxDepth : Nat) (earlier : List String)

theorem result_visitAll_run (hroom : (Keyed.ofList declared).length ≤ maxDepth) :
    (((ofList declared maxDepth).run earlier).visitAll
      (Keyed.keys (Keyed.ofList declared))).result =
      (Locals.recomputeAll (Keyed.ofList declared)).map fun _ => () := by
  have hidle := resolving_run declared maxDepth earlier
  have hresult := visit_eq_recompute.2 ((ofList declared maxDepth).run earlier)
    (Keyed.keys (Keyed.ofList declared)) (settled_run declared maxDepth earlier)
    (stacked_of_resolving_nil hidle)
    (fun name _ => by rw [hidle]; exact List.isChain_singleton name)
    (by rw [keys_entries_run, maxDepth_run, Keyed.keys, List.length_map]; exact hroom)
  rw [hidle, locals_run] at hresult
  exact hresult

/-- Where no chain can be too long, evaluation of all local values yields the values that their
recomputation yields, or fails as it fails, also after other evaluations. -/
theorem evaluateAll_eq_recomputeAll (hroom : (Keyed.ofList declared).length ≤ maxDepth) :
    ((ofList declared maxDepth).run earlier).evaluateAll.value.map EvaluatedLocals.values =
      Locals.recomputeAll (Keyed.ofList declared) := by
  cases hvalue : ((ofList declared maxDepth).run earlier).evaluateAll.value with
  | error error =>
    rw [value_evaluateAll, keys_entries_run, result_visitAll_run declared maxDepth earlier hroom]
      at hvalue
    cases hall : Locals.recomputeAll (Keyed.ofList declared) with
    | error other =>
      rw [hall] at hvalue
      cases hvalue
      rfl
    | ok values =>
      rw [hall] at hvalue
      cases hvalue
  | ok l =>
    obtain ⟨after, hsettled, hlocals, hall, rfl⟩ :=
      exists_settled_of_evaluateAll declared maxDepth earlier hvalue
    have hkeys : Keyed.keys after.entries = Keyed.keys (Keyed.ofList declared) := by
      rw [← keys_locals, hlocals]
    have heach : ∀ name ∈ Keyed.keys (Keyed.ofList declared),
        Locals.recompute (Keyed.ofList declared) [] name =
          .ok ((environment after.entries name).getD .null) := by
      intro name hname
      obtain ⟨value, hknown⟩ := hsettled.exists_known (hall name hname)
      rw [hknown, ← hlocals]
      apply hsettled.recompute_eq_ok hknown
      simp
    rw [Locals.recomputeAll, Locals.recomputeEach_eq_ok heach, ← hkeys]
    apply congrArg Except.ok
    apply hsettled.values_eq
    · rw [hkeys]
      exact Keyed.nodup_keys_ofList declared
    · rw [hkeys]
      exact hall

end Declared

/-- Two cycles that share a name: that which is met first is told, by its full path. -/
theorem evaluateAll_overlapping :
    (Keyed.ofList [("a", Value.string "${local.b}${local.a}"),
      ("b", .string "${local.a}")]).length ≤ 2 ∧
    ((ofList [("a", .string "${local.b}${local.a}"), ("b", .string "${local.a}")] 2).run
      ["b"]).evaluateAll.value.map EvaluatedLocals.values =
      Locals.recomputeAll
        (Keyed.ofList [("a", .string "${local.b}${local.a}"), ("b", .string "${local.a}")]) ∧
    Locals.recomputeAll
        (Keyed.ofList [("a", .string "${local.b}${local.a}"), ("b", .string "${local.a}")]) =
      .error (.circularDependency ["a", "b", "a"]) := by
  refine ⟨by decide, ?_, ?_⟩
  · apply evaluateAll_eq_recomputeAll
    decide
  · cbv

end Evaluator

end InfraConfig
