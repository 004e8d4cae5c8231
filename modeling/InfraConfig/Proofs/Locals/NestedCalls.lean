import InfraConfig.Proofs.Locals.Run

/-! The calls within an evaluation. `follow` goes the way of an evaluation wherever the dependencies
lead. Nothing in them makes it end: what does is how many evaluations may be begun within each
other, and where more would be it comes to nothing. It keeps the evaluator that each call on the way
has found. From an empty stack an evaluation ends, with no more evaluations within it than the stack
has room for, and each call on its way has found the stack `Disciplined` (`follow_disciplined`).
What carries this from call to call is that a call hands back a stack in order, in failure too. -/
namespace InfraConfig.Evaluator

/-! ### Evaluation wherever it leads -/

/-- What an evaluation comes to, and on what way. -/
structure Course (α : Type) where
  result : Except AnalysisError α
  after : Evaluator
  /-- The evaluator as the calls on the way have found it, in the order of the calls. -/
  found : List Evaluator

/-- A call that ends where it began. -/
def halt {α : Type} (e : Evaluator) (result : Except AnalysisError α) : Course α :=
  ⟨result, e, [e]⟩

section Following
variable (evaluation : Evaluator → String → Option (Course Value))

/-- Goes through evaluations one after the other, up to the first that fails. -/
def followEach (e : Evaluator) : List String → Option (Course Unit)
  | [] => some ⟨.ok (), e, []⟩
  | name :: rest => do
    let first ← evaluation e name
    match first.result with
    | .error error => return ⟨.error error, first.after, first.found⟩
    | .ok _ =>
      let others ← followEach first.after rest
      return ⟨others.result, others.after, first.found ++ others.found⟩

/-- Goes through the evaluations of what a name depends on, and then evaluates its expression. -/
def followEntry (e : Evaluator) (name : String) : Option (Course Value) :=
  match e.entries.lookup name with
  | none => some (e.halt (.error (.unknownReference name none)))
  | some entry => do
    let course ← followEach evaluation e entry.dependencies
    match course.result with
    | .error error => return ⟨.error error, course.after, e :: course.found⟩
    | .ok () =>
      let last := course.after.complete name entry.expression
      return ⟨last.result, last.after, e :: course.found⟩

end Following

/-- Goes through the evaluation of a local value, with only so many evaluations within each
other. -/
def follow : Nat → Evaluator → String → Option (Course Value)
  | 0, _, _ => none
  | nesting + 1, e, name =>
    match e.entries.lookup name with
    | none => some (e.halt (.error (.unknownReference name e.resolving.getLast?)))
    | some entry =>
      if name ∈ e.resolving then
        some (e.halt (.error (.circularDependency (e.resolving ++ [name]))))
      else if entry.evaluated then some (e.halt (.ok entry.value))
      else if e.maxDepth < e.resolving.length then
        some (e.halt (.error (.content .localValue (e.resolving.head?.getD name)
          (.chainTooLong (e.resolving ++ [name]) e.maxDepth))))
      else do
        let course ← followEntry (follow nesting) (e.push name) name
        return ⟨course.result, course.after.pop, e :: course.found⟩

section Steps
variable {e after : Evaluator} {name : String} {entry : LocalEntry} {found : List Evaluator}
  {nesting : Nat}

theorem follow_of_entry (h : e.entries.lookup name = some entry) : follow (nesting + 1) e name =
    if name ∈ e.resolving then
      some (e.halt (.error (.circularDependency (e.resolving ++ [name]))))
    else if entry.evaluated then some (e.halt (.ok entry.value))
    else if e.maxDepth < e.resolving.length then
      some (e.halt (.error (.content .localValue (e.resolving.head?.getD name)
        (.chainTooLong (e.resolving ++ [name]) e.maxDepth))))
    else do
      let course ← followEntry (follow nesting) (e.push name) name
      return ⟨course.result, course.after.pop, e :: course.found⟩ := by
  rw [follow, h]

/-- The evaluation of a name that is put on the stack. -/
theorem follow_of_followEach {result : Except AnalysisError Unit}
    (hlookup : e.entries.lookup name = some entry) (hoff : name ∉ e.resolving)
    (hevaluated : entry.evaluated = false) (hshallow : e.resolving.length ≤ e.maxDepth)
    (heach : followEach (follow nesting) (e.push name) entry.dependencies =
      some ⟨result, after, found⟩) :
    follow (nesting + 1) e name = match result with
      | .error error => some ⟨.error error, after.pop, e :: e.push name :: found⟩
      | .ok () => some ⟨(after.complete name entry.expression).result,
          (after.complete name entry.expression).after.pop, e :: e.push name :: found⟩ := by
  have hpushed : (e.push name).entries.lookup name = some entry := hlookup
  rw [follow_of_entry hlookup, if_neg hoff, hevaluated, if_neg Bool.false_ne_true,
    if_neg (Nat.not_lt.2 hshallow), followEntry, hpushed]
  cases result <;> simp [heach]

end Steps

/-! ### The stack -/

/-- The most names that the stack has room for. -/
def capacity (e : Evaluator) : Nat := min e.entries.length (e.maxDepth + 1)

/-- What a call finds within an evaluation that was begun on `start`. The stack is in order: it
holds names that are declared and not evaluated yet, each once and each among the dependencies of
the one before it, and only so many. -/
structure Disciplined (start e : Evaluator) : Prop where
  locals : e.locals = start.locals
  maxDepth : e.maxDepth = start.maxDepth
  nodup : e.resolving.Nodup
  pending : ∀ name ∈ e.resolving,
    ∃ entry, e.entries.lookup name = some entry ∧ entry.evaluated = false
  chain : e.resolving.IsChain start.locals.DependsOn
  height : e.resolving.length ≤ start.capacity

theorem disciplined_of_idle {e : Evaluator} (h : e.resolving = []) : e.Disciplined e := by
  constructor <;> simp [h]

namespace Disciplined

variable {start e : Evaluator} {name : String} {entry : LocalEntry}

/-- The stack has room for a declared name that is not on it. -/
theorem length_lt (h : start.Disciplined e) (hlookup : e.entries.lookup name = some entry)
    (hoff : name ∉ e.resolving) : e.resolving.length < start.entries.length := by
  have hdeclared : ∀ other ∈ e.resolving, other ∈ Keyed.keys e.locals := by
    intro other hother
    obtain ⟨entry, hlookup, _⟩ := h.pending other hother
    exact mem_keys_locals hlookup
  calc e.resolving.length
    _ < (Keyed.keys e.locals).length :=
      length_lt_keys h.nodup hdeclared (mem_keys_locals hlookup) hoff
    _ = (Keyed.keys start.entries).length := by rw [h.locals, keys_locals]
    _ = start.entries.length := List.length_map _

theorem push (h : start.Disciplined e) (hlookup : e.entries.lookup name = some entry)
    (hoff : name ∉ e.resolving) (hevaluated : entry.evaluated = false)
    (hshallow : e.resolving.length ≤ e.maxDepth)
    (hchain : (e.resolving ++ [name]).IsChain e.locals.DependsOn) :
    start.Disciplined (e.push name) where
  locals := h.locals
  maxDepth := h.maxDepth
  nodup := List.nodup_append.2 ⟨h.nodup, by simp, by rintro a ha b hb rfl; simp_all⟩
  pending := by
    intro other hother
    rcases List.mem_append.1 hother with hold | hlast
    · exact h.pending other hold
    · rw [List.mem_singleton.1 hlast]
      exact ⟨entry, hlookup, hevaluated⟩
  chain := h.locals ▸ hchain
  height := by
    have hlength := h.length_lt hlookup hoff
    have hmax := h.maxDepth
    simp only [Evaluator.push, capacity, List.length_append, List.length_singleton]
    omega

theorem pop (h : start.Disciplined e) : start.Disciplined e.pop where
  locals := h.locals
  maxDepth := h.maxDepth
  nodup := h.nodup.sublist (List.dropLast_sublist _)
  pending other hother := h.pending other (List.dropLast_subset _ hother)
  chain := h.chain.dropLast
  height := ((List.dropLast_sublist _).length_le).trans h.height

/-- Of the names on the stack, what is kept of the last concerns that name only. -/
theorem pop_record (h : start.Disciplined e) {stack : List String}
    (hstack : e.resolving = stack ++ [name]) (value : Value) (depth : Nat) :
    start.Disciplined (e.record name value depth).pop where
  locals := (e.locals_record name value depth).trans h.locals
  maxDepth := h.maxDepth
  nodup := h.pop.nodup
  pending := by
    intro other hother
    obtain ⟨entry, hlookup, hevaluated⟩ := h.pop.pending other hother
    refine ⟨entry, ?_, hevaluated⟩
    have hne : other ≠ name := by
      have hnodup := h.nodup
      have hother' : other ∈ e.resolving.dropLast := hother
      rw [hstack] at hnodup hother'
      rw [List.dropLast_concat] at hother'
      exact (List.nodup_append.1 hnodup).2.2 other hother' name (by simp)
    have hsame : e.entries.lookup other = some entry := hlookup
    simp [Evaluator.pop, record, Keyed.lookup_modify, hsame, hne]
  chain := h.pop.chain
  height := h.pop.height

/-- However its completion ends, a name is taken off the stack. -/
theorem pop_complete (h : start.Disciplined e) {stack : List String}
    (hstack : e.resolving = stack ++ [name]) (expression : Value) :
    start.Disciplined (e.complete name expression).after.pop := by
  simp only [complete]
  split
  · exact h.pop
  · exact h.pop_record hstack _ _

end Disciplined

/-! ### From call to call -/

/-- What is begun on `e` ends, with the result and the evaluator given, if as many evaluations may
be begun within each other as there is room left on the stack, and one. In the end, and before every
call on the way, the stack is in order. -/
def Ends {α : Type} (start e : Evaluator) (course : Nat → Option (Course α))
    (result : Except AnalysisError α) (after : Evaluator) : Prop :=
  ∃ found,
    (∀ nesting, start.capacity - e.resolving.length < nesting →
      course nesting = some ⟨result, after, found⟩) ∧
    start.Disciplined after ∧ ∀ other ∈ found, start.Disciplined other

theorem Disciplined.ends_halt {α : Type} {start e : Evaluator} (h : start.Disciplined e)
    {course : Nat → Option (Course α)} {result : Except AnalysisError α}
    (hcourse : ∀ nesting, course (nesting + 1) = some (e.halt result)) :
    start.Ends e course result e := by
  refine ⟨[e], fun nesting hnesting => ?_, h, fun other hother => ?_⟩
  · obtain ⟨within, rfl⟩ := Nat.exists_eq_add_one_of_ne_zero (Nat.ne_zero_of_lt hnesting)
    exact hcourse within
  · rw [List.mem_singleton.1 hother]
    exact h

/-- One evaluation is begun on `e`, and the others within it. -/
theorem Disciplined.exists_within {start e : Evaluator} {name : String}
    (hpush : start.Disciplined (e.push name)) {nesting : Nat}
    (hnesting : start.capacity - e.resolving.length < nesting) : ∃ within, nesting = within + 1 ∧
      start.capacity - (e.push name).resolving.length < within := by
  have hheight := hpush.height
  simp only [Evaluator.push, List.length_append, List.length_singleton] at hheight ⊢
  exact ⟨nesting - 1, by omega, by omega⟩

/-- From a stack in order, evaluations end as visits do. -/
theorem ends_visit (start : Evaluator) :
    (∀ e name, start.Disciplined e → (e.resolving ++ [name]).IsChain e.locals.DependsOn →
      start.Ends e (fun nesting => follow nesting e name)
        (e.visit name).result (e.visit name).after) ∧
    ∀ e names, start.Disciplined e →
      (∀ name ∈ names, (e.resolving ++ [name]).IsChain e.locals.DependsOn) →
      start.Ends e (fun nesting => followEach (follow nesting) e names)
        (e.visitAll names).result (e.visitAll names).after := by
  apply visit_induction
    (P := fun e name result after => start.Disciplined e →
      (e.resolving ++ [name]).IsChain e.locals.DependsOn →
      start.Ends e (fun nesting => follow nesting e name) result after)
    (Q := fun e names result after => start.Disciplined e →
      (∀ name ∈ names, (e.resolving ++ [name]).IsChain e.locals.DependsOn) →
      start.Ends e (fun nesting => followEach (follow nesting) e names) result after)
  case undeclared =>
    intro e name hlookup h _
    refine h.ends_halt fun nesting => ?_
    rw [follow, hlookup]
  case cycle =>
    intro e name entry hlookup hon h _
    refine h.ends_halt fun nesting => ?_
    rw [follow_of_entry hlookup, if_pos hon]
  case known =>
    intro e name entry hlookup hoff hevaluated h _
    refine h.ends_halt fun nesting => ?_
    rw [follow_of_entry hlookup, if_neg hoff, if_pos hevaluated]
  case deep =>
    intro e name entry hlookup hoff hevaluated hdeep h _
    refine h.ends_halt fun nesting => ?_
    rw [follow_of_entry hlookup, if_neg hoff, hevaluated, if_neg Bool.false_ne_true, if_pos hdeep]
  case failed =>
    intro e name entry error after _ hlookup hoff hevaluated hshallow _ ih h hchain
    have hpush := h.push hlookup hoff hevaluated hshallow hchain
    obtain ⟨found, heach, hafter, hfound⟩ := ih hpush (isChain_push_dependencies hchain hlookup)
    refine ⟨e :: e.push name :: found, fun nesting hnesting => ?_, hafter.pop, ?_⟩
    · obtain ⟨within, rfl, hwithin⟩ := hpush.exists_within hnesting
      exact follow_of_followEach hlookup hoff hevaluated hshallow (heach within hwithin)
    · exact List.forall_mem_cons.2 ⟨h, List.forall_mem_cons.2 ⟨hpush, hfound⟩⟩
  case reached =>
    intro e name entry after hkeeps hlookup hoff hevaluated hshallow _ ih h hchain
    have hpush := h.push hlookup hoff hevaluated hshallow hchain
    obtain ⟨found, heach, hafter, hfound⟩ := ih hpush (isChain_push_dependencies hchain hlookup)
    refine ⟨e :: e.push name :: found, fun nesting hnesting => ?_,
      hafter.pop_complete hkeeps.resolving _, ?_⟩
    · obtain ⟨within, rfl, hwithin⟩ := hpush.exists_within hnesting
      exact follow_of_followEach hlookup hoff hevaluated hshallow (heach within hwithin)
    · exact List.forall_mem_cons.2 ⟨h, List.forall_mem_cons.2 ⟨hpush, hfound⟩⟩
  case nil =>
    intro e h _
    exact ⟨[], fun _ _ => rfl, h, nofun⟩
  case stopped =>
    intro e name rest error after _ _ ih h hchain
    obtain ⟨found, hfollow, hafter, hfound⟩ := ih h (hchain name (by simp))
    refine ⟨found, fun nesting hnesting => ?_, hafter, hfound⟩
    simp [followEach, hfollow nesting hnesting]
  case continued =>
    intro e name rest value between hkeeps _ ih ihrest h hchain
    obtain ⟨found, hfollow, hbetween, hfound⟩ := ih h (hchain name (by simp))
    obtain ⟨others, heach, hafter, hothers⟩ := ihrest hbetween fun other hother => by
      rw [hkeeps.resolving, hkeeps.locals]
      exact hchain other (by simp [hother])
    refine ⟨found ++ others, fun nesting hnesting => ?_, hafter,
      List.forall_mem_append.2 ⟨hfound, hothers⟩⟩
    have hrest := heach nesting (by rwa [hkeeps.resolving])
    simp [followEach, hfollow nesting hnesting, hrest]

/-- An evaluation ends, whatever depends on what: no more evaluations are begun within it than the
stack has room for. Every call on its way finds the stack in order. In the end the stack is empty
again, so that the next evaluation starts as this one did. -/
theorem follow_disciplined (e : Evaluator) (hidle : e.resolving = []) (name : String) :
    ∃ found,
      (∀ nesting, min e.entries.length (e.maxDepth + 1) < nesting → follow nesting e name =
        some ⟨(e.evaluate name).value.1, (e.evaluate name).value.2, found⟩) ∧
      (∀ other ∈ found, e.Disciplined other) ∧ (e.evaluate name).value.2.resolving = [] := by
  have hchain : (e.resolving ++ [name]).IsChain e.locals.DependsOn := by
    rw [hidle]
    exact List.isChain_singleton name
  obtain ⟨found, hfollow, _, hfound⟩ := (ends_visit e).1 e name (disciplined_of_idle hidle) hchain
  refine ⟨found, fun nesting hnesting => ?_, hfound, (e.visit name).keeps.resolving.trans hidle⟩
  apply hfollow
  rw [hidle]
  exact hnesting

/-- Two local values that depend on each other, one of them on an undeclared name as well. The way
ends at a stack of two names, as many as a bound of one allows. -/
theorem follow_disciplined_cycle :
    ((follow 3 (ofList [("a", .string "${local.b}${local.missing}"), ("b", .string "${local.a}")] 1)
      "a").map fun course => course.found.map (·.resolving)) =
        some [[], ["a"], ["a"], ["a", "b"], ["a", "b"]] ∧
    ∀ course, follow 3 (ofList [("a", .string "${local.b}${local.missing}"),
      ("b", .string "${local.a}")] 1) "a" = some course → ∀ other ∈ course.found,
        Disciplined (ofList [("a", .string "${local.b}${local.missing}"),
          ("b", .string "${local.a}")] 1) other := by
  refine ⟨by decide +kernel, fun course hcourse => ?_⟩
  obtain ⟨found, hfollow, hfound, -⟩ := follow_disciplined
    (ofList [("a", .string "${local.b}${local.missing}"), ("b", .string "${local.a}")] 1) rfl "a"
  rw [hfollow 3 (by decide)] at hcourse
  cases hcourse
  exact hfound

end InfraConfig.Evaluator
