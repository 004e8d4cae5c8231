import InfraConfig.Analysis.Error
import InfraConfig.Locals.Substitution
import InfraConfig.Trace

/-! Evaluation of local values. Local values refer to each other; each is evaluated once, after
the local values it depends on, which are visited in the order of their first occurrence. The
names that are being evaluated stand on a stack, each depending on the next: a name that is on the
stack already closes a cycle, and a chain may have no more links than a bound. What is completed
is kept with its depth, the number of links in the longest chain that starts there, so that the
bound holds whatever the order of visits.

A visit puts its name on the stack and takes it off again, whether it succeeds or fails. An
`Outcome` carries the proof of this, and so a visit ends: the stack only holds declared names,
each once. -/
namespace InfraConfig

/-- The expressions of the declared local values, by name. -/
abbrev Locals := Keyed Value

namespace Locals

/-- The declared names that are not on a chain. -/
def unvisited (locals : Locals) (chain : List String) : List String :=
  (Keyed.keys locals).filter (!chain.contains ·)

theorem length_unvisited_lt {locals : Locals} {chain : List String} {name : String}
    (hmem : name ∈ Keyed.keys locals) (hnot : name ∉ chain) :
    (locals.unvisited (chain ++ [name])).length < (locals.unvisited chain).length := by
  have hsub : (locals.unvisited (chain ++ [name])) =
      (locals.unvisited chain).filter (· != name) := by
    simp only [unvisited, List.filter_filter]
    congr 1
    funext n
    by_cases h : n = name <;> by_cases h' : n ∈ chain <;> simp [h, h']
  rw [hsub]
  have hin : name ∈ locals.unvisited chain := by simp [unvisited, hmem, hnot]
  exact List.length_filter_lt_length_iff_exists.2 ⟨name, hin, by simp⟩

end Locals

/-- A local value as it is exposed. -/
structure LocalEntry where
  name : String
  expression : Value
  value : Value
  evaluated : Bool
deriving DecidableEq, Repr

namespace LocalEntry

/-- A local value that is not evaluated yet. -/
def ofExpression (name : String) (expression : Value) : LocalEntry := ⟨name, expression, .null, false⟩

/-- The local values that the expression depends on. -/
def dependencies (e : LocalEntry) : List String := e.expression.localNames

/-- The entry once its value is known. -/
def complete (value : Value) (e : LocalEntry) : LocalEntry := { e with value, evaluated := true }

/-- The values of the entries that are evaluated. -/
def environment (entries : Keyed LocalEntry) : Environment := fun name =>
  ((entries.lookup name).filter (·.evaluated)).map (·.value)

end LocalEntry

/-- The local values of one configuration unit and what is evaluated of them. -/
structure Evaluator where
  /-- The local values in the order of declaration. -/
  entries : Keyed LocalEntry
  /-- The most links that a chain of dependencies may have. -/
  maxDepth : Nat
  /-- The names that are being evaluated, each depending on the next. -/
  resolving : List String
  /-- The names of the local values that are evaluated, in the order of completion. -/
  order : List String
  /-- The number of links in the longest chain of dependencies that starts at an evaluated name. -/
  depths : Keyed Nat
deriving DecidableEq, Repr

namespace Evaluator

/-- Nothing is evaluated yet. Of a repeated name the last expression counts, in the first place. -/
def ofList (locals : List (String × Value)) (maxDepth : Nat) : Evaluator where
  entries := Keyed.ofList (locals.map fun (name, x) => (name, .ofExpression name x))
  maxDepth
  resolving := []
  order := []
  depths := []

/-- What is declared, whatever is evaluated of it. -/
def locals (e : Evaluator) : Locals := Keyed.mapValues (fun _ entry => entry.expression) e.entries

/-- Begins the evaluation of a name. -/
def push (e : Evaluator) (name : String) : Evaluator :=
  { e with resolving := e.resolving ++ [name] }

/-- Ends the evaluation that was begun last. -/
def pop (e : Evaluator) : Evaluator := { e with resolving := e.resolving.dropLast }

/-- The depth of a local value whose dependencies are evaluated. -/
def depthOver (e : Evaluator) (dependencies : List String) : Nat :=
  (dependencies.filterMap fun name => (e.depths.lookup name).map (· + 1)).max?.getD 0

/-- Keeps the value and the depth of a name. -/
def record (e : Evaluator) (name : String) (value : Value) (depth : Nat) : Evaluator :=
  { e with
    entries := Keyed.modify e.entries name (.complete value)
    order := e.order ++ [name]
    depths := Keyed.insert e.depths name depth }

theorem locals_record (e : Evaluator) (name : String) (value : Value) (depth : Nat) :
    (e.record name value depth).locals = e.locals :=
  Keyed.mapValues_modify (f := LocalEntry.complete value) (fun _ => rfl) e.entries

theorem lookup_locals (e : Evaluator) (name : String) :
    e.locals.lookup name = (e.entries.lookup name).map (·.expression) :=
  Keyed.lookup_mapValues ..

/-- What an evaluation leaves as it is. -/
structure Keeps (before after : Evaluator) : Prop where
  locals : after.locals = before.locals
  maxDepth : after.maxDepth = before.maxDepth
  resolving : after.resolving = before.resolving

theorem Keeps.refl (e : Evaluator) : e.Keeps e := ⟨rfl, rfl, rfl⟩

theorem Keeps.trans {a b c : Evaluator} (h : a.Keeps b) (h' : b.Keeps c) : a.Keeps c :=
  ⟨h'.locals.trans h.locals, h'.maxDepth.trans h.maxDepth, h'.resolving.trans h.resolving⟩

/-- What is begun and then ended leaves the stack as it was. -/
theorem Keeps.pop {e after : Evaluator} {name : String} (h : (e.push name).Keeps after) :
    e.Keeps after.pop :=
  ⟨h.locals, h.maxDepth, by simp [Evaluator.pop, h.resolving, push]⟩

/-- A result and what the evaluator has become on the way to it. -/
structure Outcome (before : Evaluator) (α : Type) where
  result : Except AnalysisError α
  after : Evaluator
  keeps : before.Keeps after

/-- Nothing changed. -/
def still {α : Type} (e : Evaluator) (result : Except AnalysisError α) : e.Outcome α :=
  ⟨result, e, .refl e⟩

/-- Completes a local value whose dependencies are evaluated, unless a chain that starts at it has
more links than it may. -/
def complete (e : Evaluator) (name : String) (expression : Value) : e.Outcome Value :=
  let depth := e.depthOver expression.localNames
  if e.maxDepth < depth then
    e.still (.error (.content .localValue name (.tooManyLinks depth e.maxDepth)))
  else
    let value := (LocalEntry.environment e.entries).substitute expression
    ⟨.ok value, e.record name value depth, ⟨e.locals_record name value depth, rfl, rfl⟩⟩

theorem mem_keys_locals {e : Evaluator} {name : String} {entry : LocalEntry}
    (h : e.entries.lookup name = some entry) : name ∈ Keyed.keys e.locals := by
  rw [locals, Keyed.keys_mapValues]
  exact Keyed.mem_keys_of_lookup h

mutual

/-- Evaluates a local value, and before it what it depends on. -/
def visit (e : Evaluator) (name : String) : e.Outcome Value :=
  match _h : e.entries.lookup name with
  | none => e.still (.error (.unknownReference name e.resolving.getLast?))
  | some entry =>
    if _hc : name ∈ e.resolving then
      e.still (.error (.circularDependency (e.resolving ++ [name])))
    else if entry.evaluated then e.still (.ok entry.value)
    else if e.maxDepth < e.resolving.length then
      let blamed := e.resolving.head?.getD name
      e.still (.error (.content .localValue blamed
        (.chainTooLong (e.resolving ++ [name]) e.maxDepth)))
    else
      match (e.push name).visitAll entry.dependencies with
      | ⟨.error error, after, keeps⟩ => ⟨.error error, after.pop, keeps.pop⟩
      | ⟨.ok (), after, keeps⟩ =>
        let last := after.complete name entry.expression
        ⟨last.result, last.after.pop, (keeps.trans last.keeps).pop⟩
termination_by ((e.locals.unvisited e.resolving).length, 0)
decreasing_by
  exact Prod.Lex.left _ _ (Locals.length_unvisited_lt (mem_keys_locals ‹_›) ‹_›)

/-- Evaluates local values one after the other, up to the first that fails. -/
def visitAll (e : Evaluator) (names : List String) : e.Outcome Unit :=
  match names with
  | [] => e.still (.ok ())
  | name :: rest =>
    match e.visit name with
    | ⟨.error error, after, keeps⟩ => ⟨.error error, after, keeps⟩
    | ⟨.ok _, after, keeps⟩ =>
      let last := after.visitAll rest
      ⟨last.result, last.after, keeps.trans last.keeps⟩
termination_by ((e.locals.unvisited e.resolving).length, names.length + 1)
decreasing_by
  · exact Prod.Lex.right _ (by simp)
  · rw [keeps.locals, keeps.resolving]
    exact Prod.Lex.right _ (by simp)

end

/-- The record of the completion of a local value: the references that it leaves alone. -/
def completionRecords (e : Evaluator) (name : String) : List Record :=
  (((e.locals.lookup name).map Value.externals).getD []).map fun r =>
    ⟨s!"leaving non-local reference '{r.text}' untouched", []⟩

/-- Evaluates a local value and what it depends on. -/
def evaluate (e : Evaluator) (name : String) : Traced (Except AnalysisError Value × Evaluator) :=
  let ⟨result, after, _⟩ := e.visit name
  let completed := after.order.drop e.order.length
  let failure := match result with
    | .error (.circularDependency path) =>
      [⟨s!"circular dependency detected: {arrowed path}", []⟩]
    | _ => []
  ⟨(result, after), completed.flatMap e.completionRecords ++ failure⟩

/-- Evaluates local values one after the other, up to the first that fails. -/
def evaluateEach (e : Evaluator) : List String → Traced (Except AnalysisError Unit × Evaluator)
  | [] => pure (.ok (), e)
  | name :: rest => do
    match ← e.evaluate name with
    | (.error error, e) => return (.error error, e)
    | (.ok _, e) => e.evaluateEach rest

end Evaluator

/-- The local values of a configuration unit, all evaluated. -/
structure EvaluatedLocals where
  /-- In the order of declaration. -/
  entries : Keyed LocalEntry
  /-- The names in the order of completion; what a local value depends on comes before it. -/
  order : List String
deriving DecidableEq, Repr

namespace EvaluatedLocals

/-- The values in the order of declaration. -/
def values (l : EvaluatedLocals) : Keyed Value := l.entries.map fun (name, e) => (name, e.value)

end EvaluatedLocals

/-- Evaluates all local values in the order of declaration. The first failure ends the work, and
nothing is returned of what was evaluated before it. -/
def Evaluator.evaluateAll (e : Evaluator) : Traced (Except AnalysisError EvaluatedLocals) := do
  match ← e.evaluateEach (Keyed.keys e.entries) with
  | (.error error, _) => return .error error
  | (.ok (), e) =>
    Traced.note "local values evaluated" [("order", ", ".intercalate e.order)]
    return .ok ⟨e.entries, e.order⟩

end InfraConfig
