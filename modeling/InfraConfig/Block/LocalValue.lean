import InfraConfig.Block.Check
import InfraConfig.Locals.Evaluator
import InfraConfig.Settings.Basic

/-! Declarations of local values. Each is checked by itself; then all of a configuration unit are
evaluated together. -/
namespace InfraConfig

/-- The value that shows a local value. -/
def LocalEntry.toValue (e : LocalEntry) : Value := .object [
  ("name", .string e.name), ("rawExpression", e.expression),
  ("dependencies", .list (e.dependencies.map .string)), ("value", e.value),
  ("evaluated", .bool e.evaluated)]

/-- The value that shows evaluated local values. -/
def EvaluatedLocals.toValue (l : EvaluatedLocals) : Value := .object [
  ("entries", .object (l.entries.map fun (name, e) => (name, e.toValue))),
  ("evaluationOrder", .list (l.order.map .string))]

namespace LocalEntry

/-- Checks the declaration of a local value, which is not evaluated yet. -/
def check (settings : Settings) (d : Declaration) : Check (Checked LocalEntry) := do
  d.requireName
  if settings.isReservedLocalName d.name then throw (d.misshapen .reservedName)
  match d.attribute? "value" with
  | none => throw (d.misshapen .missingExpression)
  | some expression => return ⟨⟨d.name, expression, .null, false⟩, []⟩

end LocalEntry

/-- Notes that a block is refused, if it is. -/
def Declaration.noteRefusal {α : Type} (d : Declaration) (outcome : Except AnalysisError α) :
    Traced Unit :=
  match outcome with
  | .ok _ => pure ()
  | .error e =>
    Traced.note s!"block rejected: {e.message}"
      [("block_kind", d.kind.name), ("block_name", d.name)]

namespace Locals

/-- Adds the declarations of local values to those known; none is declared twice. -/
def declare (settings : Settings) (known : Locals) :
    List Declaration → Traced (Except AnalysisError Locals)
  | [] => pure (.ok known)
  | d :: rest => do
    let outcome ← (LocalEntry.check settings d).run
    d.noteRefusal outcome
    match outcome with
    | .error e => return .error e
    | .ok ⟨entry, _⟩ =>
      if (known.lookup entry.name).isSome then return .error (d.misshapen .duplicateLocal)
      else declare settings (known ++ [(entry.name, entry.expression)]) rest

/-- Checks and evaluates the local values among declarations. -/
def evaluateDeclared (settings : Settings) (declarations : List Declaration) :
    Traced (Except AnalysisError EvaluatedLocals) := do
  match ← declare settings [] (declarations.filter (·.kind == .localValue)) with
  | .error e => return .error e
  | .ok locals => (Evaluator.ofList locals settings.maxDependencyDepth).evaluateAll

end Locals

end InfraConfig
