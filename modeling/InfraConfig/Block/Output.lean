import InfraConfig.Block.Check
import InfraConfig.Reference.Occurrence

/-! Outputs: a value, what it depends on, and whether it is sensitive. A sensitive value is never
shown; of such an output only its dependencies and a warning about a composite value tell anything
about the value. -/
namespace InfraConfig

open Text (trim)

/-- An output. -/
structure OutputValue where
  name : String
  value : Value
  dependencies : List String
  isSensitive : Bool
  description : Option String
deriving Repr

namespace OutputValue

/-- What an output depends on by a reference: the local value, or the reference up to the first
index. -/
def dependencyOf : Reference → String
  | .localValue name _ => "local." ++ name
  | .external written => String.ofList (written.toList.takeWhile (· ≠ '['))

/-- What a value depends on. -/
def dependenciesOf (value : Value) : List String := value.references.map dependencyOf

/-- What an entry of `depends_on` names: bare text stands for itself. -/
def namedBy : Value → List String
  | .string s =>
    if (Template.spans s.toList).isEmpty then [String.ofList (trim s.toList)]
    else dependenciesOf (.string s)
  | entry => dependenciesOf entry

/-- A character of a dependency. -/
def isDependencyChar (c : Char) : Bool := c.isAlphanum || c == '_' || c == '.' || c == '-'

/-- A dependency has a point that is neither its first nor its last character. -/
def isDependency (name : String) : Bool :=
  name.toList.all isDependencyChar && (name.toList.drop 1).dropLast.contains '.'

/-- The dependencies of an output: those of its value, then those of `depends_on`. -/
def collectDependencies (value : Value) (dependsOn : Option Value) : List String :=
  let named := match dependsOn with
    | some (.list entries) => entries.flatMap namedBy
    | _ => []
  (dependenciesOf value ++ named).eraseDups.filter isDependency

/-- The warning about a sensitive output with a composite value. -/
def compositeWarning (name : String) : Diagnostic where
  level := Rule.sensitiveComposite.level
  message := s!"output '{name}' is sensitive and holds a composite value; " ++
    "consider exposing scalar outputs"
  code := some Rule.sensitiveComposite.name
  block := some ⟨BlockKind.output.name, name⟩
  fieldPath := none
  suggestion := none

/-- Checks the declaration of an output. -/
def check (d : Declaration) : Check (Checked OutputValue) := do
  d.requireIdentifier
  let value ← d.required "value"
  let isSensitive ← d.flag "sensitive"
  let dependencies := collectDependencies value (d.attribute? "depends_on")
  let description ← d.optionalString "description"
  let entity : OutputValue := ⟨d.name, value, dependencies, isSensitive, description⟩
  if isSensitive && value.isComposite then
    Check.note s!"sensitive output '{d.name}' holds a composite value" []
    return ⟨entity, [compositeWarning d.name]⟩
  else return ⟨entity, []⟩

/-- What stands for a sensitive value. -/
def redacted : String := "<sensitive>"

/-- The value as others may see it. -/
def exposedValue (o : OutputValue) : Value :=
  if o.isSensitive then .string redacted else o.value

/-- The value that shows an output. -/
def toValue (o : OutputValue) : Value := .object [
  ("name", .string o.name), ("value", o.exposedValue),
  ("dependencies", .list (o.dependencies.map .string)), ("sensitive", .bool o.isSensitive),
  ("description", .ofOption o.description)]

end OutputValue

end InfraConfig
