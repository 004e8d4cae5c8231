import InfraConfig.Value.Basic

/-! Diagnostics: findings for a reader, with a level, a message and the place they are about. -/
namespace InfraConfig

/-- How grave a finding is. -/
inductive Level where
  | warning
  | error
deriving DecidableEq, Repr

namespace Level

/-- The name of a level. -/
def name : Level → String
  | .warning => "warning"
  | .error => "error"

/-- The level with a name. -/
def ofName? (name : String) : Option Level := [Level.warning, .error].find? (·.name == name)

end Level

/-- A block as diagnostics name it. -/
structure BlockName where
  kind : String
  name : String
deriving DecidableEq, Repr

/-- A finding for a reader. -/
structure Diagnostic where
  level : Level
  message : String
  code : Option String
  block : Option BlockName
  fieldPath : Option String
  suggestion : Option String
deriving DecidableEq, Repr

namespace Diagnostic

/-- A finding that is a message alone. -/
def ofMessage (level : Level) (message : String) : Diagnostic :=
  ⟨level, message, none, none, none, none⟩

/-- The place a finding is about, in brackets. A field is named only within a block. -/
def subject (d : Diagnostic) : String :=
  match d.block, d.fieldPath with
  | some block, some path => s!" ({block.kind} '{block.name}', field '{path}')"
  | some block, none => s!" ({block.kind} '{block.name}')"
  | none, _ => ""

/-- A finding on one line. -/
def text (d : Diagnostic) : String :=
  let code := match d.code with
    | some code => s!"[{code}]"
    | none => ""
  s!"{d.level.name}{code}{d.subject}: {d.message}"

/-- A text that may be null or left out. -/
def optional? : Option Value → Option (Option String)
  | none | some .null => some none
  | some (.string s) => some (some s)
  | some _ => none

/-- The block that a value names, which may be null or left out. -/
def block? : Option Value → Option (Option BlockName)
  | none | some .null => some none
  | some (.object members) => do
    return some ⟨← (← members.lookup "kind").string?, ← (← members.lookup "name").string?⟩
  | some (.list [.string kind, .string name]) => some (some ⟨kind, name⟩)
  | some _ => none

/-- The finding that a value holds: an object, or a list of the fields in order. -/
def ofValue? : Value → Option Diagnostic
  | .object members => do
    let level ← Level.ofName? (← (← members.lookup "level").string?)
    let message ← (← members.lookup "message").string?
    let code ← optional? (members.lookup "code")
    let block ← block? (members.lookup "block")
    let fieldPath ← optional? (members.lookup "field_path")
    return ⟨level, message, code, block, fieldPath, ← optional? (members.lookup "suggestion")⟩
  | .list [.string level, .string message, code, block, fieldPath, suggestion] => do
    return ⟨← Level.ofName? level, message, ← optional? (some code), ← block? (some block),
      ← optional? (some fieldPath), ← optional? (some suggestion)⟩
  | _ => none

/-- The value that holds a finding. -/
def toValue (d : Diagnostic) : Value := .object [
  ("level", .string d.level.name), ("message", .string d.message), ("code", .ofOption d.code),
  ("block", (d.block.map fun b =>
    .object [("kind", .string b.kind), ("name", .string b.name)]).getD .null),
  ("field_path", .ofOption d.fieldPath), ("suggestion", .ofOption d.suggestion)]

end Diagnostic

end InfraConfig
