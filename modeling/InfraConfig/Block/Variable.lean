import InfraConfig.Block.Check
import InfraConfig.Document.Expression
import InfraConfig.Settings.Basic
import InfraConfig.Template.Basic
import InfraConfig.TypeConstraint.Check
import InfraConfig.TypeConstraint.Reader

/-! Input variables: a type constraint, a default value that meets it, and rules that values have
to satisfy. The condition of a rule is written as it is or as one interpolation, and has to be an
expression. -/
namespace InfraConfig

open Text (trim)

/-- A rule for the values of a variable. -/
structure ValidationRule where
  condition : String
  errorMessage : String
deriving DecidableEq, Repr

/-- An input variable. -/
structure InputVariable where
  name : String
  type : TypeConstraint
  defaultValue : Option Value
  description : Option String
  rules : List ValidationRule
  isSensitive : Bool
deriving Repr

namespace ValidationRule

/-- The expression of a condition, without an interpolation around it. -/
def expression (condition : String) : List Char :=
  let bare := trim condition.toList
  match Template.whole? bare with
  | some inner => trim inner
  | none => bare

/-- The condition of a rule as it is written; a truth value is a condition, too. -/
def condition? (rule : Value) : Option String :=
  match rule.member? "condition" with
  | some (.string s) => some s
  | some (.bool b) => some (toString b)
  | _ => none

/-- Reads a rule of a variable. -/
def read (d : Declaration) (index : Nat) (rule : Value) :
    Except AnalysisError ValidationRule :=
  match condition? rule with
  | none => .error (d.misshapen (.missingCondition index))
  | some condition =>
    match (rule.member? "error_message").bind Value.string? with
    | none => .error (d.misshapen (.missingErrorMessage index))
    | some errorMessage =>
      if Document.isExpression (expression condition) then .ok ⟨condition, errorMessage⟩
      else .error (d.unsound (.invalidCondition index condition))

/-- Reads rules from an index on. -/
def readAll (d : Declaration) : (index : Nat) → List Value →
    Except AnalysisError (List ValidationRule)
  | _, [] => .ok []
  | index, rule :: rest => do
    let first ← read d index rule
    return first :: (← readAll d (index + 1) rest)

/-- The rules of a variable, which may be written as one block or as a list. -/
def ofDeclaration (d : Declaration) : Except AnalysisError (List ValidationRule) :=
  match d.presentAttribute? "validation" with
  | none => .ok []
  | some (.list rules) => readAll d 0 rules
  | some (.object members) => readAll d 0 [.object members]
  | some _ => .error (d.misshapen .validationNotBlocks)

/-- The value that shows a rule. -/
def toValue (rule : ValidationRule) : Value :=
  .object [("condition", .string rule.condition), ("errorMessage", .string rule.errorMessage)]

end ValidationRule

namespace InputVariable

/-- The type constraint of a variable; without one, any value is accepted. -/
def readType (settings : Settings) (d : Declaration) : Except AnalysisError TypeConstraint :=
  match TypeConstraint.ofValue settings.maxTypeDepth ((d.attribute? "type").getD .null) with
  | .ok type => .ok type
  | .error e => .error (d.unsound (.typeTooDeep e))

/-- The default value of a variable, which has to meet its type. -/
def readDefault (d : Declaration) (type : TypeConstraint) :
    Except AnalysisError (Option Value) :=
  match d.presentAttribute? "default" with
  | none => .ok none
  | some value =>
    match type.check value with
    | .ok () => .ok (some value)
    | .error mismatch => .error (d.unsound (.typeMismatch type mismatch))

/-- Checks the declaration of a variable. -/
def check (settings : Settings) (d : Declaration) : Check (Checked InputVariable) := do
  d.requireIdentifier
  let type ← readType settings d
  let defaultValue ← readDefault d type
  let rules ← ValidationRule.ofDeclaration d
  Check.note s!"variable '{d.name}' typed as {type.text}" []
  let description ← d.optionalString "description"
  let isSensitive ← d.flag "sensitive"
  return ⟨⟨d.name, type, defaultValue, description, rules, isSensitive⟩, []⟩

/-- The value that shows a variable. -/
def toValue (v : InputVariable) : Value := .object [
  ("name", .string v.name), ("type", v.type.objectForm),
  ("default", v.defaultValue.getD .null), ("description", .ofOption v.description),
  ("validationRules", .list (v.rules.map ValidationRule.toValue)),
  ("sensitive", .bool v.isSensitive)]

end InputVariable

end InfraConfig
