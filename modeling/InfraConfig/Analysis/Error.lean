import InfraConfig.Analysis.Rule
import InfraConfig.Decimal.Layout
import InfraConfig.Declaration
import InfraConfig.Source.ProviderAddress
import InfraConfig.TypeConstraint.Check
import InfraConfig.TypeConstraint.Reader

/-! Errors of the analysis. An error is a cause: a fault in the shape of a block, a fault in its
content, a cycle of local values or a reference to a local value that is not declared. The rule,
the wording and the place of an error are read off its cause. -/
namespace InfraConfig

open Decimal (Double messageLayout)

/-- What is wrong with the shape of a block. -/
inductive ShapeFault where
  | missingName
  | invalidIdentifier
  | reservedName
  | missingAttribute (key : String)
  | emptyAttribute (key : String)
  | attributeNotString (key found : String)
  | attributeNotBool (key found : String)
  | validationNotBlocks
  | missingCondition (index : Nat)
  | missingErrorMessage (index : Nat)
  | missingExpression
  | wrongKind (expected : BlockKind)
  | duplicateBlock
  | duplicateLocal
  /-- A finding under a rule in the words of whoever reports it. -/
  | stated (rule : Rule) (message : String)
deriving DecidableEq, Repr

namespace ShapeFault

/-- The rule that is broken. -/
def rule : ShapeFault → Rule
  | missingName => .missingName
  | invalidIdentifier => .invalidIdentifier
  | reservedName => .reservedName
  | missingAttribute _ | emptyAttribute _ | missingCondition _ | missingErrorMessage _
  | missingExpression => .missingAttribute
  | attributeNotString _ _ | attributeNotBool _ _ | validationNotBlocks | wrongKind _ =>
    .invalidAttribute
  | duplicateBlock | duplicateLocal => .duplicateBlock
  | stated rule _ => rule

/-- The wording of a fault of a block. -/
def message (kind : BlockKind) (name : String) : ShapeFault → String
  | missingName => s!"{kind.name} blocks require a name"
  | invalidIdentifier => s!"'{name}' is not a valid identifier"
  | reservedName => s!"'{name}' is a reserved identifier"
  | missingAttribute key => s!"attribute '{key}' is required"
  | emptyAttribute key => s!"attribute '{key}' cannot be empty"
  | attributeNotString key found => s!"attribute '{key}' must be a string, found {found}"
  | attributeNotBool key found => s!"attribute '{key}' must be a bool, found {found}"
  | validationNotBlocks => "validation must be a block or a list of blocks"
  | missingCondition index => s!"validation rule {index} requires a condition"
  | missingErrorMessage index => s!"validation rule {index} requires an error_message"
  | missingExpression => "local values require an expression"
  | wrongKind expected => s!"expected a {expected.name} block"
  | duplicateBlock => s!"{kind.name} '{name}' is declared more than once"
  | duplicateLocal => s!"local value '{name}' is declared more than once"
  | stated _ message => message

end ShapeFault

/-- What is wrong with the content of a block. -/
inductive ContentFault where
  | typeTooDeep (error : TypeTooDeep)
  | typeMismatch (type : TypeConstraint) (mismatch : Mismatch)
  | invalidCondition (index : Nat) (condition : String)
  | invalidVersionConstraint (version : String)
  | invalidProviderSource (error : InvalidAddress)
  | invalidPosition
  | positionOutOfBounds (x y bound : Double)
  | invalidDataSourceType (type : String)
  /-- A chain of local values that goes on although it has more links than it may. -/
  | chainTooLong (chain : List String) (max : Nat)
  /-- A local value from which a chain starts that has more links than it may. -/
  | tooManyLinks (links max : Nat)
  /-- A finding under a rule in the words of whoever reports it. -/
  | stated (rule : Rule) (message : String) (fieldPath : Option String)
      (kinds : Option (String × String))
deriving DecidableEq, Repr

/-- Links of a chain as messages show them. -/
def arrowed (names : List String) : String := " -> ".intercalate names

/-- A number as messages show it. -/
def shownNumber (d : Double) : String := String.ofList (messageLayout.render d)

namespace ContentFault

/-- The rule that is broken. -/
def rule : ContentFault → Rule
  | typeTooDeep _ => .typeTooDeep
  | typeMismatch _ _ => .typeMismatch
  | invalidCondition _ _ => .invalidCondition
  | invalidVersionConstraint _ => .invalidVersionConstraint
  | invalidProviderSource _ => .invalidProviderSource
  | invalidPosition => .invalidPosition
  | positionOutOfBounds _ _ _ => .positionOutOfBounds
  | invalidDataSourceType _ => .invalidDataSourceType
  | chainTooLong _ _ | tooManyLinks _ _ => .dependencyTooDeep
  | stated rule _ _ _ => rule

/-- The wording of a fault of a block. -/
def message (name : String) : ContentFault → String
  | typeTooDeep e => e.message
  | typeMismatch type mismatch =>
    s!"default value does not match type {type.text}: {mismatch.message}"
  | invalidCondition _ condition => s!"condition '{condition}' is not a valid expression"
  | invalidVersionConstraint version => s!"'{version}' is not a valid version constraint"
  | invalidProviderSource e => e.message
  | invalidPosition =>
    "position must be two finite numbers, as \x7b x, y \x7d or [x, y]"
  | positionOutOfBounds x y bound =>
    let bound := shownNumber bound
    s!"position ({shownNumber x}, {shownNumber y}) lies outside [-{bound}, {bound}]"
  | invalidDataSourceType type => s!"'{type}' is not of the form provider_type"
  | chainTooLong chain max =>
    s!"dependency chain '{arrowed chain}' is deeper than the maximum of {max}"
  | tooManyLinks links max =>
    s!"local value '{name}' starts a dependency chain of {links} links, which " ++
      s!"is deeper than the maximum of {max}"
  | stated _ message _ _ => message

/-- The field that the fault is about, if it is about one. -/
def fieldPath? (name : String) : ContentFault → Option String
  | typeTooDeep _ | invalidDataSourceType _ => some "type"
  | typeMismatch _ mismatch =>
    some (if mismatch.dottedPath = "" then name else s!"{name}.{mismatch.dottedPath}")
  | invalidCondition index _ => some s!"validation.{index}.condition"
  | invalidVersionConstraint _ => some "version"
  | invalidProviderSource _ => some "source"
  | invalidPosition | positionOutOfBounds _ _ _ => some "position"
  | chainTooLong _ _ | tooManyLinks _ _ => none
  | stated _ _ fieldPath _ => fieldPath

/-- What was expected and what was found, where a value is of the wrong kind. -/
def kinds? : ContentFault → Option (String × String)
  | typeMismatch _ mismatch => some (mismatch.expected, mismatch.actual)
  | stated _ _ _ kinds => kinds
  | _ => none

end ContentFault

/-- An error of the analysis. -/
inductive AnalysisError where
  | shape (kind : BlockKind) (name : String) (fault : ShapeFault)
  | content (kind : BlockKind) (name : String) (fault : ContentFault)
  /-- A cycle of local values; its path ends with the name that closes it. -/
  | circularDependency (path : List String)
  /-- A reference to a local value that is not declared, and the local value that holds it. -/
  | unknownReference (name : String) (referencedBy : Option String)
deriving DecidableEq, Repr

namespace AnalysisError

/-- The rule that is broken. -/
def rule : AnalysisError → Rule
  | shape _ _ fault => fault.rule
  | content _ _ fault => fault.rule
  | circularDependency _ => .circularDependency
  | unknownReference _ _ => .unknownReference

/-- The block that the error is about: of a cycle the local value that closes it, of an unknown
reference the local value that holds it. -/
def block : AnalysisError → BlockKind × String
  | shape kind name _ | content kind name _ => (kind, name)
  | circularDependency path => (.localValue, path.getLast?.getD "")
  | unknownReference name referencedBy => (.localValue, referencedBy.getD name)

/-- What is wrong, without the block that it is about. -/
def detail : AnalysisError → String
  | shape kind name fault => fault.message kind name
  | content _ name fault => fault.message name
  | circularDependency path => s!"circular dependency detected: {arrowed path}"
  | unknownReference name none => s!"unknown local value '{name}'"
  | unknownReference name (some holder) =>
    s!"unknown local value '{name}' referenced by '{holder}'"

/-- The field that the error is about, if it is about one. -/
def fieldPath? : AnalysisError → Option String
  | content _ name fault => fault.fieldPath? name
  | _ => none

/-- The wording of an error, with the block and the field that it is about. -/
def message : AnalysisError → String
  | shape kind name fault => s!"{kind.name} '{name}': {fault.message kind name}"
  | content kind name fault =>
    match fault.fieldPath? name with
    | some path => s!"{kind.name} '{name}' at '{path}': {fault.message name}"
    | none => s!"{kind.name} '{name}': {fault.message name}"
  | e => e.detail

/-- The path of a cycle. -/
def cyclePath? : AnalysisError → Option String
  | circularDependency path => some (arrowed path)
  | _ => none

/-- What would mend the error, if that is known. -/
def suggestion? : AnalysisError → Option String
  | unknownReference name _ => some s!"declare 'local.{name}' in a locals block"
  | _ => none

/-- The finding that reports an error. -/
def diagnostic (e : AnalysisError) : Diagnostic where
  level := e.rule.level
  message := e.detail
  code := some e.rule.name
  block := some ⟨e.block.1.name, e.block.2⟩
  fieldPath := e.fieldPath?
  suggestion := e.suggestion?

end AnalysisError

end InfraConfig
