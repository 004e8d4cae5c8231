import InfraConfig.Analysis.Diagnostic

/-! The rules that configuration units are checked against. Every finding names its rule. -/
namespace InfraConfig

/-- A rule of the analysis. -/
inductive Rule where
  | missingName
  | reservedName
  | invalidIdentifier
  | missingAttribute
  | invalidAttribute
  | duplicateBlock
  | typeMismatch
  | typeTooDeep
  | invalidCondition
  | invalidVersionConstraint
  | invalidPosition
  | positionOutOfBounds
  | invalidDataSourceType
  | invalidProviderSource
  | dependencyTooDeep
  | circularDependency
  | unknownReference
  | sensitiveComposite
deriving DecidableEq, Repr

namespace Rule

/-- All rules. -/
def all : List Rule := [
  .missingName, .reservedName, .invalidIdentifier, .missingAttribute, .invalidAttribute,
  .duplicateBlock, .typeMismatch, .typeTooDeep, .invalidCondition, .invalidVersionConstraint,
  .invalidPosition, .positionOutOfBounds, .invalidDataSourceType, .invalidProviderSource,
  .dependencyTooDeep, .circularDependency, .unknownReference, .sensitiveComposite]

/-- The name of a rule. -/
def name : Rule → String
  | .missingName => "missing_name"
  | .reservedName => "reserved_name"
  | .invalidIdentifier => "invalid_identifier"
  | .missingAttribute => "missing_attribute"
  | .invalidAttribute => "invalid_attribute"
  | .duplicateBlock => "duplicate_block"
  | .typeMismatch => "type_mismatch"
  | .typeTooDeep => "type_too_deep"
  | .invalidCondition => "invalid_condition"
  | .invalidVersionConstraint => "invalid_version_constraint"
  | .invalidPosition => "invalid_position"
  | .positionOutOfBounds => "position_out_of_bounds"
  | .invalidDataSourceType => "invalid_data_source_type"
  | .invalidProviderSource => "invalid_provider_source"
  | .dependencyTooDeep => "dependency_too_deep"
  | .circularDependency => "circular_dependency"
  | .unknownReference => "unknown_reference"
  | .sensitiveComposite => "sensitive_composite"

/-- The rule with a name. -/
def ofName? (name : String) : Option Rule := all.find? (·.name == name)

/-- What a rule asks for. -/
def description : Rule → String
  | .missingName => "Blocks must be named"
  | .reservedName => "Local values cannot use reserved identifiers"
  | .invalidIdentifier =>
    "Names must start with a letter and contain only letters, digits, '_' or '-'"
  | .missingAttribute => "A required attribute is absent"
  | .invalidAttribute => "An attribute holds a value of the wrong shape"
  | .duplicateBlock => "Two blocks of the same kind share a name"
  | .typeMismatch => "A value does not conform to its declared type"
  | .typeTooDeep => "Type constraints are nested too deeply"
  | .invalidCondition => "Validation conditions must be parseable expressions"
  | .invalidVersionConstraint => "Version constraints must follow the operator/semver grammar"
  | .invalidPosition => "Positions must be two finite numbers"
  | .positionOutOfBounds => "Positions must lie within the visualization bounds"
  | .invalidDataSourceType => "Data source types must be of the form provider_type"
  | .invalidProviderSource => "Provider sources must be of the form [hostname/]namespace/type"
  | .dependencyTooDeep => "Local value dependency chains are bounded in depth"
  | .circularDependency => "Local values cannot depend on themselves"
  | .unknownReference => "Local values can only reference declared local values"
  | .sensitiveComposite => "Sensitive outputs should hold scalar values"

/-- The level of the findings under a rule: one rule only advises. -/
def level : Rule → Level
  | .sensitiveComposite => .warning
  | _ => .error

theorem ofName?_name (rule : Rule) : ofName? rule.name = some rule := by
  cases rule <;> decide

theorem level_eq_warning_iff (rule : Rule) :
    rule.level = .warning ↔ rule = .sensitiveComposite := by
  cases rule <;> simp [level]

end Rule

end InfraConfig
