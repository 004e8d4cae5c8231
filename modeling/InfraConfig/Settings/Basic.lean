import InfraConfig.Decimal.Layout
import InfraConfig.Text.LowerCase
import InfraConfig.Text.Split

/-! Settings of the analysis: its bounds, how long sources are remembered, and the names that are
treated in a special way. -/
namespace InfraConfig

open Decimal (Double messageLayout)
open Text (lower occursIn)

/-- Bounds and names that the analysis observes. -/
structure Settings where
  /-- The most links in a chain of local values. -/
  maxDependencyDepth : Nat
  /-- The deepest nesting of a type constraint. -/
  maxTypeDepth : Nat
  moduleSourceTtlSeconds : Nat
  providerSourceTtlSeconds : Nat
  /-- The greatest magnitude of a coordinate of a module. -/
  positionBound : Double
  reservedLocalNames : List String
  /-- Texts whose occurrence in the name of an attribute of a provider marks it as sensitive,
  whatever the case. -/
  sensitivePatterns : List String
deriving DecidableEq, Repr

namespace Settings

/-- The settings where nothing else is said. -/
def default : Settings where
  maxDependencyDepth := 5
  maxTypeDepth := 5
  moduleSourceTtlSeconds := 3600
  providerSourceTtlSeconds := 300
  positionBound := Double.ofInt 10000
  reservedLocalNames := ["count", "each", "path", "terraform"]
  sensitivePatterns := ["password", "secret", "key", "token", "credential"]

/-- The time for which module sources are remembered, in milliseconds. -/
def moduleSourceTtl (s : Settings) : Nat := s.moduleSourceTtlSeconds * 1000

/-- The time for which provider addresses are remembered, in milliseconds. -/
def providerSourceTtl (s : Settings) : Nat := s.providerSourceTtlSeconds * 1000

/-- Whether a local value may not have a name. -/
def isReservedLocalName (s : Settings) (name : String) : Bool := s.reservedLocalNames.contains name

/-- Whether an attribute looks sensitive by its name. -/
def isSensitiveAttribute (s : Settings) (key : String) : Bool :=
  let key := lower key.toList
  s.sensitivePatterns.any fun pattern => occursIn (lower pattern.toList) key

/-- A setting that makes no sense. -/
inductive InvalidSetting where
  | maxDependencyDepth
  | maxTypeDepth
  | positionBound (bound : Double)
deriving DecidableEq, Repr

namespace InvalidSetting

/-- The key of the setting. -/
def key : InvalidSetting → String
  | maxDependencyDepth => "max_dependency_depth"
  | maxTypeDepth => "max_type_depth"
  | positionBound _ => "position_bound"

/-- What is wrong with the setting. -/
def reason : InvalidSetting → String
  | maxDependencyDepth | maxTypeDepth => "must be at least 1"
  | positionBound bound =>
    "expected a positive finite number, got " ++ String.ofList (messageLayout.render bound)

/-- The wording of the refusal. -/
def message (e : InvalidSetting) : String := s!"invalid setting '{e.key}': {e.reason}"

end InvalidSetting

/-- Refuses bounds that nothing could meet. -/
def validate (s : Settings) : Except InvalidSetting Settings :=
  if s.maxDependencyDepth = 0 then .error .maxDependencyDepth
  else if s.maxTypeDepth = 0 then .error .maxTypeDepth
  else if !s.positionBound.isFinite || !Double.lt Double.zero s.positionBound then
    .error (.positionBound s.positionBound)
  else .ok s

end Settings

end InfraConfig
