import InfraConfig.Block.Check
import InfraConfig.Settings.Basic
import InfraConfig.Source.ProviderAddress
import InfraConfig.Source.Version

/-! Provider configurations. A declaration is first read into a request, which names the address of
the provider; once the address is read, the configuration is completed. The keys of the
configuration that look sensitive are listed with their paths. -/
namespace InfraConfig

/-- The configuration of a provider. -/
structure ProviderConfiguration where
  name : String
  aliasName : Option String
  version : Option String
  source : ProviderAddress
  /-- The attributes that are not read otherwise. -/
  configuration : Keyed Value
  /-- The dotted paths of the attributes that look sensitive. -/
  sensitiveAttributes : List String
deriving Repr

/-- What the declaration of a provider asks for. -/
structure ProviderRequest where
  aliasName : Option String
  version : Option String
  /-- The text of the address: the name of the provider, unless there is a source. -/
  address : String
deriving DecidableEq, Repr

namespace ProviderRequest

/-- A version constraint that may be absent. -/
def readVersion (d : Declaration) : Except AnalysisError (Option String) := do
  match ← d.optionalString "version" with
  | none => return none
  | some version =>
    if Version.isConstraint version.toList then return some version
    else throw (d.unsound (.invalidVersionConstraint version))

/-- Reads the declaration of a provider. -/
def ofDeclaration (d : Declaration) : Except AnalysisError ProviderRequest := do
  d.requireName
  let aliasName ← d.optionalString "alias"
  let version ← readVersion d
  let source ← d.optionalString "source"
  return ⟨aliasName, version, source.getD d.name⟩

end ProviderRequest

namespace ProviderConfiguration

open Text (lower occursIn)

/-- The attributes that say which provider is meant. -/
def addressingKeys : List String := ["alias", "version", "source"]

/-- The patterns of sensitive keys, brought to lower case once for all keys. -/
def patternsOf (settings : Settings) : List (List Char) :=
  settings.sensitivePatterns.map fun pattern => lower pattern.toList

/-- Whether a key holds one of the patterns, which are in lower case already. -/
def looksSensitive (patterns : List (List Char)) (key : String) : Bool :=
  let key := lower key.toList
  patterns.any fun pattern => occursIn pattern key

/-- A key looks sensitive here exactly if it does to the settings. -/
theorem looksSensitive_patternsOf (settings : Settings) (key : String) :
    looksSensitive (patternsOf settings) key = settings.isSensitiveAttribute key := by
  rw [looksSensitive, patternsOf, List.any_map]
  rfl

mutual

/-- The paths of the keys below a value that look sensitive, in order, each before those below it.
`path` leads to the value; at the top it is empty. -/
def sensitivePaths (patterns : List (List Char)) (path : String) : Value → List String
  | .object members => sensitivePathsOfMembers patterns path members
  | .list items => sensitivePathsOfItems patterns path 0 items
  | .null | .bool _ | .number _ | .string _ => []

/-- The paths below the items of a list, from an index on. -/
def sensitivePathsOfItems (patterns : List (List Char)) (path : String) :
    Nat → List Value → List String
  | _, [] => []
  | index, item :: rest =>
    sensitivePaths patterns s!"{path}.{index}" item ++
      sensitivePathsOfItems patterns path (index + 1) rest

/-- The paths of the members of an object and below them. -/
def sensitivePathsOfMembers (patterns : List (List Char)) (path : String) :
    List (String × Value) → List String
  | [] => []
  | (key, value) :: rest =>
    let inner := if path = "" then key else s!"{path}.{key}"
    (if looksSensitive patterns key then [inner] else []) ++
      sensitivePaths patterns inner value ++ sensitivePathsOfMembers patterns path rest

end

/-- The attributes that are no part of the address. -/
def configurationOf (d : Declaration) : Keyed Value :=
  d.attributes.filter fun (key, _) => !addressingKeys.contains key

/-- Completes a configuration with the address that its request names. -/
def complete (settings : Settings) (d : Declaration) (request : ProviderRequest)
    (source : Except InvalidAddress ProviderAddress) : Check (Checked ProviderConfiguration) := do
  match source with
  | .error e => throw (d.unsound (.invalidProviderSource e))
  | .ok source =>
    let configuration := configurationOf d
    let sensitive := sensitivePaths (patternsOf settings) "" (.object configuration)
    if sensitive ≠ [] then
      Check.note s!"provider '{d.name}' carries sensitive attributes"
        [("attributes", ", ".intercalate sensitive)]
    return ⟨⟨d.name, request.aliasName, request.version, source, configuration, sensitive⟩, []⟩

/-- Whether an attribute looks sensitive. -/
def hasSensitiveAttributes (p : ProviderConfiguration) : Bool := !p.sensitiveAttributes.isEmpty

/-- The value that shows a configuration. -/
def toValue (p : ProviderConfiguration) : Value := .object [
  ("name", .string p.name), ("alias", .ofOption p.aliasName), ("version", .ofOption p.version),
  ("source", p.source.toValue), ("configuration", .object p.configuration),
  ("hasSensitiveAttributes", .bool p.hasSensitiveAttributes),
  ("sensitiveAttributes", .list (p.sensitiveAttributes.map .string))]

end ProviderConfiguration

end InfraConfig
