import InfraConfig.Block.Check

/-! Data sources: a type, whose first part names the provider, and a configuration. -/
namespace InfraConfig

/-- A data source. -/
structure DataSource where
  name : String
  type : String
  provider : String
  /-- The attributes other than the type. -/
  configuration : Keyed Value
deriving Repr

namespace DataSource

/-- A character of a type. -/
def isTypeChar (c : Char) : Bool := c.isAlphanum || c == '_'

/-- The provider that a type belongs to: the part before the first underscore, if neither that part
nor what follows the underscore is empty. -/
def providerOf? (type : String) : Option String :=
  let provider := type.toList.takeWhile (· ≠ '_')
  let rest := (type.toList.dropWhile (· ≠ '_')).drop 1
  if type.toList.all isTypeChar && provider ≠ [] && rest ≠ [] then some (String.ofList provider)
  else none

/-- Checks the declaration of a data source. -/
def check (d : Declaration) : Check (Checked DataSource) := do
  d.requireName
  let type ← d.requiredString "type"
  match providerOf? type with
  | none => throw (d.unsound (.invalidDataSourceType type))
  | some provider =>
    let configuration := d.attributes.filter fun (key, _) => key != "type"
    return ⟨⟨d.name, type, provider, configuration⟩, []⟩

/-- The value that shows a data source. -/
def toValue (s : DataSource) : Value := .object [
  ("name", .string s.name), ("type", .string s.type), ("provider", .string s.provider),
  ("configuration", .object s.configuration)]

end DataSource

end InfraConfig
