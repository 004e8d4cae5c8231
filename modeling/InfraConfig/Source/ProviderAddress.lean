import InfraConfig.Text.Blank
import InfraConfig.Text.CharClass
import InfraConfig.Text.LowerCase
import InfraConfig.Text.Split
import InfraConfig.Value.Basic

/-! Addresses of providers, `[hostname/]namespace/type`. An address is read without regard to
case and to blanks at its ends; a missing host name or namespace takes its default. -/
namespace InfraConfig

open Text (isDecimalDigit lower splitAll splitFirst? trim)

/-- The address of a provider. -/
structure ProviderAddress where
  hostname : String
  namespaceName : String
  type : String
deriving DecidableEq, Repr

/-- What is wrong with an address. -/
inductive AddressFault where
  | segmentCount
  | hostname
  | namespaceName
  | type
deriving DecidableEq, Repr

/-- The wording of a fault. -/
def AddressFault.reason : AddressFault → String
  | .segmentCount => "expected [hostname/]namespace/type"
  | .hostname => "hostname is not a valid DNS name"
  | .namespaceName => "namespace must contain only letters, digits, '_' or '-'"
  | .type => "type must contain only letters, digits, '_' or '-'"

/-- An address that is refused. -/
structure InvalidAddress where
  address : String
  fault : AddressFault
deriving DecidableEq, Repr

/-- The wording of the refusal. -/
def InvalidAddress.message (e : InvalidAddress) : String :=
  s!"invalid provider source '{e.address}': {e.fault.reason}"

namespace ProviderAddress

def defaultHostname : List Char := "registry.terraform.io".toList

def defaultNamespace : List Char := "hashicorp".toList

/-- A letter or digit of a lower case address. -/
def isAddressChar (c : Char) : Bool := c.isLower || c.isDigit

/-- A label of a host name: letters and digits with hyphens between them. -/
def isLabel (s : List Char) : Bool :=
  s.all (fun c => isAddressChar c || c == '-') && s.head?.any isAddressChar &&
    s.getLast?.any isAddressChar

/-- A host name: two labels or more with dots between them, and a port if there is a colon. -/
def isHostname (s : List Char) : Bool :=
  let (name, port) := match splitFirst? [':'] s with
    | some (name, port) => (name, !port.isEmpty && port.all isDecimalDigit)
    | none => (s, true)
  let labels := splitAll '.' name
  port && 2 ≤ labels.length && labels.all isLabel

/-- A namespace or a type: it starts with a letter or a digit. -/
def isSegment (s : List Char) : Bool :=
  s.all (fun c => isAddressChar c || c == '_' || c == '-') && s.head?.any isAddressChar

/-- The address of three segments. -/
def ofSegments (hostname space type : List Char) : Except AddressFault ProviderAddress :=
  if !isHostname hostname then .error .hostname
  else if !isSegment space then .error .namespaceName
  else if !isSegment type then .error .type
  else .ok ⟨String.ofList hostname, String.ofList space, String.ofList type⟩

/-- Reads an address. -/
def ofChars (s : List Char) : Except AddressFault ProviderAddress :=
  match splitAll '/' (lower (trim s)) with
  | [type] => ofSegments defaultHostname defaultNamespace type
  | [space, type] => ofSegments defaultHostname space type
  | [hostname, space, type] => ofSegments hostname space type
  | _ => .error .segmentCount

/-- Reads an address. -/
def parse (address : String) : Except InvalidAddress ProviderAddress :=
  match ofChars address.toList with
  | .ok source => .ok source
  | .error fault => .error ⟨address, fault⟩

/-- The written form of an address, complete. -/
def text (a : ProviderAddress) : String := s!"{a.hostname}/{a.namespaceName}/{a.type}"

/-- The value that shows an address. -/
def toValue (a : ProviderAddress) : Value := .object [
  ("hostname", .string a.hostname), ("namespace", .string a.namespaceName),
  ("type", .string a.type)]

end ProviderAddress

end InfraConfig
