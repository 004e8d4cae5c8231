import InfraConfig.Text.CharClass
import InfraConfig.Text.Split
import InfraConfig.Value.Basic

/-! Sources of modules. A source is a path with an optional version after the first `?ref=`. The
kind of a source is read off its path alone; a path of three words with slashes between them counts
as an address in a registry. -/
namespace InfraConfig

open Text (isWord splitFirst? splitAll)

/-- Where the modules of a source come from. -/
inductive SourceKind where
  | localPath
  | git
  | http
  | registry
deriving DecidableEq, Repr

/-- The name of a kind of source. -/
def SourceKind.name : SourceKind → String
  | .localPath => "local"
  | .git => "git"
  | .http => "http"
  | .registry => "registry"

/-- A source of a module, classified. -/
structure ModuleSource where
  path : String
  version : Option String
  kind : SourceKind
deriving DecidableEq, Repr

namespace ModuleSource

/-- What stands between a path and a version. -/
def versionMark : List Char := "?ref=".toList

/-- A word of a registry address. -/
def isRegistryWord (s : List Char) : Bool := !s.isEmpty && s.all fun c => isWord c || c == '-'

/-- Whether a path has the shape of a registry address. -/
def isRegistryPath (path : List Char) : Bool :=
  let parts := splitAll '/' path
  parts.length == 3 && parts.all isRegistryWord

/-- The kind of a path. -/
def kindOf (path : List Char) : SourceKind :=
  if "git::".toList.isPrefixOf path then .git
  else if "http://".toList.isPrefixOf path || "https://".toList.isPrefixOf path then .http
  else if isRegistryPath path then .registry
  else .localPath

/-- A source taken apart and classified. An empty version counts as none. -/
def classifyChars (source : List Char) : ModuleSource :=
  match splitFirst? versionMark source with
  | none => ⟨String.ofList source, none, kindOf source⟩
  | some (path, version) =>
    ⟨String.ofList path, if version = [] then none else some (String.ofList version), kindOf path⟩

/-- A source taken apart and classified. -/
def classify (source : String) : ModuleSource := classifyChars source.toList

/-- The value that shows a source. -/
def toValue (s : ModuleSource) : Value := .object [
  ("path", .string s.path), ("version", .ofOption s.version), ("kind", .string s.kind.name)]

end ModuleSource

end InfraConfig
