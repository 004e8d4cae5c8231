import InfraConfig.Source.Cache
import InfraConfig.Source.ModuleSource
import InfraConfig.Source.ProviderAddress

/-! Sources read through caches. Each reader counts how often it had to work: a module source is
classified once for each time its cache entry is written; an address is read as often as it is not
found, and only an address that can be read is kept. -/
namespace InfraConfig

/-- Module sources, remembered by their text. -/
structure ModuleSources where
  cache : Cache ModuleSource
  /-- How often a source was classified. -/
  classifications : Nat

namespace ModuleSources

/-- No sources remembered. -/
def empty (ttl : Nat) (noted : Bool) : ModuleSources := ⟨.empty ttl noted, 0⟩

/-- The classification of a source. -/
def resolve (s : ModuleSources) (now : Nat) (source : String) :
    Traced (ModuleSource × ModuleSources) := do
  let (classified, isNew, cache) ←
    s.cache.getOrInsert now source fun _ => ModuleSource.classify source
  return (classified, ⟨cache, if isNew then s.classifications + 1 else s.classifications⟩)

end ModuleSources

/-- Provider addresses, remembered by their text. -/
structure ProviderSources where
  cache : Cache ProviderAddress
  /-- How often an address was read. -/
  parses : Nat

namespace ProviderSources

/-- No addresses remembered. -/
def empty (ttl : Nat) (noted : Bool) : ProviderSources := ⟨.empty ttl noted, 0⟩

/-- The address that a text stands for. -/
def resolve (s : ProviderSources) (now : Nat) (address : String) :
    Traced (Except InvalidAddress ProviderAddress × ProviderSources) := do
  match ← s.cache.get now address with
  | (some source, cache) => return (.ok source, ⟨cache, s.parses⟩)
  | (none, cache) =>
    match ProviderAddress.parse address with
    | .error e => return (.error e, ⟨cache, s.parses + 1⟩)
    | .ok source =>
      let cache ← cache.insert now address source
      return (.ok source, ⟨cache, s.parses + 1⟩)

end ProviderSources

end InfraConfig
