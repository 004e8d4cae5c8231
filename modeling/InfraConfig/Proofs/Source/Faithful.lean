import InfraConfig.Proofs.Source.Answers

/-! Caches that hold nothing but what can be read from their keys. Sources that are resolved one
after the other, at whatever times, are remembered faithfully (`ModuleSources.faithful_resolve`,
`ProviderSources.faithful_resolve`), and then a cache does not show in the answers: a source is
answered with what is read from its text (`ModuleSources.Faithful.answer`,
`ProviderSources.Faithful.answer`). -/
namespace InfraConfig

namespace Cache

variable {α : Type} {P : String → α → Prop} {c : Cache α}

/-- Every value that is stored, live or not, is right for its key. -/
def Holds (P : String → α → Prop) (c : Cache α) : Prop :=
  ∀ key entry, c.entries.lookup key = some entry → P key entry.value

theorem holds_empty (ttl : Nat) (noted : Bool) : (empty ttl noted : Cache α).Holds P := by
  intro key entry h
  cases h

namespace Holds

theorem of_live? (h : c.Holds P) {now : Nat} {key : String} {value : α}
    (hlive : c.live? now key = some value) : P key value := by
  obtain ⟨entry, hentry, rfl⟩ := Option.map_eq_some_iff.1 hlive
  exact h key entry (Option.filter_eq_some_iff.1 hentry).1

theorem sweep (h : c.Holds P) (now : Nat) : (c.sweep now).Holds P := by
  intro key entry hentry
  have hfilter : (c.sweep now).entries.lookup key = (c.entries.lookup key).filter (c.isLive now) :=
    Keyed.lookup_filter (fun entry => c.isLive now entry.2) c.nodup key
  rw [hfilter] at hentry
  exact h key entry (Option.filter_eq_some_iff.1 hentry).1

theorem drop (h : c.Holds P) (dropped : String) : (c.drop dropped).Holds P := by
  intro key entry hentry
  have hfilter : (c.drop dropped).entries.lookup key =
      (c.entries.lookup key).filter fun _ => decide (key ≠ dropped) :=
    Keyed.lookup_filter (fun entry => decide (entry.1 ≠ dropped)) c.nodup key
  rw [hfilter] at hentry
  exact h key entry (Option.filter_eq_some_iff.1 hentry).1

theorem write (h : c.Holds P) (now : Nat) {key : String} {value : α} (hvalue : P key value) :
    (c.write now key value).Holds P := by
  intro other entry hentry
  change (Keyed.insert c.entries key ⟨value, now⟩).lookup other = some entry at hentry
  by_cases heq : other = key
  · rw [heq, Keyed.lookup_insert_self] at hentry
    cases hentry
    rw [heq]
    exact hvalue
  · rw [Keyed.lookup_insert_of_ne _ _ heq] at hentry
    exact h other entry hentry

theorem get (h : c.Holds P) (now : Nat) (key : String) : (c.get now key).value.2.Holds P := by
  rcases c.value_get_snd now key with hsame | ⟨-, hdrop⟩
  · rw [hsame]
    exact h
  · rw [hdrop]
    exact h.drop key

end Holds

end Cache

namespace ModuleSources

/-- What is remembered of a source is its classification. -/
def Faithful (s : ModuleSources) : Prop :=
  s.cache.Holds fun source classified => classified = ModuleSource.classify source

variable {s : ModuleSources}

theorem faithful_empty (ttl : Nat) (noted : Bool) : (empty ttl noted).Faithful :=
  Cache.holds_empty ttl noted

theorem Faithful.answer (h : s.Faithful) (now : Nat) (source : String) :
    s.answer now source = ModuleSource.classify source := by
  rw [ModuleSources.answer]
  cases hlive : s.cache.live? now source with
  | none => rfl
  | some classified => exact h.of_live? hlive

theorem faithful_resolve (h : s.Faithful) (now : Nat) (source : String) :
    (s.resolve now source).value.2.Faithful := by
  show (s.cache.getOrInsert now source fun _ => ModuleSource.classify source).value.2.2.Holds _
  rw [Cache.value_getOrInsert]
  cases s.cache.live? now source with
  | some classified => exact h
  | none => exact (h.sweep now).write now rfl

end ModuleSources

namespace ProviderSources

/-- What is remembered of an address is what is read from it. -/
def Faithful (s : ProviderSources) : Prop :=
  s.cache.Holds fun address source => ProviderAddress.parse address = .ok source

variable {s : ProviderSources}

theorem faithful_empty (ttl : Nat) (noted : Bool) : (empty ttl noted).Faithful :=
  Cache.holds_empty ttl noted

theorem Faithful.answer (h : s.Faithful) (now : Nat) (address : String) :
    s.answer now address = ProviderAddress.parse address := by
  rw [ProviderSources.answer]
  cases hlive : s.cache.live? now address with
  | none => rfl
  | some source => exact (h.of_live? hlive).symm

theorem faithful_resolve (h : s.Faithful) (now : Nat) (address : String) :
    (s.resolve now address).value.2.Faithful := by
  have hlooked : (s.cache.get now address).value.2.Holds _ := Cache.Holds.get h now address
  rw [value_resolve]
  cases s.cache.live? now address with
  | some source => exact hlooked
  | none =>
    cases hparse : ProviderAddress.parse address with
    | error e => exact hlooked
    | ok source => exact (hlooked.sweep now).write now hparse

end ProviderSources

end InfraConfig
