import InfraConfig.Source.Resolver

/-! What sources are answered with while no time passes. The answer for a text is the live value of
the cache, whatever it is, and otherwise what is read from the text. Resolving one text changes the
answer for none (`ModuleSources.answer_resolve`, `ProviderSources.answer_resolve`). -/
namespace InfraConfig

namespace ModuleSources

/-- The classification that a source has at a time. -/
def answer (s : ModuleSources) (now : Nat) (source : String) : ModuleSource :=
  (s.cache.live? now source).getD (ModuleSource.classify source)

theorem value_resolve_fst (s : ModuleSources) (now : Nat) (source : String) :
    (s.resolve now source).value.1 = s.answer now source :=
  s.cache.value_getOrInsert_fst now source fun _ => ModuleSource.classify source

theorem answer_resolve (s : ModuleSources) (now : Nat) (source other : String) :
    (s.resolve now source).value.2.answer now other = s.answer now other := by
  have hcache : (s.resolve now source).value.2.cache =
      (s.cache.getOrInsert now source fun _ => ModuleSource.classify source).value.2.2 := rfl
  rw [answer, answer, hcache, Cache.value_getOrInsert]
  cases hlive : s.cache.live? now source with
  | some classified => rfl
  | none =>
    show (((s.cache.sweep now).write now source _).live? now other).getD _ = _
    rw [Cache.live?_write, Cache.live?_sweep _ (Nat.le_refl now)]
    split
    · next heq =>
      subst heq
      rw [hlive]
      split <;> rfl
    · rfl

end ModuleSources

namespace ProviderSources

/-- The address that a text stands for at a time. -/
def answer (s : ProviderSources) (now : Nat) (address : String) :
    Except InvalidAddress ProviderAddress :=
  ((s.cache.live? now address).map .ok).getD (ProviderAddress.parse address)

/-- What resolving a text comes to: an address that is not live is read, and kept if it can be. -/
theorem value_resolve (s : ProviderSources) (now : Nat) (address : String) :
    (s.resolve now address).value =
      let looked := (s.cache.get now address).value.2
      match s.cache.live? now address, ProviderAddress.parse address with
      | some source, _ => (.ok source, ⟨looked, s.parses⟩)
      | none, .error e => (.error e, ⟨looked, s.parses + 1⟩)
      | none, .ok source =>
        (.ok source, ⟨(looked.sweep now).write now address source, s.parses + 1⟩) := by
  rw [← Cache.value_get_fst, resolve, Traced.value_bind]
  obtain ⟨found, looked⟩ := (s.cache.get now address).value
  cases found with
  | some source => rfl
  | none =>
    cases ProviderAddress.parse address with
    | error e => rfl
    | ok source => simp [Cache.value_insert]

theorem value_resolve_fst (s : ProviderSources) (now : Nat) (address : String) :
    (s.resolve now address).value.1 = s.answer now address := by
  rw [value_resolve, answer]
  cases s.cache.live? now address with
  | some source => rfl
  | none => cases ProviderAddress.parse address <;> rfl

theorem answer_resolve (s : ProviderSources) (now : Nat) (address other : String) :
    (s.resolve now address).value.2.answer now other = s.answer now other := by
  rw [value_resolve, answer, answer]
  cases hlive : s.cache.live? now address with
  | some source => simp only [Cache.live?_get _ (Nat.le_refl now)]
  | none =>
    cases hparse : ProviderAddress.parse address with
    | error e => simp only [Cache.live?_get _ (Nat.le_refl now)]
    | ok source =>
      simp only [Cache.live?_write, Cache.live?_sweep _ (Nat.le_refl now),
        Cache.live?_get _ (Nat.le_refl now)]
      split
      · next heq =>
        subst heq
        rw [hlive, hparse]
        split <;> rfl
      · rfl

end ProviderSources

end InfraConfig
