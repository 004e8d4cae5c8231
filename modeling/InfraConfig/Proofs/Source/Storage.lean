import InfraConfig.Proofs.Source.History

/-! What a cache stores. An action either writes one key after a sweep, or leaves some of the entries
as they were (`TimedCache.step_cases`). So all that is stored was written within less than `ttl`,
unless it is a single entry, and right after a write everything else is live
(`TimedCache.oneWindow_after`). A cache that computes a value on a miss stores the same as one that is
asked first and written after a miss (`Cache.getOrInsert_agrees`). -/
namespace InfraConfig

variable {α : Type}

/-! ### One window of writes -/

namespace TimedCache

/-- The key that an action writes. A value that is found is not written again. -/
def written? (s : TimedCache α) : CacheAction α → Option String
  | .insert key _ => some key
  | .getOrInsert key compute =>
    if (s.cache.getOrInsert s.now key compute).value.2.1 then some key else none
  | _ => none

/-- The cache after a sweep and a write. -/
def write (s : TimedCache α) (key : String) (value : α) : TimedCache α :=
  { s with cache := (s.cache.sweep s.now).write s.now key value }

/-- An action writes a key after a sweep, or it writes nothing and stores nothing new. -/
theorem step_cases (s : TimedCache α) (action : CacheAction α) :
    (∃ key value, s.written? action = some key ∧ s.step action = s.write key value) ∨
      s.written? action = none ∧ (s.step action).cache.ttl = s.cache.ttl ∧
        (s.step action).cache.entries.Sublist s.cache.entries ∧ s.now ≤ (s.step action).now := by
  cases action with
  | insert key value =>
    refine .inl ⟨key, value, rfl, ?_⟩
    rw [step, Cache.value_insert]
    rfl
  | get key =>
    refine .inr ⟨rfl, s.cache.ttl_get s.now key, ?_, Nat.le_refl _⟩
    show (s.cache.get s.now key).value.2.entries.Sublist s.cache.entries
    rcases s.cache.value_get_snd s.now key with hsame | ⟨-, hdrop⟩
    · exact hsame.symm ▸ List.Sublist.refl s.cache.entries
    · rw [hdrop]
      exact List.filter_sublist
  | getOrInsert key compute =>
    rw [written?, step, Cache.value_getOrInsert]
    cases s.cache.live? s.now key with
    | some value => exact .inr ⟨rfl, rfl, List.Sublist.refl _, Nat.le_refl _⟩
    | none => exact .inl ⟨key, compute (), rfl, rfl⟩
  | advance duration => exact .inr ⟨rfl, rfl, List.Sublist.refl _, Nat.le_add_right _ _⟩
  | evictExpired =>
    rw [step, Cache.value_evictExpired]
    exact .inr ⟨rfl, rfl, List.filter_sublist, Nat.le_refl _⟩
  | clear => exact .inr ⟨rfl, rfl, List.nil_sublist _, Nat.le_refl _⟩

/-- What is stored after a write: the new entry, and what was live of the others. -/
theorem mem_write {s : TimedCache α} {key : String} {value : α} {entry : String × Stamped α} :
    entry ∈ (s.write key value).cache.entries ↔
      entry = (key, ⟨value, s.now⟩) ∨
        (entry ∈ s.cache.entries ∧ s.now - entry.2.writtenAt < s.cache.ttl) ∧ entry.1 ≠ key := by
  rw [← Cache.mem_sweep]
  exact Keyed.mem_insert (s.cache.sweep s.now).nodup

/-- No entry is newer than the time, and of several entries any two were written within less than
`ttl`. -/
structure Bounded (ttl : Nat) (s : TimedCache α) : Prop where
  ttl_eq : s.cache.ttl = ttl
  past : ∀ entry ∈ s.cache.entries, entry.2.writtenAt ≤ s.now
  window : s.cache.size ≤ 1 ∨ ∀ e ∈ s.cache.entries, ∀ f ∈ s.cache.entries,
    e.2.writtenAt < f.2.writtenAt + ttl

namespace Bounded

variable {ttl : Nat} {s : TimedCache α}

/-- A write keeps the bound: whatever else is stored after it is live. -/
theorem write (h : Bounded ttl s) (key : String) (value : α) : Bounded ttl (s.write key value) := by
  have hstored : ∀ entry ∈ (s.write key value).cache.entries,
      entry.2.writtenAt ≤ s.now ∧
        (entry.2.writtenAt = s.now ∨ s.now < entry.2.writtenAt + ttl) := by
    intro entry hentry
    rcases mem_write.1 hentry with rfl | ⟨⟨hold, hlive⟩, -⟩
    · exact ⟨Nat.le_refl _, .inl rfl⟩
    · rw [h.ttl_eq] at hlive
      exact ⟨h.past entry hold, .inr (by omega)⟩
  refine ⟨h.ttl_eq, fun entry hentry => (hstored entry hentry).1, ?_⟩
  by_cases hpos : 0 < ttl
  · right
    intro e he f hf
    have hearly := hstored e he
    have hlate := hstored f hf
    omega
  · -- Where no time is left to live, the sweep leaves nothing.
    left
    have hempty : s.cache.liveEntries s.now = [] := by
      rw [Cache.liveEntries, List.filter_eq_nil_iff]
      intro entry _ hlive
      rw [Cache.isLive, decide_eq_true_eq, h.ttl_eq] at hlive
      omega
    show (Keyed.insert (s.cache.liveEntries s.now) key ⟨value, s.now⟩).length ≤ 1
    rw [hempty]
    exact Nat.le_refl 1

theorem step (h : Bounded ttl s) (action : CacheAction α) : Bounded ttl (s.step action) := by
  rcases s.step_cases action with ⟨key, value, -, hwrite⟩ | ⟨-, httl, hsub, hnow⟩
  · rw [hwrite]
    exact h.write key value
  · refine ⟨httl.trans h.ttl_eq, fun entry hentry => ?_, ?_⟩
    · exact Nat.le_trans (h.past entry (hsub.subset hentry)) hnow
    · rcases h.window with hfew | hwithin
      · exact .inl (Nat.le_trans hsub.length_le hfew)
      · exact .inr fun e he f hf => hwithin e (hsub.subset he) f (hsub.subset hf)

theorem after (ttl : Nat) (noted : Bool) (actions : List (CacheAction α)) :
    Bounded ttl (TimedCache.after ttl noted actions) := by
  suffices h : ∀ s : TimedCache α, Bounded ttl s → Bounded ttl (actions.foldl TimedCache.step s) from
    h _ ⟨rfl, (fun _ hentry => by cases hentry), .inl (Nat.zero_le 1)⟩
  induction actions with
  | nil => exact fun _ h => h
  | cons action rest ih => exact fun s h => ih _ (h.step action)

end Bounded

/-- What a cache stores is bounded by its `ttl`. -/
structure OneWindow (ttl : Nat) (s : TimedCache α) : Prop where
  /-- Unless at most one entry is stored, any two were written within less than `ttl`. -/
  window : s.cache.size ≤ 1 ∨ ∀ e ∈ s.cache.entries, ∀ f ∈ s.cache.entries,
    e.2.writtenAt < f.2.writtenAt + ttl
  /-- Right after a write its key is stored as of now, and every other entry is live. -/
  written : ∀ action key, s.written? action = some key →
    (∃ value, (key, ⟨value, s.now⟩) ∈ (s.step action).cache.entries) ∧
      ∀ entry ∈ (s.step action).cache.entries, entry.1 ≠ key →
        (s.step action).cache.isLive (s.step action).now entry.2 = true

/-- Whatever is done with a cache, it holds no more than one window of writes. -/
theorem oneWindow_after (ttl : Nat) (noted : Bool) (actions : List (CacheAction α)) :
    OneWindow ttl (after ttl noted actions) := by
  have hbounded := Bounded.after ttl noted actions
  generalize after ttl noted actions = s at hbounded ⊢
  refine ⟨hbounded.window, fun action key hkey => ?_⟩
  rcases s.step_cases action with ⟨written, value, hwritten, hwrite⟩ | ⟨hnone, -⟩
  · obtain rfl : key = written := Option.some.inj (hkey.symm.trans hwritten)
    rw [hwrite]
    refine ⟨⟨value, mem_write.2 (.inl rfl)⟩, fun entry hentry hother => ?_⟩
    rcases mem_write.1 hentry with rfl | ⟨⟨-, hlive⟩, -⟩
    · exact absurd rfl hother
    · exact decide_eq_true hlive
  · rw [hnone] at hkey
    cases hkey

/-- The first entry is no longer live when the second is written, at the very end of its window. -/
example : (after 10 false [.insert "a" 1, .advance 10, .getOrInsert "b" fun _ => 2]).cache.entries =
    [("b", ⟨2, 10⟩)] := by
  rfl

end TimedCache

/-! ### A miss with a write after it -/

namespace Cache

/-- A key is asked for, and written after a miss. -/
def getThenInsert (c : Cache α) (now : Nat) (key : String) (value : α) : Traced (α × Cache α) := do
  match ← c.get now key with
  | (some found, looked) => return (found, looked)
  | (none, looked) => return (value, ← looked.insert now key value)

/-- A sweep leaves the same if a key was dropped before it that was not live. -/
theorem sweep_drop {c : Cache α} {now : Nat} {key : String} (h : c.live? now key = none) :
    (c.drop key).sweep now = c.sweep now := by
  have hkept : ∀ entry ∈ c.entries, c.isLive now entry.2 = true → entry.1 ≠ key := by
    rintro ⟨k, entry⟩ hmem hlive rfl
    rw [live?, Keyed.lookup_of_mem c.nodup hmem, Option.filter_some, if_pos hlive] at h
    cases h
  have hentries : (c.drop key).liveEntries now = c.liveEntries now := by
    show (Keyed.erase c.entries key).filter (fun entry => c.isLive now entry.2) =
      c.entries.filter fun entry => c.isLive now entry.2
    rw [Keyed.erase, List.filter_filter]
    refine List.filter_congr fun entry hentry => ?_
    cases hlive : c.isLive now entry.2 with
    | false => rfl
    | true => simp [hkept entry hentry hlive]
  simp only [sweep, hentries]
  rfl

/-- After a miss nothing else is left by a sweep than without it. -/
theorem sweep_get {c : Cache α} {now : Nat} {key : String} (h : c.live? now key = none) :
    (c.get now key).value.2.sweep now = c.sweep now := by
  rcases c.value_get_snd now key with hsame | ⟨-, hdrop⟩
  · rw [hsame]
  · rw [hdrop, sweep_drop h]

theorem value_get_of_live {c : Cache α} {now : Nat} {key : String} {found : α}
    (h : c.live? now key = some found) : (c.get now key).value = (some found, c) := by
  refine Prod.ext ((c.value_get_fst now key).trans h) ?_
  rcases c.value_get_snd now key with hsame | ⟨hnone, -⟩
  · exact hsame
  · rw [h] at hnone
    cases hnone

theorem value_getThenInsert (c : Cache α) (now : Nat) (key : String) (value : α) :
    (c.getThenInsert now key value).value =
      match c.live? now key with
      | some found => (found, c)
      | none => (value, (c.sweep now).write now key value) := by
  rw [getThenInsert, Traced.value_bind]
  cases hlive : c.live? now key with
  | some found =>
    rw [value_get_of_live hlive]
    rfl
  | none =>
    have hget : (c.get now key).value = (none, (c.get now key).value.2) :=
      Prod.ext ((c.value_get_fst now key).trans hlive) rfl
    rw [hget]
    show (value, ((c.get now key).value.2.insert now key value).value) = _
    rw [value_insert, sweep_get hlive]

/-- A value is computed exactly on a miss, and however a key comes to be written, what is answered
and what is stored are the same. -/
theorem getOrInsert_agrees (c : Cache α) (now : Nat) (key : String) (value : α) :
    (c.getOrInsert now key fun _ => value).value =
      ((c.getThenInsert now key value).value.1, (c.get now key).value.1.isNone,
        (c.getThenInsert now key value).value.2) := by
  rw [value_getOrInsert, value_getThenInsert, value_get_fst]
  cases c.live? now key <;> rfl

end Cache

end InfraConfig
