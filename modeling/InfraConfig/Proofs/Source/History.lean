import InfraConfig.Source.Cache

/-! Caches against the history of their writes. A history keeps every write since the cache was
cleared last, and drops none: what it tells of a key is the latest write, if less than `ttl` has
passed since. A cache drops entries at look-ups, at writes and on demand, and tells the same
(`Recalls`): a look-up answers as the history does, a value is computed exactly when the history
tells none, and what is evicted are the entries whose time has passed (`tells_after`). -/
namespace InfraConfig

variable {α : Type}

/-- What is done with a cache. -/
inductive CacheAction (α : Type) where
  | insert (key : String) (value : α)
  | get (key : String)
  | getOrInsert (key : String) (compute : Unit → α)
  /-- Lets time go on, in milliseconds. -/
  | advance (duration : Nat)
  | evictExpired
  | clear

/-- A cache at a time. -/
structure TimedCache (α : Type) where
  cache : Cache α
  now : Nat

namespace TimedCache

/-- The cache after an action. -/
def step (s : TimedCache α) : CacheAction α → TimedCache α
  | .insert key value => { s with cache := (s.cache.insert s.now key value).value }
  | .get key => { s with cache := (s.cache.get s.now key).value.2 }
  | .getOrInsert key compute =>
    { s with cache := (s.cache.getOrInsert s.now key compute).value.2.2 }
  | .advance duration => { s with now := s.now + duration }
  | .evictExpired => { s with cache := (s.cache.evictExpired s.now).value.2 }
  | .clear => { s with cache := s.cache.clear }

/-- The cache after actions that begin with an empty one. -/
def after (ttl : Nat) (noted : Bool) (actions : List (CacheAction α)) : TimedCache α :=
  actions.foldl step ⟨.empty ttl noted, 0⟩

end TimedCache

/-- What was written since the last clearing, the latest first, and the time. -/
structure History (α : Type) where
  ttl : Nat
  now : Nat
  writes : List (String × Stamped α)

namespace History

/-- The value that a key was written with last, if less than `ttl` has passed since at a time. -/
def read? (h : History α) (time : Nat) (key : String) : Option α :=
  ((h.writes.lookup key).filter fun entry => time < entry.writtenAt + h.ttl).map Stamped.value

/-- The history with a write. -/
def write (h : History α) (key : String) (value : α) : History α :=
  { h with writes := (key, ⟨value, h.now⟩) :: h.writes }

/-- The history after an action. A value that is computed is written; one that is found is not. -/
def step (h : History α) : CacheAction α → History α
  | .insert key value => h.write key value
  | .get _ => h
  | .getOrInsert key compute =>
    if (h.read? h.now key).isSome then h else h.write key (compute ())
  | .advance duration => { h with now := h.now + duration }
  | .evictExpired => h
  | .clear => { h with writes := [] }

/-- The history of actions. -/
def after (ttl : Nat) (actions : List (CacheAction α)) : History α :=
  actions.foldl step ⟨ttl, 0, []⟩

theorem read?_write (h : History α) (time : Nat) (key : String) (value : α) (other : String) :
    (h.write key value).read? time other =
      if other = key then if time < h.now + h.ttl then some value else none
      else h.read? time other := by
  simp only [read?, write, Keyed.lookup_cons_eq]
  split
  · rw [Option.filter_some]
    by_cases hlive : time < h.now + h.ttl <;> simp [hlive]
  · rfl

end History

/-- From now on a cache tells what the history tells. -/
structure Recalls (s : TimedCache α) (h : History α) : Prop where
  ttl : s.cache.ttl = h.ttl
  now : s.now = h.now
  -- Of all later times: what is live now would not say what is live once time has gone on.
  live : ∀ later, s.now ≤ later → ∀ key, s.cache.live? later key = h.read? later key

namespace Recalls

variable {s : TimedCache α} {h : History α}

/-- A write after a sweep, against the same write in the history. -/
theorem write (hr : Recalls s h) (key : String) (value : α) :
    Recalls ⟨(s.cache.sweep s.now).write s.now key value, s.now⟩ (h.write key value) := by
  refine ⟨hr.ttl, hr.now, fun later hlater other => ?_⟩
  change s.now ≤ later at hlater
  have hwindow : later - s.now < (s.cache.sweep s.now).ttl ↔ later < h.now + h.ttl := by
    have hnow := hr.now
    have httl : (s.cache.sweep s.now).ttl = h.ttl := hr.ttl
    omega
  show ((s.cache.sweep s.now).write s.now key value).live? later other = _
  rw [Cache.live?_write, Cache.live?_sweep _ hlater, History.read?_write, hr.live later hlater other]
  simp only [hwindow]

theorem step (hr : Recalls s h) (action : CacheAction α) :
    Recalls (s.step action) (h.step action) := by
  cases action with
  | insert key value =>
    rw [TimedCache.step, Cache.value_insert]
    exact hr.write key value
  | get key =>
    refine ⟨(s.cache.ttl_get s.now key).trans hr.ttl, hr.now, fun later hlater other => ?_⟩
    exact (s.cache.live?_get hlater key other).trans (hr.live later hlater other)
  | getOrInsert key compute =>
    have hlive := hr.live s.now (Nat.le_refl _) key
    rw [TimedCache.step, Cache.value_getOrInsert, History.step, ← hr.now, ← hlive]
    cases s.cache.live? s.now key with
    | some value => exact hr
    | none => exact hr.write key (compute ())
  | advance duration =>
    refine ⟨hr.ttl, congrArg (· + duration) hr.now, fun later hlater => hr.live later ?_⟩
    exact Nat.le_trans (Nat.le_add_right _ _) hlater
  | evictExpired =>
    rw [TimedCache.step, Cache.value_evictExpired]
    refine ⟨hr.ttl, hr.now, fun later hlater other => ?_⟩
    exact (s.cache.live?_sweep hlater other).trans (hr.live later hlater other)
  | clear => exact ⟨hr.ttl, hr.now, fun _ _ _ => rfl⟩

theorem after (ttl : Nat) (noted : Bool) (actions : List (CacheAction α)) :
    Recalls (TimedCache.after ttl noted actions) (History.after ttl actions) := by
  suffices h : ∀ (s : TimedCache α) (h : History α), Recalls s h →
      Recalls (actions.foldl TimedCache.step s) (actions.foldl History.step h) from
    h _ _ ⟨rfl, rfl, fun _ _ _ => rfl⟩
  induction actions with
  | nil => exact fun _ _ hr => hr
  | cons action rest ih => exact fun s h hr => ih _ _ (hr.step action)

end Recalls

/-- A cache answers every action as the history tells. -/
structure Tells (s : TimedCache α) (h : History α) : Prop where
  get : ∀ key, (s.cache.get s.now key).value.1 = h.read? h.now key
  /-- A value is computed exactly if the history tells none; a value that is found is not renewed,
  as nothing changes. -/
  getOrInsert : ∀ key compute,
    match h.read? h.now key with
    | some value => (s.cache.getOrInsert s.now key compute).value = (value, false, s.cache)
    | none => (s.cache.getOrInsert s.now key compute).value.1 = compute () ∧
        (s.cache.getOrInsert s.now key compute).value.2.1 = true
  evicted : (s.cache.evictExpired s.now).value.1 =
    s.cache.entries.countP fun entry => h.ttl ≤ s.now - entry.2.writtenAt
  left : ∀ entry, entry ∈ (s.cache.evictExpired s.now).value.2.entries ↔
    entry ∈ s.cache.entries ∧ s.now - entry.2.writtenAt < h.ttl

theorem size_sub_size_sweep (c : Cache α) (now : Nat) :
    c.size - (c.sweep now).size =
      c.entries.countP fun entry => c.ttl ≤ now - entry.2.writtenAt := by
  have hsplit := c.entries.length_eq_countP_add_countP fun entry => c.isLive now entry.2
  have hswept : (c.sweep now).size = c.entries.countP fun entry => c.isLive now entry.2 :=
    List.countP_eq_length_filter.symm
  have hexpired : (c.entries.countP fun entry => c.ttl ≤ now - entry.2.writtenAt) =
      c.entries.countP fun entry => !c.isLive now entry.2 := by
    simp [Cache.isLive, ← decide_not]
  simp only [Cache.size] at hswept ⊢
  simp only [Bool.not_eq_true] at hsplit
  rw [hswept, hexpired, hsplit]
  simp

/-- Whatever is done with a cache, it tells what is written in its history. -/
theorem tells_after (ttl : Nat) (noted : Bool) (actions : List (CacheAction α)) :
    Tells (TimedCache.after ttl noted actions) (History.after ttl actions) := by
  have hr := Recalls.after ttl noted actions
  generalize TimedCache.after ttl noted actions = s at hr ⊢
  generalize History.after ttl actions = h at hr ⊢
  have hlive : ∀ key, s.cache.live? s.now key = h.read? h.now key := by
    intro key
    rw [← hr.now]
    exact hr.live s.now (Nat.le_refl _) key
  constructor
  case get =>
    intro key
    rw [Cache.value_get_fst, hlive]
  case getOrInsert =>
    intro key compute
    rw [Cache.value_getOrInsert, hlive]
    cases h.read? h.now key with
    | some value => rfl
    | none => exact ⟨rfl, rfl⟩
  case evicted => rw [Cache.value_evictExpired, size_sub_size_sweep, hr.ttl]
  case left =>
    intro entry
    rw [Cache.value_evictExpired, ← hr.ttl]
    exact Cache.mem_sweep

end InfraConfig
