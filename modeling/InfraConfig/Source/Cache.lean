import InfraConfig.Keyed
import InfraConfig.Text.CharClass
import InfraConfig.Trace

/-! Caches whose entries expire. An entry is live while less time than `ttl` has passed since it was
written. An expired entry is dropped when its key is looked up, and every write first drops all
expired entries, so that a cache never holds more than one `ttl` of writes. Time is given to every
operation, in milliseconds. All that look-ups can tell of a cache is the live value of each key
(`live?`): a look-up answers with it (`value_get_fst`, `value_getOrInsert_fst`), dropping expired
entries does not change it at any later time (`live?_sweep`, `live?_get`), and a write changes that
of its key only (`live?_write`). -/
namespace InfraConfig

/-- A value with the time when it was written. -/
structure Stamped (α : Type) where
  value : α
  writtenAt : Nat
deriving DecidableEq, Repr

/-- A cache whose entries expire after `ttl`. -/
structure Cache (α : Type) where
  ttl : Nat
  entries : Keyed (Stamped α)
  /-- Whether look-ups are noted. -/
  noted : Bool
  nodup : (Keyed.keys entries).Nodup

namespace Cache

variable {α : Type}

/-- A cache without entries. -/
def empty (ttl : Nat) (noted : Bool) : Cache α := ⟨ttl, [], noted, List.nodup_nil⟩

/-- The number of entries, live or not. -/
def size (c : Cache α) : Nat := c.entries.length

/-- Whether an entry is live. -/
def isLive (c : Cache α) (now : Nat) (entry : Stamped α) : Bool := now - entry.writtenAt < c.ttl

/-- Notes a message if the cache is noted. -/
def note (c : Cache α) (message : String) : Traced Unit :=
  if c.noted then Traced.note message [] else pure ()

/-- A character by its code point, in hexadecimal digits. -/
def codePointEscape (c : Char) : List Char :=
  ['\\', 'u', '{'] ++ Nat.toDigits 16 c.toNat ++ ['}']

/-- A character of a key as notes show it. What would not be seen, or would be shown together with
the character before it, is given by its code point. -/
def escapeKeyChar (c : Char) : List Char :=
  if c = '"' then ['\\', '"']
  else if c = '\\' then ['\\', '\\']
  else if c = '\n' then ['\\', 'n']
  else if c = '\r' then ['\\', 'r']
  else if c = '\t' then ['\\', 't']
  else if c.toNat = 0 then ['\\', '0']
  else if Text.isGraphemeExtend c || !Text.isPrintable c then codePointEscape c
  else [c]

/-- A key as notes show it. -/
def shownKey (key : String) : String :=
  String.ofList ('"' :: key.toList.flatMap escapeKeyChar ++ ['"'])

/-- The live entries. -/
def liveEntries (c : Cache α) (now : Nat) : Keyed (Stamped α) :=
  c.entries.filter fun entry => c.isLive now entry.2

/-- The cache without its expired entries. -/
def sweep (c : Cache α) (now : Nat) : Cache α where
  ttl := c.ttl
  entries := c.liveEntries now
  noted := c.noted
  nodup := Keyed.nodup_keys_filter _ c.nodup

/-- The cache without a key. -/
def drop (c : Cache α) (key : String) : Cache α where
  ttl := c.ttl
  entries := Keyed.erase c.entries key
  noted := c.noted
  nodup := Keyed.nodup_keys_filter _ c.nodup

/-- The cache with a key written. -/
def write (c : Cache α) (now : Nat) (key : String) (value : α) : Cache α where
  ttl := c.ttl
  entries := Keyed.insert c.entries key ⟨value, now⟩
  noted := c.noted
  nodup := Keyed.nodup_keys_insert key _ c.nodup

/-- Drops the expired entries and tells how many they were. -/
def evictExpired (c : Cache α) (now : Nat) : Traced (Nat × Cache α) :=
  let swept := c.sweep now
  let evicted := c.size - swept.size
  do
    if 0 < evicted then c.note s!"evicted {evicted} expired cache entries"
    return (evicted, swept)

/-- The live value of a key; an expired one is dropped. -/
def get (c : Cache α) (now : Nat) (key : String) : Traced (Option α × Cache α) :=
  match c.entries.lookup key with
  | none => do
    c.note s!"cache miss for {shownKey key}"
    return (none, c)
  | some entry =>
    if c.isLive now entry then do
      c.note s!"cache hit for {shownKey key}"
      return (some entry.value, c)
    else do
      c.note s!"cache entry for {shownKey key} expired"
      return (none, c.drop key)

/-- Writes a key, dropping the expired entries first. -/
def insert (c : Cache α) (now : Nat) (key : String) (value : α) : Traced (Cache α) := do
  let (_, swept) ← c.evictExpired now
  return swept.write now key value

/-- The live value of a key, or else a new value, which is written. The flag tells whether the
value is new. -/
def getOrInsert (c : Cache α) (now : Nat) (key : String) (compute : Unit → α) :
    Traced (α × Bool × Cache α) :=
  let live := (c.entries.lookup key).filter (c.isLive now)
  match live with
  | some entry => do
    c.note s!"cache hit for {shownKey key}"
    return (entry.value, false, c)
  | none => do
    c.note s!"cache miss for {shownKey key}"
    let value := compute ()
    let written ← c.insert now key value
    return (value, true, written)

/-- The cache without entries. -/
def clear (c : Cache α) : Cache α := empty c.ttl c.noted

/-! ### What the operations do, without their notes -/

/-- The live value of a key, which is all that look-ups can tell. -/
def live? (c : Cache α) (now : Nat) (key : String) : Option α :=
  ((c.entries.lookup key).filter (c.isLive now)).map Stamped.value

/-- An entry that has expired stays so. -/
theorem isLive_of_le (c : Cache α) {now later : Nat} (h : now ≤ later) {entry : Stamped α}
    (hlive : c.isLive later entry = true) : c.isLive now entry = true := by
  simp only [isLive, decide_eq_true_eq] at hlive ⊢
  omega

theorem mem_sweep {c : Cache α} {now : Nat} {entry : String × Stamped α} :
    entry ∈ (c.sweep now).entries ↔
      entry ∈ c.entries ∧ now - entry.2.writtenAt < c.ttl := by
  simp [sweep, liveEntries, isLive]

theorem live?_sweep (c : Cache α) {now later : Nat} (h : now ≤ later) (key : String) :
    (c.sweep now).live? later key = c.live? later key := by
  have hlive : (c.sweep now).isLive later = c.isLive later := rfl
  have hentries : (c.sweep now).entries.lookup key =
      (c.entries.lookup key).filter (c.isLive now) :=
    Keyed.lookup_filter (fun entry => c.isLive now entry.2) c.nodup key
  have hboth : (fun entry => c.isLive now entry && c.isLive later entry) = c.isLive later := by
    funext entry
    cases hlater : c.isLive later entry with
    | false => rw [Bool.and_false]
    | true => rw [c.isLive_of_le h hlater, Bool.and_true]
  rw [live?, live?, hlive, hentries, Option.filter_filter, hboth]

/-- What is not live will not be live later. -/
theorem live?_eq_none_of_le (c : Cache α) {now later : Nat} (h : now ≤ later) {key : String}
    (hnone : c.live? now key = none) : c.live? later key = none := by
  rw [live?, Option.map_eq_none_iff, Option.filter_eq_none_iff] at hnone ⊢
  exact fun entry hentry hlive => hnone entry hentry (c.isLive_of_le h hlive)

theorem live?_drop (c : Cache α) (now : Nat) (key other : String) :
    (c.drop key).live? now other = if other = key then none else c.live? now other := by
  have hentries : (c.drop key).entries.lookup other =
      (c.entries.lookup other).filter fun _ => decide (other ≠ key) :=
    Keyed.lookup_filter (fun entry => decide (entry.1 ≠ key)) c.nodup other
  have hlive : (c.drop key).isLive now = c.isLive now := rfl
  rw [live?, live?, hlive, hentries, Option.filter_filter]
  split
  · next heq => simp [heq]
  · next hne => simp [hne]

/-- A key that is written is live from then on, until `ttl` has passed. -/
theorem live?_write (c : Cache α) (now later : Nat) (key : String) (value : α) (other : String) :
    (c.write now key value).live? later other =
      if other = key then if later - now < c.ttl then some value else none
      else c.live? later other := by
  have hlive : (c.write now key value).isLive later = c.isLive later := rfl
  rw [live?, live?, hlive]
  split
  · next heq =>
    have hentry : (c.write now key value).entries.lookup other = some ⟨value, now⟩ := by
      rw [heq]
      exact Keyed.lookup_insert_self c.entries key ⟨value, now⟩
    rw [hentry, Option.filter_some, isLive]
    by_cases hkept : later - now < c.ttl <;> simp [hkept]
  · next hne =>
    have hentry : (c.write now key value).entries.lookup other = c.entries.lookup other :=
      Keyed.lookup_insert_of_ne c.entries _ hne
    rw [hentry]

@[simp] theorem value_note (c : Cache α) (message : String) : (c.note message).value = () := rfl

theorem value_evictExpired (c : Cache α) (now : Nat) :
    (c.evictExpired now).value = (c.size - (c.sweep now).size, c.sweep now) := by
  by_cases h : 0 < c.size - (c.sweep now).size <;> simp [evictExpired, h]

theorem value_insert (c : Cache α) (now : Nat) (key : String) (value : α) :
    (c.insert now key value).value = (c.sweep now).write now key value := by
  simp [insert, value_evictExpired]

theorem value_get_fst (c : Cache α) (now : Nat) (key : String) :
    (c.get now key).value.1 = c.live? now key := by
  unfold get live?
  cases c.entries.lookup key with
  | none => rfl
  | some entry => cases h : c.isLive now entry <;> simp [Option.filter, h]

/-- A look-up leaves the cache as it is, or drops the key that it did not find live. -/
theorem value_get_snd (c : Cache α) (now : Nat) (key : String) :
    (c.get now key).value.2 = c ∨
      c.live? now key = none ∧ (c.get now key).value.2 = c.drop key := by
  unfold get live?
  cases c.entries.lookup key with
  | none => exact .inl rfl
  | some entry =>
    by_cases hlive : c.isLive now entry = true
    · exact .inl (by simp [hlive])
    · exact .inr (by simp [hlive, Option.filter])

theorem ttl_get (c : Cache α) (now : Nat) (key : String) : (c.get now key).value.2.ttl = c.ttl := by
  rcases c.value_get_snd now key with hsame | ⟨-, hdrop⟩
  · rw [hsame]
  · rw [hdrop]
    rfl

/-- A look-up changes no live value, now or later. -/
theorem live?_get (c : Cache α) {now later : Nat} (h : now ≤ later) (key other : String) :
    (c.get now key).value.2.live? later other = c.live? later other := by
  rcases c.value_get_snd now key with hsame | ⟨hnone, hdrop⟩
  · rw [hsame]
  · rw [hdrop, live?_drop]
    split
    · next heq => rw [heq, c.live?_eq_none_of_le h hnone]
    · rfl

theorem value_getOrInsert (c : Cache α) (now : Nat) (key : String) (compute : Unit → α) :
    (c.getOrInsert now key compute).value =
      match c.live? now key with
      | some value => (value, false, c)
      | none => (compute (), true, (c.sweep now).write now key (compute ())) := by
  unfold getOrInsert live?
  cases (c.entries.lookup key).filter (c.isLive now) with
  | some entry => rfl
  | none => simp [value_insert]

theorem value_getOrInsert_fst (c : Cache α) (now : Nat) (key : String) (compute : Unit → α) :
    (c.getOrInsert now key compute).value.1 = (c.live? now key).getD (compute ()) := by
  rw [value_getOrInsert]
  cases c.live? now key <;> rfl

end Cache

end InfraConfig
