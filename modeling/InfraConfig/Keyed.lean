/-! Maps that keep the order of insertion: lists of pairs, read with `List.lookup`. Writing a known
key keeps its place. The lemmas say what a write does to the two views of a map, the look-up and
the list of keys. -/
namespace InfraConfig

/-- A map from text to `α` in insertion order. -/
abbrev Keyed (α : Type u) := List (String × α)

namespace Keyed

variable {α : Type u}

/-- The keys in order. -/
def keys (m : Keyed α) : List String := m.map (·.1)

/-- The values in order. -/
def values (m : Keyed α) : List α := m.map (·.2)

/-- Writes a key: a known key takes the new value in its old place, a new key goes to the end. -/
def insert : Keyed α → String → α → Keyed α
  | [], key, value => [(key, value)]
  | (k, v) :: rest, key, value =>
    if k = key then (k, value) :: rest else (k, v) :: insert rest key value

/-- The map left by writing the pairs one after the other. -/
def ofList (pairs : List (String × α)) : Keyed α :=
  pairs.foldl (fun m pair => insert m pair.1 pair.2) []

/-- The map without a key. -/
def erase (m : Keyed α) (key : String) : Keyed α := m.filter (·.1 ≠ key)

/-- Changes the value of a key, if the key is known. -/
def modify (m : Keyed α) (key : String) (f : α → α) : Keyed α :=
  m.map fun (k, v) => (k, if k = key then f v else v)

/-- The map with every value replaced by what `f` makes of it and its key. -/
def mapValues {β : Type v} (f : String → α → β) (m : Keyed α) : Keyed β :=
  m.map fun (k, v) => (k, f k v)

@[simp] theorem keys_nil : keys ([] : Keyed α) = [] := rfl

@[simp] theorem keys_cons (p : String × α) (m : Keyed α) : keys (p :: m) = p.1 :: keys m := rfl

theorem lookup_cons_eq (k : String) (v : α) (m : Keyed α) (key : String) :
    List.lookup key ((k, v) :: m) = if key = k then some v else m.lookup key := by
  by_cases h : key = k
  · simp [h]
  · rw [List.lookup_cons, beq_false_of_ne h, if_neg h]

theorem lookup_eq_none_iff {m : Keyed α} {key : String} :
    m.lookup key = none ↔ key ∉ keys m := by
  induction m with
  | nil => simp
  | cons p rest ih =>
    obtain ⟨k, v⟩ := p
    by_cases h : key = k <;> simp [lookup_cons_eq, h, ih]

theorem mem_keys_of_lookup {m : Keyed α} {key : String} {value : α}
    (h : m.lookup key = some value) : key ∈ keys m := by
  apply Decidable.not_not.1
  intro hn
  rw [lookup_eq_none_iff.2 hn] at h
  cases h

theorem lookup_insert_self (m : Keyed α) (key : String) (value : α) :
    (insert m key value).lookup key = some value := by
  induction m with
  | nil => simp [insert]
  | cons p rest ih =>
    obtain ⟨k, v⟩ := p
    by_cases h : k = key
    · simp [insert, h]
    · have h' : ¬ key = k := fun e => h e.symm
      simp [insert, h, h', lookup_cons_eq, ih]

theorem lookup_insert_of_ne (m : Keyed α) {key other : String} (value : α) (hne : other ≠ key) :
    (insert m key value).lookup other = m.lookup other := by
  induction m with
  | nil => simp [insert, lookup_cons_eq, hne]
  | cons p rest ih =>
    obtain ⟨k, v⟩ := p
    by_cases h : k = key
    · simp [insert, h, lookup_cons_eq, hne]
    · simp [insert, h, lookup_cons_eq, ih]

/-- Writing a known key changes no key; writing a new key appends it. -/
theorem keys_insert (m : Keyed α) (key : String) (value : α) :
    keys (insert m key value) = if key ∈ keys m then keys m else keys m ++ [key] := by
  induction m with
  | nil => simp [insert, keys]
  | cons p rest ih =>
    obtain ⟨k, v⟩ := p
    by_cases h : k = key
    · simp [insert, h]
    · have h' : ¬ key = k := fun e => h e.symm
      by_cases hm : key ∈ keys rest <;> simp [insert, h, h', ih, hm]

theorem mem_keys_insert {m : Keyed α} {key other : String} (value : α) :
    other ∈ keys (insert m key value) ↔ other ∈ keys m ∨ other = key := by
  rw [keys_insert]
  split
  · next hknown => exact ⟨.inl, fun h => h.elim id fun heq => heq ▸ hknown⟩
  · simp

/-- A new key is written at the end. -/
theorem insert_of_not_mem {m : Keyed α} {key : String} (value : α) (h : key ∉ keys m) :
    insert m key value = m ++ [(key, value)] := by
  induction m with
  | nil => rfl
  | cons p rest ih =>
    obtain ⟨k, v⟩ := p
    simp only [keys_cons, List.mem_cons, not_or] at h
    have h' : ¬ k = key := fun e => h.1 e.symm
    simp [insert, h', ih h.2]

theorem mem_keys_iff {m : Keyed α} {key : String} :
    key ∈ keys m ↔ ∃ value, m.lookup key = some value := by
  constructor
  · intro hmem
    cases hlookup : m.lookup key with
    | none => exact absurd hmem (lookup_eq_none_iff.1 hlookup)
    | some value => exact ⟨value, rfl⟩
  · rintro ⟨value, h⟩
    exact mem_keys_of_lookup h

/-- Where no key stands twice, every pair is found by its key. -/
theorem lookup_of_mem {m : Keyed α} {key : String} {value : α} (hnodup : (keys m).Nodup)
    (hmem : (key, value) ∈ m) : m.lookup key = some value := by
  induction m with
  | nil => cases hmem
  | cons p rest ih =>
    rw [keys_cons, List.nodup_cons] at hnodup
    rw [lookup_cons_eq]
    rcases List.mem_cons.1 hmem with rfl | hrest
    · exact if_pos rfl
    · have hin : key ∈ keys rest := List.mem_map.2 ⟨(key, value), hrest, rfl⟩
      have hne : key ≠ p.1 := fun heq => hnodup.1 (heq ▸ hin)
      rw [if_neg hne]
      exact ih hnodup.2 hrest

theorem mem_of_lookup {m : Keyed α} {key : String} {value : α} (h : m.lookup key = some value) :
    (key, value) ∈ m := by
  induction m with
  | nil => cases h
  | cons p rest ih =>
    obtain ⟨k, v⟩ := p
    rw [lookup_cons_eq] at h
    split at h
    · next heq =>
      cases h
      rw [heq]
      exact List.mem_cons_self
    · exact List.mem_cons_of_mem _ (ih h)

/-- Where no key stands twice, the order of the pairs does not matter to a look-up. -/
theorem lookup_eq_of_perm {m m' : Keyed α} (hnodup : (keys m).Nodup) (hperm : m'.Perm m)
    (key : String) : m'.lookup key = m.lookup key := by
  have hkeys : (keys m').Perm (keys m) := hperm.map _
  cases hlookup : m.lookup key with
  | some value =>
    exact lookup_of_mem (hkeys.nodup_iff.2 hnodup) (hperm.mem_iff.2 (mem_of_lookup hlookup))
  | none =>
    rw [lookup_eq_none_iff] at hlookup ⊢
    exact fun hmem => hlookup (hkeys.mem_iff.1 hmem)

theorem lookup_map_of_mem {names : List String} {name : String} (f : String → α)
    (h : name ∈ names) : List.lookup name (names.map fun n => (n, f n)) = some (f name) := by
  induction names with
  | nil => cases h
  | cons n rest ih =>
    rw [List.map_cons, lookup_cons_eq]
    split
    · next heq => rw [heq]
    · next hne => exact ih ((List.mem_cons.1 h).resolve_left hne)

/-- Writing a key leaves no key twice. -/
theorem nodup_keys_insert {m : Keyed α} (key : String) (value : α) (h : (keys m).Nodup) :
    (keys (insert m key value)).Nodup := by
  rw [keys_insert]
  split
  · exact h
  · next hnew => exact List.nodup_append.2 ⟨h, by simp, by rintro a ha b hb rfl; simp_all⟩

/-- What is stored once a key is written: the new pair, and the pairs of other keys. -/
theorem mem_insert {m : Keyed α} (hnodup : (keys m).Nodup) {key : String} {value : α}
    {pair : String × α} :
    pair ∈ insert m key value ↔ pair = (key, value) ∨ pair ∈ m ∧ pair.1 ≠ key := by
  obtain ⟨other, found⟩ := pair
  have hlookup : (other, found) ∈ insert m key value ↔
      (insert m key value).lookup other = some found :=
    ⟨lookup_of_mem (nodup_keys_insert key value hnodup), mem_of_lookup⟩
  rw [hlookup]
  by_cases hother : other = key
  · subst hother
    rw [lookup_insert_self]
    simp [eq_comm]
  · have hmem : m.lookup other = some found ↔ (other, found) ∈ m :=
      ⟨mem_of_lookup, lookup_of_mem hnodup⟩
    rw [lookup_insert_of_ne _ _ hother, hmem]
    simp [hother]

theorem nodup_keys_ofList (pairs : List (String × α)) : (keys (ofList pairs)).Nodup := by
  suffices h : ∀ m : Keyed α, (keys m).Nodup →
      (keys (pairs.foldl (fun m pair => insert m pair.1 pair.2) m)).Nodup from h [] (by simp)
  induction pairs with
  | nil => exact fun _ h => h
  | cons pair rest ih => exact fun m h => ih _ (nodup_keys_insert pair.1 pair.2 h)

/-- Whatever is written over, no key is lost and none is made up. -/
theorem mem_keys_ofList {pairs : List (String × α)} {key : String} :
    key ∈ keys (ofList pairs) ↔ key ∈ keys pairs := by
  suffices h : ∀ m : Keyed α, key ∈ keys (pairs.foldl (fun m pair => insert m pair.1 pair.2) m) ↔
      key ∈ keys m ∨ key ∈ keys pairs from (h []).trans (by simp)
  induction pairs with
  | nil => simp
  | cons pair rest ih =>
    intro m
    rw [List.foldl_cons, ih, mem_keys_insert, keys_cons, List.mem_cons, or_assoc]

/-- Pairs of which no key stands twice are written as they are. -/
theorem ofList_of_nodup {pairs : List (String × α)} (hnodup : (keys pairs).Nodup) :
    ofList pairs = pairs := by
  suffices h : ∀ m : Keyed α, (keys (m ++ pairs)).Nodup →
      pairs.foldl (fun m pair => insert m pair.1 pair.2) m = m ++ pairs from h [] hnodup
  clear hnodup
  induction pairs with
  | nil => simp
  | cons pair rest ih =>
    intro m hnodup
    have hnew : pair.1 ∉ keys m := by
      intro hmem
      rw [keys, List.map_append] at hnodup
      exact (List.nodup_append.1 hnodup).2.2 _ hmem _ (by simp) rfl
    rw [List.foldl_cons, insert_of_not_mem pair.2 hnew, ih _ (by simpa using hnodup)]
    simp

/-! ### Pairs left out -/

theorem nodup_keys_filter {m : Keyed α} (keep : String × α → Bool) (h : (keys m).Nodup) :
    (keys (m.filter keep)).Nodup :=
  (List.filter_sublist.map _).nodup h

/-- Where no key stands twice, a look-up finds what is left of a pair. -/
theorem lookup_filter {m : Keyed α} (keep : String × α → Bool) (hnodup : (keys m).Nodup)
    (key : String) :
    (m.filter keep).lookup key = (m.lookup key).filter fun value => keep (key, value) := by
  induction m with
  | nil => rfl
  | cons p rest ih =>
    obtain ⟨k, v⟩ := p
    rw [keys_cons, List.nodup_cons] at hnodup
    have hrest := ih hnodup.2
    rw [lookup_cons_eq, List.filter_cons]
    by_cases hkey : key = k
    · subst hkey
      rw [lookup_eq_none_iff.2 hnodup.1] at hrest
      rw [if_pos rfl, Option.filter_some]
      split
      · rw [lookup_cons_eq, if_pos rfl]
      · exact hrest
    · rw [if_neg hkey]
      split
      · rw [lookup_cons_eq, if_neg hkey, hrest]
      · exact hrest

/-! ### Changed values -/

@[simp] theorem keys_modify (m : Keyed α) (key : String) (f : α → α) :
    keys (modify m key f) = keys m := by
  simp [keys, modify]

theorem lookup_modify (m : Keyed α) (key other : String) (f : α → α) :
    (modify m key f).lookup other = (m.lookup other).map fun v => if other = key then f v else v := by
  induction m with
  | nil => rfl
  | cons p rest ih =>
    obtain ⟨k, v⟩ := p
    simp only [modify, List.map_cons, lookup_cons_eq] at ih ⊢
    by_cases h : other = k
    · simp [h]
    · simpa [h] using ih

variable {β : Type v}

@[simp] theorem keys_mapValues (f : String → α → β) (m : Keyed α) :
    keys (mapValues f m) = keys m := by
  simp [keys, mapValues]

theorem lookup_mapValues (f : String → α → β) (m : Keyed α) (key : String) :
    (mapValues f m).lookup key = (m.lookup key).map (f key) := by
  induction m with
  | nil => rfl
  | cons p rest ih =>
    obtain ⟨k, v⟩ := p
    simp only [mapValues, List.map_cons, lookup_cons_eq] at ih ⊢
    by_cases h : key = k
    · simp [h]
    · simpa [h] using ih

/-- A change of values that `g` does not see. -/
theorem mapValues_modify {g : String → α → β} {f : α → α} {key : String}
    (h : ∀ v, g key (f v) = g key v) (m : Keyed α) :
    mapValues g (modify m key f) = mapValues g m := by
  simp only [mapValues, modify, List.map_map]
  congr 1
  funext p
  by_cases hk : p.1 = key <;> simp [hk, h]

theorem mapValues_insert (f : String → α → β) (m : Keyed α) (key : String) (value : α) :
    mapValues f (insert m key value) = insert (mapValues f m) key (f key value) := by
  induction m with
  | nil => rfl
  | cons p rest ih =>
    obtain ⟨k, v⟩ := p
    simp only [mapValues, List.map_cons, insert] at ih ⊢
    by_cases h : k = key
    · simp [h]
    · simpa [h] using ih

/-- Values may be made before or after the pairs are written. -/
theorem mapValues_ofList (f : String → α → β) (pairs : List (String × α)) :
    mapValues f (ofList pairs) = ofList (pairs.map fun (k, v) => (k, f k v)) := by
  suffices h : ∀ m : Keyed α,
      mapValues f (pairs.foldl (fun m pair => insert m pair.1 pair.2) m) =
        (pairs.map fun (k, v) => (k, f k v)).foldl (fun m pair => insert m pair.1 pair.2)
          (mapValues f m) from h []
  induction pairs with
  | nil => exact fun _ => rfl
  | cons pair rest ih =>
    intro m
    rw [List.foldl_cons, ih, mapValues_insert]
    rfl

end Keyed

end InfraConfig
