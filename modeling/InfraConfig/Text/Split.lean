/-! Cutting texts at separators, looking for one text in another, and measuring a text in bytes. -/
namespace InfraConfig.Text

/-- The text before and after the first occurrence of a pattern, if there is one. -/
def splitFirst? (pattern : List Char) : List Char → Option (List Char × List Char)
  | [] => if pattern = [] then some ([], []) else none
  | c :: s =>
    if pattern.isPrefixOf (c :: s) then some ([], (c :: s).drop pattern.length)
    else (splitFirst? pattern s).map fun (before, after) => (c :: before, after)

/-- The parts of a text between the occurrences of a character; one more than there are
occurrences. -/
def splitAll (separator : Char) : List Char → List (List Char)
  | [] => [[]]
  | c :: s =>
    if c = separator then [] :: splitAll separator s
    else match splitAll separator s with
      | [] => [[c]]
      | first :: rest => (c :: first) :: rest

/-- Whether a pattern occurs in a text. -/
def occursIn (pattern s : List Char) : Bool := (splitFirst? pattern s).isSome

/-- The length of a text in bytes. -/
def utf8Length : List Char → Nat
  | [] => 0
  | c :: s => c.utf8Size + utf8Length s

theorem utf8Length_append (s t : List Char) : utf8Length (s ++ t) = utf8Length s + utf8Length t := by
  induction s with
  | nil => simp [utf8Length]
  | cons c s ih => simp only [List.cons_append, utf8Length, ih, Nat.add_assoc]

/-- A front of characters of one class is taken and dropped as a whole if the class ends with it. -/
theorem takeWhile_append_of_head {p : Char → Bool} {front rest : List Char}
    (hfront : ∀ c ∈ front, p c = true) (hrest : ∀ c, rest.head? = some c → p c = false) :
    (front ++ rest).takeWhile p = front ∧ (front ++ rest).dropWhile p = rest := by
  rw [List.takeWhile_append_of_pos hfront, List.dropWhile_append_of_pos hfront]
  cases rest with
  | nil => simp
  | cons c rest => simp [hrest c rfl]

/-- A split at a pattern gives back the text. -/
theorem splitFirst?_eq {pattern s before after : List Char}
    (h : splitFirst? pattern s = some (before, after)) : s = before ++ pattern ++ after := by
  induction s generalizing before with
  | nil =>
    unfold splitFirst? at h
    split at h <;> simp_all
  | cons c s ih =>
    unfold splitFirst? at h
    split at h
    · next hp =>
      obtain ⟨t, ht⟩ := List.isPrefixOf_iff_prefix.1 hp
      simp only [Option.some.injEq, Prod.mk.injEq] at h
      rw [← h.1, ← h.2, ← ht]
      simp
    · simp only [Option.map_eq_some_iff, Prod.exists, Prod.mk.injEq] at h
      obtain ⟨before', after', h', rfl, rfl⟩ := h
      simp [ih h']

/-- A text is split unless the pattern does not occur in it. -/
theorem splitFirst?_eq_none_iff {pattern s : List Char} :
    splitFirst? pattern s = none ↔ ¬ pattern <:+: s := by
  induction s with
  | nil =>
    unfold splitFirst?
    split <;> simp_all
  | cons c s ih =>
    unfold splitFirst?
    rw [List.infix_cons_iff, ← List.isPrefixOf_iff_prefix]
    split
    · next hfront => simp [hfront]
    · next hfront => simp [hfront, ih]

/-- The split is at the first occurrence: the pattern does not occur in what stands before it. -/
theorem not_infix_of_splitFirst? {pattern s before after : List Char} (hne : pattern ≠ [])
    (h : splitFirst? pattern s = some (before, after)) : ¬ pattern <:+: before := by
  induction s generalizing before with
  | nil =>
    unfold splitFirst? at h
    rw [if_neg hne] at h
    cases h
  | cons c s ih =>
    have hwhole := splitFirst?_eq h
    unfold splitFirst? at h
    split at h
    · cases h
      simpa using hne
    · next hfront =>
      obtain ⟨⟨before', after'⟩, hrest, hparts⟩ := Option.map_eq_some_iff.1 h
      cases hparts
      rw [List.infix_cons_iff]
      rintro (hstart | hlater)
      · apply hfront
        rw [List.isPrefixOf_iff_prefix, hwhole, List.append_assoc]
        exact hstart.trans (List.prefix_append _ _)
      · exact ih hrest hlater

theorem splitAll_ne_nil (separator : Char) (s : List Char) : splitAll separator s ≠ [] := by
  cases s with
  | nil => simp [splitAll]
  | cons c s =>
    unfold splitAll
    split
    · simp
    · split <;> simp

/-- The parts, joined by the separator, make up the text. -/
theorem intercalate_splitAll (separator : Char) (s : List Char) :
    [separator].intercalate (splitAll separator s) = s := by
  induction s with
  | nil => rfl
  | cons c s ih =>
    obtain ⟨first, rest, hs⟩ := List.exists_cons_of_ne_nil (splitAll_ne_nil separator s)
    unfold splitAll
    rw [hs] at ih ⊢
    split
    · next h => simp [List.intercalate, ← ih, h]
    · cases rest <;> simp_all [List.intercalate]

theorem splitAll_of_not_mem {separator : Char} {s : List Char} (h : separator ∉ s) :
    splitAll separator s = [s] := by
  induction s with
  | nil => rfl
  | cons c s ih =>
    have hc : c ≠ separator := fun heq => h (heq ▸ List.mem_cons_self)
    rw [splitAll, if_neg hc, ih fun hs => h (List.mem_cons_of_mem c hs)]

/-- What stands before the first separator is the first part. -/
theorem splitAll_append {separator : Char} {front : List Char} (h : separator ∉ front)
    (rest : List Char) :
    splitAll separator (front ++ separator :: rest) = front :: splitAll separator rest := by
  induction front with
  | nil => rw [List.nil_append, splitAll, if_pos rfl]
  | cons c front ih =>
    have hc : c ≠ separator := fun heq => h (heq ▸ List.mem_cons_self)
    rw [List.cons_append, splitAll, if_neg hc, ih fun hs => h (List.mem_cons_of_mem c hs)]

/-- Parts in which the separator does not occur are the parts of the text they make up. -/
theorem splitAll_intercalate {separator : Char} {parts : List (List Char)} (hne : parts ≠ [])
    (h : ∀ part ∈ parts, separator ∉ part) :
    splitAll separator ([separator].intercalate parts) = parts := by
  induction parts with
  | nil => exact absurd rfl hne
  | cons part rest ih =>
    obtain ⟨hpart, hrest⟩ := List.forall_mem_cons.1 h
    cases rest with
    | nil => rw [List.intercalate_singleton, splitAll_of_not_mem hpart]
    | cons next rest =>
      rw [List.intercalate_cons_cons, List.append_assoc, List.singleton_append,
        splitAll_append hpart, ih (List.cons_ne_nil _ _) hrest]

/-- Every character is in a part, the separators apart. -/
theorem exists_mem_splitAll {separator c : Char} {s : List Char} (h : c ∈ s) :
    c = separator ∨ ∃ part ∈ splitAll separator s, c ∈ part := by
  induction s with
  | nil => cases h
  | cons d s ih =>
    rw [splitAll]
    split
    · next hd =>
      rcases List.mem_cons.1 h with rfl | hs
      · exact .inl hd
      · exact (ih hs).imp_right fun ⟨part, hpart, hc⟩ => ⟨part, List.mem_cons_of_mem _ hpart, hc⟩
    · obtain ⟨first, rest, hsplit⟩ := List.exists_cons_of_ne_nil (splitAll_ne_nil separator s)
      rw [hsplit] at ih ⊢
      rcases List.mem_cons.1 h with rfl | hs
      · exact .inr ⟨_, List.mem_cons_self, List.mem_cons_self⟩
      · refine (ih hs).imp_right fun ⟨part, hpart, hc⟩ => ?_
        rcases List.mem_cons.1 hpart with rfl | hrest
        · exact ⟨_, List.mem_cons_self, List.mem_cons_of_mem d hc⟩
        · exact ⟨part, List.mem_cons_of_mem _ hrest, hc⟩

end InfraConfig.Text
