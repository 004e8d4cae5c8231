import InfraConfig.Text.Ranges

/-! White space and trimming. `isBlank` is the Unicode property White_Space; `trim` drops the
blanks at both ends of a text. The main statement says
that a text is blank exactly when its trimmed form is empty. -/
namespace InfraConfig.Text

/-- The code points with the property White_Space. -/
def blankRanges : List (Nat × Nat) := [
  (0x9, 0xd), (0x20, 0x20), (0x85, 0x85), (0xa0, 0xa0), (0x1680, 0x1680), (0x2000, 0x200a),
  (0x2028, 0x2029), (0x202f, 0x202f), (0x205f, 0x205f), (0x3000, 0x3000)]

/-- A white space character. -/
def isBlank (c : Char) : Bool := inRanges blankRanges c

/-- Drops the blanks in front. -/
def trimStart (s : List Char) : List Char := s.dropWhile isBlank

/-- Drops the blanks at the end. -/
def trimEnd (s : List Char) : List Char := (s.reverse.dropWhile isBlank).reverse

/-- Drops the blanks at both ends. -/
def trim (s : List Char) : List Char := trimEnd (trimStart s)

/-- A text of blanks only, the empty text among them. -/
def allBlank (s : List Char) : Bool := s.all isBlank

/-- A class of characters none of which is in the table of blanks holds no blank. -/
theorem isBlank_eq_false_of_class {p : Char → Bool}
    (hclass : ∀ range ∈ blankRanges, ∀ i < range.2 + 1 - range.1,
      p (Char.ofNat (range.1 + i)) = false) {c : Char} (h : p c = true) : isBlank c = false := by
  cases hblank : isBlank c with
  | false => rfl
  | true =>
    obtain ⟨range, hrange, hlow, hhigh⟩ := inRanges_iff.1 hblank
    have hc := hclass range hrange (c.toNat - range.1) (by omega)
    rw [Nat.add_sub_cancel' hlow, Char.ofNat_toNat, h] at hc
    cases hc

@[simp] theorem trimStart_nil : trimStart [] = [] := rfl

@[simp] theorem trimEnd_nil : trimEnd [] = [] := rfl

@[simp] theorem trim_nil : trim [] = [] := rfl

theorem trimStart_append_of_allBlank {s t : List Char} (h : allBlank s = true) :
    trimStart (s ++ t) = trimStart t := by
  induction s with
  | nil => rfl
  | cons c r ih =>
    simp only [allBlank, List.all_cons, Bool.and_eq_true] at h
    simp only [trimStart, List.cons_append, List.dropWhile_cons, h.1, if_true]
    exact ih h.2

theorem trimStart_eq_nil_iff {s : List Char} : trimStart s = [] ↔ allBlank s = true := by
  induction s with
  | nil => simp [allBlank]
  | cons c r ih =>
    by_cases h : isBlank c = true
    · rw [trimStart, List.dropWhile_cons_of_pos h, ← trimStart, ih]
      simp [allBlank, h]
    · simp [trimStart, allBlank, h]

theorem allBlank_reverse (s : List Char) : allBlank s.reverse = allBlank s := by
  simp [allBlank]

theorem trimEnd_eq_nil_iff {s : List Char} : trimEnd s = [] ↔ allBlank s = true := by
  rw [← allBlank_reverse s, ← trimStart_eq_nil_iff]
  simp [trimEnd, trimStart]

theorem allBlank_trimStart (s : List Char) : allBlank (trimStart s) = allBlank s := by
  induction s with
  | nil => rfl
  | cons c r ih =>
    by_cases h : isBlank c = true
    · simpa [trimStart, allBlank, h] using ih
    · simp [trimStart, allBlank, h]

/-- A text is blank exactly when trimming leaves nothing of it. -/
theorem trim_eq_nil_iff {s : List Char} : trim s = [] ↔ allBlank s = true := by
  rw [trim, trimEnd_eq_nil_iff, allBlank_trimStart]

theorem trimStart_eq_self {s : List Char} (h : ∀ c, s.head? = some c → isBlank c = false) :
    trimStart s = s := by
  cases s with
  | nil => rfl
  | cons c s => rw [trimStart, List.dropWhile_cons, h c rfl, if_neg Bool.false_ne_true]

theorem trimEnd_eq_self {s : List Char} (h : ∀ c, s.getLast? = some c → isBlank c = false) :
    trimEnd s = s := by
  have hend : s.reverse.dropWhile isBlank = s.reverse :=
    trimStart_eq_self fun c hc => h c (by rwa [List.head?_reverse] at hc)
  rw [trimEnd, hend, List.reverse_reverse]

/-- A text that neither starts nor ends with a blank is trimmed. -/
theorem trim_eq_self {s : List Char} (hfirst : ∀ c, s.head? = some c → isBlank c = false)
    (hlast : ∀ c, s.getLast? = some c → isBlank c = false) : trim s = s := by
  rw [trim, trimStart_eq_self hfirst, trimEnd_eq_self hlast]

theorem trimEnd_append_of_allBlank {s t : List Char} (h : allBlank t = true) :
    trimEnd (s ++ t) = trimEnd s := by
  rw [← allBlank_reverse] at h
  have hstart := trimStart_append_of_allBlank (t := s.reverse) h
  rw [trimEnd, List.reverse_append, ← trimStart, hstart, trimStart, ← trimEnd]

/-- Around a trimmed text there are blanks only. -/
theorem exists_blanks_around_trim (s : List Char) :
    ∃ before after, allBlank before = true ∧ allBlank after = true ∧
      s = before ++ trim s ++ after := by
  refine ⟨s.takeWhile isBlank, ((trimStart s).reverse.takeWhile isBlank).reverse,
    List.all_takeWhile, ?_, ?_⟩
  · rw [allBlank_reverse]
    exact List.all_takeWhile
  · rw [List.append_assoc, trim, trimEnd, ← List.reverse_append, List.takeWhile_append_dropWhile,
      List.reverse_reverse, trimStart, List.takeWhile_append_dropWhile]

/-- A trimmed text does not start with a blank. -/
theorem isBlank_of_head?_trim {s : List Char} {c : Char} (h : (trim s).head? = some c) :
    isBlank c = false := by
  have hfront : trim s <+: trimStart s := by
    have hsuffix := List.dropWhile_suffix isBlank (l := (trimStart s).reverse)
    simpa [trim, trimEnd] using List.reverse_prefix.2 hsuffix
  obtain ⟨rest, hrest⟩ := hfront
  have hhead : (s.dropWhile isBlank).head? = some c := by
    rw [← trimStart, ← hrest, List.head?_append, h, Option.some_or]
  have hnot := List.head?_dropWhile_not isBlank s
  rw [hhead] at hnot
  simpa using hnot

/-- A trimmed text does not end with a blank. -/
theorem isBlank_of_getLast?_trim {s : List Char} {c : Char} (h : (trim s).getLast? = some c) :
    isBlank c = false := by
  have hnot := List.head?_dropWhile_not isBlank (trimStart s).reverse
  rw [trim, trimEnd, List.getLast?_reverse] at h
  rw [h] at hnot
  simpa using hnot

/-- Trimmed texts with a character between them that is no blank are a trimmed text. -/
theorem trim_append_cons {s t : List Char} {c : Char} (hs : trim s = s) (ht : trim t = t)
    (hc : isBlank c = false) : trim (s ++ c :: t) = s ++ c :: t := by
  apply trim_eq_self
  · intro d hd
    cases s with
    | nil =>
      cases hd
      exact hc
    | cons first rest =>
      have hfirst : (trim (first :: rest)).head? = some d := by
        rw [hs]
        exact hd
      exact isBlank_of_head?_trim hfirst
  · intro d hd
    rw [List.getLast?_append, List.getLast?_cons] at hd
    cases hlast : t.getLast? with
    | none =>
      simp only [hlast, Option.getD_none, Option.some_or, Option.some.injEq] at hd
      exact hd ▸ hc
    | some last =>
      simp only [hlast, Option.getD_some, Option.some_or, Option.some.injEq] at hd
      exact hd ▸ isBlank_of_getLast?_trim (ht.symm ▸ hlast)

end InfraConfig.Text
