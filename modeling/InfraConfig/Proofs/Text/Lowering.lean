import InfraConfig.Text.Blank
import InfraConfig.Text.CharClass
import InfraConfig.Text.LowerCase
import Mathlib

/-! Lower case and the case of ASCII letters. Lower case sees no difference between a capital letter
of ASCII and its small form (`lower_map_toLower`). A character that no word goes across keeps apart
what stands around it (`lower_append`), and lower case brings no mark or digit of ASCII into a text
(`mem_of_mem_lower`). A text of characters that are lower case already is not changed
(`lower_eq_self`). -/
namespace InfraConfig.Text

/-! ### ASCII letters -/

/-- What does not tell a capital letter from its small form does not tell any character from its
small form. -/
theorem apply_toLower {α : Type} (f : Char → α)
    (h : ∀ i < 26, f (Char.ofNat ('A'.toNat + i)).toLower = f (Char.ofNat ('A'.toNat + i)))
    (c : Char) : f c.toLower = f c := by
  by_cases hcapital : c.val ≥ 'A'.val ∧ c.val ≤ 'Z'.val
  · have hlow : 'A'.toNat ≤ c.toNat := hcapital.1
    have hhigh : c.toNat < 'A'.toNat + 26 := Nat.lt_succ_of_le hcapital.2
    have hletter := h (c.toNat - 'A'.toNat) (by omega)
    rwa [Nat.add_sub_cancel' hlow, Char.ofNat_toNat] at hletter
  · rw [Char.toLower, dif_neg hcapital]

theorem isCased_toLower (c : Char) : isCased c.toLower = isCased c :=
  apply_toLower isCased (by decide) c

theorem isCaseIgnorable_of_ascii {c : Char} (h : c.toNat < asciiEnd) :
    isCaseIgnorable c = inRanges asciiCaseIgnorableRanges c := by
  have hbeyond : caseIgnorableRanges.all (fun range => asciiEnd ≤ range.1) = true := by
    decide +kernel
  have hnone : inRanges caseIgnorableRanges c = false := by
    rw [Bool.eq_false_iff, Ne, inRanges_iff]
    intro ⟨range, hrange, hlow, _⟩
    have hfirst := List.all_eq_true.1 hbeyond range hrange
    rw [decide_eq_true_eq] at hfirst
    omega
  rw [isCaseIgnorable, inRanges_append, hnone, Bool.or_false]

theorem isCaseIgnorable_toLower (c : Char) : isCaseIgnorable c.toLower = isCaseIgnorable c := by
  refine apply_toLower isCaseIgnorable (fun i hi => ?_) c
  have hascii : ∀ i < 26, (Char.ofNat ('A'.toNat + i)).toNat < asciiEnd ∧
      (Char.ofNat ('A'.toNat + i)).toLower.toNat < asciiEnd ∧
      inRanges asciiCaseIgnorableRanges (Char.ofNat ('A'.toNat + i)).toLower =
        inRanges asciiCaseIgnorableRanges (Char.ofNat ('A'.toNat + i)) := by decide
  obtain ⟨hcapital, hsmall, hranges⟩ := hascii i hi
  rw [isCaseIgnorable_of_ascii hcapital, isCaseIgnorable_of_ascii hsmall, hranges]

theorem lowerChar_toLower (c : Char) : lowerChar c.toLower = lowerChar c :=
  apply_toLower lowerChar (by decide) c

theorem toLower_eq_sigma_iff (c : Char) : c.toLower = '\u03a3' ↔ c = '\u03a3' := by
  have h := apply_toLower (fun c => decide (c = '\u03a3')) (by decide) c
  simpa using h

theorem endsWord_map_toLower (before after : List Char) :
    endsWord (before.map Char.toLower) (after.map Char.toLower) = endsWord before after := by
  have hignorable : isCaseIgnorable ∘ Char.toLower = isCaseIgnorable :=
    funext isCaseIgnorable_toLower
  simp only [endsWord, ← List.map_reverse, List.dropWhile_map, hignorable, List.head?_map,
    Option.any_map, isCased_toLower]

theorem lowerAfter_map_toLower (before s : List Char) :
    lowerAfter (before.map Char.toLower) (s.map Char.toLower) = lowerAfter before s := by
  induction s generalizing before with
  | nil => rfl
  | cons c s ih =>
    have hrest := ih (before ++ [c])
    rw [List.map_append, List.map_singleton] at hrest
    simp only [List.map_cons, lowerAfter, toLower_eq_sigma_iff, endsWord_map_toLower,
      lowerChar_toLower, hrest]

/-- Lower case does not depend on the case of ASCII letters. -/
theorem lower_map_toLower (s : List Char) : lower (s.map Char.toLower) = lower s :=
  lowerAfter_map_toLower [] s

/-! ### Words -/

/-- A character that no word goes across. -/
def isWordBreak (c : Char) : Bool := !isCased c && !isCaseIgnorable c

theorem ne_sigma_of_isWordBreak {c : Char} (h : isWordBreak c = true) : c ≠ '\u03a3' := by
  rintro rfl
  exact absurd h (by decide)

section WordBreak
variable {c : Char} (h : isWordBreak c = true)
include h

/-- Behind a break, no letter is looked for. -/
theorem head?_dropWhile_append (s rest : List Char) :
    ((s ++ c :: rest).dropWhile isCaseIgnorable).head?.any isCased =
      (s.dropWhile isCaseIgnorable).head?.any isCased := by
  simp only [isWordBreak, Bool.and_eq_true, Bool.not_eq_true'] at h
  rw [List.dropWhile_append]
  split
  · next hempty =>
    rw [List.isEmpty_iff.1 hempty, List.dropWhile_cons, if_neg (ne_true_of_eq_false h.2)]
    exact h.1
  · next hsome =>
    rw [List.head?_append_of_ne_nil _ (fun heq => hsome (by rw [heq]; rfl))]

theorem endsWord_append (before after rest : List Char) :
    endsWord before (after ++ c :: rest) = endsWord before after := by
  rw [endsWord, endsWord, head?_dropWhile_append h]

theorem endsWord_after (front before after : List Char) :
    endsWord (front ++ c :: before) after = endsWord before after := by
  rw [endsWord, endsWord, List.reverse_append, List.reverse_cons, List.append_assoc,
    List.singleton_append, head?_dropWhile_append h]

theorem lowerAfter_after (front before s : List Char) :
    lowerAfter (front ++ c :: before) s = lowerAfter before s := by
  induction s generalizing before with
  | nil => rfl
  | cons d s ih =>
    have hrest := ih (before ++ [d])
    simp only [lowerAfter, endsWord_after h, List.append_assoc, List.cons_append, hrest]

theorem lowerAfter_append (before s rest : List Char) :
    lowerAfter before (s ++ c :: rest) = lowerAfter before s ++ (lowerChar c ++ lower rest) := by
  induction s generalizing before with
  | nil =>
    have hrest : lowerAfter (before ++ [c]) rest = lower rest := lowerAfter_after h before [] rest
    rw [List.nil_append, lowerAfter.eq_2, if_neg (ne_sigma_of_isWordBreak h), hrest]
    rfl
  | cons d s ih =>
    simp only [List.cons_append, lowerAfter, endsWord_append h, ih, List.append_assoc]

/-- What stands before a break and what stands behind it are lowered each by itself. -/
theorem lower_append (s rest : List Char) :
    lower (s ++ c :: rest) = lower s ++ (lowerChar c ++ lower rest) :=
  lowerAfter_append h [] s rest

end WordBreak

/-! ### Characters that are lower case -/

/-- A character that lower case leaves as it is. -/
def IsLowered (c : Char) : Prop := lowerChar c = [c] ∧ c ≠ '\u03a3'

theorem lowerAfter_eq_self {s : List Char} (h : ∀ c ∈ s, IsLowered c) (before : List Char) :
    lowerAfter before s = s := by
  induction s generalizing before with
  | nil => rfl
  | cons c s ih =>
    obtain ⟨⟨hc, hsigma⟩, hs⟩ := List.forall_mem_cons.1 h
    rw [lowerAfter, if_neg hsigma, hc, ih hs, List.singleton_append]

theorem lower_eq_self {s : List Char} (h : ∀ c ∈ s, IsLowered c) : lower s = s :=
  lowerAfter_eq_self h []

theorem isLowered_of_ascii {c : Char} (h : c.toNat < asciiEnd)
    (hcapital : ¬(c.val ≥ 'A'.val ∧ c.val ≤ 'Z'.val)) : IsLowered c := by
  constructor
  · rw [lowerChar_of_ascii h, Char.toLower, dif_neg hcapital]
  · rintro rfl
    exact absurd h (by decide)

/-- A digit of any script has no case. -/
theorem isLowered_of_isDecimalDigit {c : Char} (h : isDecimalDigit c = true) : IsLowered c := by
  rw [isDecimalDigit] at h
  split at h
  · next hascii =>
    refine isLowered_of_ascii hascii fun hcapital => ?_
    simp only [Char.isDigit, Bool.and_eq_true, decide_eq_true_eq] at h
    have hlow : 'A'.val ≤ '9'.val := UInt32.le_trans hcapital.1 h.2
    exact absurd hlow (by decide)
  · next hascii =>
    have hdistinct : lowerShifts.all (fun row => decimalDigitRanges.all fun range =>
        Nat.blt row.2.1 range.1 || Nat.blt range.2 row.1) = true := by decide +kernel
    obtain ⟨range, hrange, hlow, hhigh⟩ := inRanges_iff.1 h
    have hshift : lowerShift c = c := by
      rw [lowerShift, List.find?_eq_none.2]
      intro row hrow
      obtain ⟨first, last, step, shift⟩ := row
      have hapart := List.all_eq_true.1 (List.all_eq_true.1 hdistinct _ hrow) range hrange
      simp only [Bool.or_eq_true, Nat.blt_eq] at hapart
      simp only [Bool.and_eq_true, decide_eq_true_eq]
      omega
    have hdotted : c ≠ '\u0130' := by
      rintro rfl
      exact absurd h (by decide)
    constructor
    · have hbeyond : ¬c.toNat < 0x80 := hascii
      rw [lowerChar, if_neg hbeyond, if_neg hdotted, hshift]
    · rintro rfl
      exact absurd h (by decide)

/-! ### Marks and digits of ASCII -/

/-- A character of ASCII before the letters. -/
def isMark (c : Char) : Bool := 0 < c.toNat && c.toNat < 'A'.toNat

theorem isMark_ofNat {n : Nat} (h : 'A'.toNat ≤ n) : isMark (Char.ofNat n) = false := by
  rw [Char.ofNat]
  split
  · have hn : ¬(Char.ofNatAux n ‹_›).toNat < 'A'.toNat := Nat.not_lt.2 h
    rw [isMark, decide_eq_false hn, Bool.and_false]
  · rfl

/-- Beyond ASCII, lower case gives letters. -/
theorem isMark_lowerShift {c : Char} (h : isMark c = false) : isMark (lowerShift c) = false := by
  have hrows : ∀ row ∈ lowerShifts, ('A'.toNat : Int) ≤ row.1 + row.2.2.2 := by decide +kernel
  rw [lowerShift]
  split
  · next first last step shift hfound =>
    have hrow := hrows _ (List.mem_of_find?_eq_some hfound)
    have hin := List.find?_some hfound
    simp only [Bool.and_eq_true, decide_eq_true_eq] at hin hrow
    exact isMark_ofNat (by omega)
  · exact h

/-- A mark or a digit of ASCII is the lower case form of itself only. -/
theorem eq_of_mem_lowerChar {c d : Char} (hc : isMark c = true) (h : c ∈ lowerChar d) : d = c := by
  rw [lowerChar] at h
  split at h
  · rw [List.mem_singleton] at h
    rw [h, apply_toLower isMark (by decide)] at hc
    simp only [isMark, Bool.and_eq_true, decide_eq_true_eq] at hc
    have hsmall : ¬(d.val ≥ 'A'.val ∧ d.val ≤ 'Z'.val) := fun hcapital =>
      absurd hc.2 (Nat.not_lt.2 hcapital.1)
    rw [h, Char.toLower, dif_neg hsmall]
  · next hbeyond =>
    have hd : isMark d = false := by
      have hlarge : ¬d.toNat < 'A'.toNat := fun hlow =>
        hbeyond (Nat.lt_trans hlow (by decide))
      rw [isMark, decide_eq_false hlarge, Bool.and_false]
    split at h
    · have hmarks : ['i', '\u0307'].all (fun x => !isMark x) = true := by decide
      have hnot := List.all_eq_true.1 hmarks c h
      rw [hc] at hnot
      cases hnot
    · rw [List.mem_singleton.1 h, isMark_lowerShift hd] at hc
      cases hc

theorem mem_of_mem_lowerAfter {c : Char} (hc : isMark c = true) {before s : List Char}
    (h : c ∈ lowerAfter before s) : c ∈ s := by
  induction s generalizing before with
  | nil => exact h
  | cons d s ih =>
    rw [lowerAfter] at h
    rcases List.mem_append.1 h with hfirst | hrest
    · split at hfirst
      · have hsigmas : isMark '\u03c2' = false ∧ isMark '\u03c3' = false := by decide
        rw [List.mem_singleton] at hfirst
        split at hfirst <;> simp_all
      · exact eq_of_mem_lowerChar hc hfirst ▸ List.mem_cons_self
    · exact List.mem_cons_of_mem d (ih hrest)

/-- Lower case brings no mark or digit of ASCII into a text. -/
theorem mem_of_mem_lower {c : Char} (hc : isMark c = true) {s : List Char} (h : c ∈ lower s) :
    c ∈ s := mem_of_mem_lowerAfter hc h

end InfraConfig.Text
