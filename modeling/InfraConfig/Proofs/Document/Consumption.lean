import InfraConfig.Document.Expression
import InfraConfig.Proofs.Text.Classes

/-! What is taken from the front of a text. `Takes s rest` says that `rest` is what is left of `s`
behind a character that is no blank; blanks and comments are skipped, which leaves a suffix. The
readers of words and marks end with the last character of the word, so that they take. -/
namespace InfraConfig.Document

open InfraConfig.Text (isBlank isBlank_of_isDigit isBlank_of_isIdentContinue isBlank_of_isIdentStart
  isIdentContinue isIdentStart)
open Decimal (readDigits? readExponent?)

/-- The rest of a text behind something that ends in no blank. -/
def Takes (s rest : List Char) : Prop := ∃ front c, isBlank c = false ∧ s = front ++ c :: rest

/-- A text that is not empty and holds no blank. -/
def Solid (s : List Char) : Prop := s ≠ [] ∧ (s.all fun c => !isBlank c) = true

instance : DecidablePred Solid := fun _ => inferInstanceAs (Decidable (_ ∧ _))

variable {s mid rest : List Char}

namespace Takes

theorem suffix (h : Takes s rest) : rest <:+ s := by
  obtain ⟨front, c, -, rfl⟩ := h
  exact ⟨front ++ [c], by simp⟩

theorem behind (hfront : mid <:+ s) (h : Takes mid rest) : Takes s rest := by
  obtain ⟨before, rfl⟩ := hfront
  obtain ⟨front, c, hc, rfl⟩ := h
  exact ⟨before ++ front, c, hc, by simp⟩

theorem onward (h : Takes s mid) (hmore : rest = mid ∨ Takes mid rest) : Takes s rest := by
  rcases hmore with rfl | hmore
  · exact h
  · exact hmore.behind h.suffix

theorem cons {c : Char} (h : Takes s rest) : Takes (c :: s) rest := h.behind (List.suffix_cons c s)

theorem head {c : Char} (hc : isBlank c = false) : Takes (c :: rest) rest := ⟨[], c, hc, rfl⟩

end Takes

namespace Solid

variable {front : List Char}

theorem isBlank {c : Char} (h : Solid s) (hc : c ∈ s) : isBlank c = false := by
  simpa using List.all_eq_true.1 h.2 c hc

theorem takes (h : Solid front) : Takes (front ++ rest) rest := by
  refine ⟨front.dropLast, front.getLast h.1, h.isBlank (List.getLast_mem h.1), ?_⟩
  rw [List.append_cons, List.dropLast_concat_getLast]

theorem head {c : Char} (h : Solid front) (hc : (front ++ rest).head? = some c) :
    Text.isBlank c = false := by
  cases front with
  | nil => exact absurd rfl h.1
  | cons d front =>
    cases hc
    exact h.isBlank List.mem_cons_self

end Solid

/-! ### Blanks and the ends of lines -/

theorem afterComment?_suffix (h : afterComment? s = some rest) : rest <:+ s := by
  simp only [afterComment?, Option.map_eq_some_iff, Prod.exists] at h
  obtain ⟨before, after, hsplit, rfl⟩ := h
  rw [Text.splitFirst?_eq hsplit]
  exact List.suffix_append _ _

theorem dropLine_suffix (s : List Char) : dropLine s <:+ s := List.dropWhile_suffix _

theorem skip_suffix (extent : Extent) (s : List Char) : skip extent s <:+ s := by
  fun_induction skip extent s with
  | case1 => exact List.suffix_refl _
  | case2 s rest hcomment ih =>
    exact (ih.trans (afterComment?_suffix hcomment)).trans ⟨['/', '*'], rfl⟩
  | case3 s => exact List.suffix_refl _
  | case4 s _ ih => exact (ih.trans (dropLine_suffix s)).trans ⟨['/', '/'], rfl⟩
  | case5 s => exact List.suffix_refl _
  | case6 c s _ _ _ ih => exact ih.trans (List.suffix_cons c s)
  | case7 c s _ _ _ _ ih => exact ih.trans (List.suffix_cons c s)
  | case8 c s _ _ _ _ _ ih => exact (ih.trans (dropLine_suffix s)).trans (List.suffix_cons c s)
  | case9 c s => exact List.suffix_refl _

theorem Takes.skipped {extent : Extent} (h : Takes (skip extent s) rest) : Takes s rest :=
  h.behind (skip_suffix extent s)

theorem takes_of_skip {extent : Extent} {c : Char} (hc : isBlank c = false)
    (h : skip extent s = c :: rest) : Takes s rest := by
  have htakes : Takes (c :: rest) rest := .head hc
  rw [← h] at htakes
  exact htakes.skipped

theorem skipLineComment_suffix (s : List Char) : skipLineComment s <:+ s := by
  unfold skipLineComment
  split
  · next t => exact (dropLine_suffix t).trans (List.suffix_cons _ _)
  · next t => exact (dropLine_suffix t).trans ⟨['/', '/'], rfl⟩
  · exact List.suffix_refl _

theorem afterLineEnd?_suffix (h : afterLineEnd? s = some rest) : rest <:+ s := by
  unfold afterLineEnd? at h
  split at h
  · cases h
    exact List.suffix_refl _
  · cases h
    exact List.suffix_cons _ _
  · cases h
    exact ⟨['\r', '\n'], rfl⟩
  · cases h

theorem skipStrip_suffix (s : List Char) : skipStrip s <:+ s := by
  unfold skipStrip
  split
  · exact List.suffix_cons _ _
  · exact List.suffix_refl _

/-! ### Words -/

theorem readIdent?_eq {ident : List Char} (h : readIdent? s = some (ident, rest)) :
    s = ident ++ rest ∧ Solid ident := by
  unfold readIdent? at h
  split at h
  · next c t =>
    simp only [Option.ite_none_right_eq_some, Option.some.injEq, Prod.mk.injEq] at h
    obtain ⟨hstart, rfl, rfl⟩ := h
    refine ⟨by simp, List.cons_ne_nil _ _, List.all_eq_true.2 fun d hd => ?_⟩
    rw [Bool.not_eq_true']
    rcases List.mem_cons.1 hd with rfl | hd
    · exact isBlank_of_isIdentStart hstart
    · exact isBlank_of_isIdentContinue (List.all_eq_true.1 List.all_takeWhile d hd)
  · cases h

theorem takes_readIdent? {ident : List Char} (h : readIdent? s = some (ident, rest)) :
    Takes s rest := by
  obtain ⟨rfl, hident⟩ := readIdent?_eq h
  exact hident.takes

theorem takes_afterKeyword? {keyword : String} (h : afterKeyword? keyword s = some rest) :
    Takes s rest := by
  unfold afterKeyword? at h
  split at h
  · next ident t hident =>
    simp only [Option.ite_none_right_eq_some, Option.some.injEq] at h
    obtain ⟨-, rfl⟩ := h
    exact takes_readIdent? hident
  · cases h

theorem after?_eq {expected : String} (h : after? expected s = some rest) :
    s = expected.toList ++ rest := by
  simp only [after?, Option.ite_none_right_eq_some, Option.some.injEq] at h
  obtain ⟨hfront, rfl⟩ := h
  obtain ⟨t, rfl⟩ := List.isPrefixOf_iff_prefix.1 hfront
  rw [← String.length_toList, List.drop_left]

theorem takes_after? {expected : String} (hexpected : Solid expected.toList)
    (h : after? expected s = some rest) : Takes s rest := by
  rw [after?_eq h]
  exact hexpected.takes

theorem readDigits?_eq {digits : List Char} (h : readDigits? s = some (digits, rest)) :
    s = digits ++ rest ∧ Solid digits := by
  refine ⟨Decimal.readDigits?_append h, ?_⟩
  unfold readDigits? at h
  split at h
  · cases h
  · next hne =>
    cases h
    refine ⟨hne, List.all_eq_true.2 fun c hc => ?_⟩
    rw [Bool.not_eq_true']
    exact isBlank_of_isDigit (List.all_eq_true.1 List.all_takeWhile c hc)

theorem takes_readDigits? {digits : List Char} (h : readDigits? s = some (digits, rest)) :
    Takes s rest := by
  obtain ⟨rfl, hdigits⟩ := readDigits?_eq h
  exact hdigits.takes

theorem takes_readExponent? {exponent : Option Int} (h : readExponent? s = some (exponent, rest)) :
    rest = s ∨ Takes s rest := by
  unfold readExponent? at h
  split at h
  · next c t =>
    split at h
    · simp only [Option.map_eq_some_iff, Prod.exists, Prod.mk.injEq] at h
      obtain ⟨digits, after, hdigits, -, rfl⟩ := h
      have htakes := takes_readDigits? hdigits
      refine .inr (Takes.cons ?_)
      split at htakes
      · exact htakes.cons
      · exact htakes.cons
      · exact htakes
    · cases h
      exact .inl rfl
  · cases h
    exact .inl rfl

theorem takes_readNumber? {n : Number} (h : readNumber? s = some (n, rest)) : Takes s rest := by
  simp only [readNumber?, readNumeral?, Option.bind_eq_bind, Option.bind_eq_some_iff,
    Option.pure_def, Option.some.injEq, Prod.exists, Prod.mk.injEq] at h
  obtain ⟨numeral, t, ⟨whole, t1, hwhole, exponent, t2, hexponent, -, rfl⟩, n', -, -, rfl⟩ := h
  have hdigits := takes_readDigits? hwhole
  refine Takes.onward (hdigits.onward ?_) (takes_readExponent? hexponent)
  split
  · next t3 =>
    split
    · next digits after hfraction => exact .inr (takes_readDigits? hfraction).cons
    · exact .inl rfl
  · exact .inl rfl

theorem takes_readPosition? {n : Nat} (h : readPosition? s = some (n, rest)) : Takes s rest := by
  simp only [readPosition?, Option.bind_eq_bind, Option.bind_eq_some_iff,
    Option.ite_none_right_eq_some, Option.some.injEq, Prod.exists, Prod.mk.injEq] at h
  obtain ⟨digits, t, hdigits, -, -, rfl⟩ := h
  exact takes_readDigits? hdigits

theorem readHex?_suffix {count value n : Nat} (h : Value.readHex? count value s = some (n, rest)) :
    rest <:+ s := by
  induction count generalizing value s with
  | zero =>
    cases h
    exact List.suffix_refl _
  | succ count ih =>
    cases s with
    | nil => cases h
    | cons c s =>
      simp only [Value.readHex?, Option.bind_eq_bind, Option.bind_eq_some_iff] at h
      obtain ⟨digit, -, hmore⟩ := h
      exact (ih hmore).trans (List.suffix_cons c s)

theorem readEscape?_suffix {c : Char} (h : readEscape? s = some (c, rest)) : rest <:+ s := by
  have hcode : ∀ {count : Nat} {t : List Char},
      readEscape?.codePoint? (Value.readHex? count 0 t) = some (c, rest) → rest <:+ t := by
    intro count t h
    unfold readEscape?.codePoint? at h
    split at h
    · next hhex =>
      simp only [Option.ite_none_right_eq_some, Option.some.injEq, Prod.mk.injEq] at h
      obtain ⟨-, -, rfl⟩ := h
      exact readHex?_suffix hhex
    · cases h
  unfold readEscape? at h
  split at h
  all_goals first
    | exact (hcode h).trans (List.suffix_cons _ _)
    | cases h; exact List.suffix_cons _ _
    | cases h

/-! ### Marks of expressions and templates -/

theorem takes_afterMarker? {marker : List Char} (hmarker : Solid marker)
    (h : afterMarker? marker s = some rest) : Takes s rest := by
  simp only [afterMarker?, Option.ite_none_right_eq_some, Option.some.injEq] at h
  obtain ⟨hfront, -, rfl⟩ := h
  obtain ⟨t, ht⟩ := List.isPrefixOf_iff_prefix.1 hfront
  rw [← ht, List.drop_left]
  have htakes : Takes (marker ++ t) t := hmarker.takes
  rw [ht] at htakes
  exact htakes.behind (List.dropWhile_suffix _)

theorem takes_afterBrace? (h : afterBrace? s = some rest) : Takes s rest :=
  ((takes_after? (by decide) h).behind (skipStrip_suffix _)).skipped

theorem insideDirective?_suffix (h : insideDirective? s = some rest) : rest <:+ s := by
  simp only [insideDirective?, Option.map_eq_some_iff] at h
  obtain ⟨t, ht, rfl⟩ := h
  rw [after?_eq ht]
  exact ((skip_suffix _ _).trans (skipStrip_suffix t)).trans (List.suffix_append _ _)

theorem takes_afterBranch? {keyword : String} (h : afterBranch? keyword s = some rest) :
    Takes s rest := by
  simp only [afterBranch?, Option.bind_eq_bind, Option.bind_eq_some_iff] at h
  obtain ⟨inside, hinside, t, hkeyword, hbrace⟩ := h
  exact ((takes_afterBrace? hbrace).behind (takes_afterKeyword? hkeyword).suffix).behind
    (insideDirective?_suffix hinside)

theorem takes_afterAccess? (h : afterAccess? s = some rest) : Takes s rest := by
  unfold afterAccess? at h
  split at h
  · cases h
    exact .head (by decide)
  · split at h
    · next hident =>
      cases h
      exact takes_readIdent? hident
    · simp only [Option.map_eq_some_iff, Prod.exists] at h
      obtain ⟨n, t, hposition, rfl⟩ := h
      exact takes_readPosition? hposition

theorem afterQualifiers_suffix (bound : Nat) (s : List Char) : afterQualifiers bound s <:+ s := by
  fun_induction afterQualifiers bound s with
  | case1 bound s ident t hident ih =>
    exact (ih.trans (takes_readIdent? hident).suffix).trans ⟨[':', ':'], rfl⟩
  | case2 => exact List.suffix_refl _
  | case3 => exact List.suffix_refl _

theorem takes_binaryOperator (h : binaryOperators.findSome? (after? · s) = some rest) :
    Takes s rest := by
  obtain ⟨operator, hmem, hafter⟩ := List.exists_of_findSome?_eq_some h
  have hsolid : (binaryOperators.all fun operator => decide (Solid operator.toList)) = true := by
    decide
  exact takes_after? (of_decide_eq_true (List.all_eq_true.1 hsolid operator hmem)) hafter

end InfraConfig.Document
