import InfraConfig.Value.Text

/-! The characters of numbers in data: digits, a sign, a point, the sign of an exponent and the
letters of what is no finite number (`isNumeralChar_numberText`). -/
namespace InfraConfig

open Decimal (Double Layout)

/-- A character in the text of a number. -/
def isNumeralChar (c : Char) : Bool := c.isAlphanum || c == '-' || c == '+' || c == '.'

namespace Decimal.Layout

theorem isNumeralChar_digitChars {n : Nat} : ∀ c ∈ digitChars n, isNumeralChar c = true := by
  intro c hc
  have hdigit := Nat.isDigit_of_mem_toDigits (by decide) (by decide) hc
  simp [isNumeralChar, Char.isAlphanum, hdigit]

theorem mem_of_mem_dropFinalZeros {digits : List Char} {c : Char}
    (h : c ∈ dropFinalZeros digits) : c ∈ digits := by
  cases digits with
  | nil => exact h
  | cons first rest =>
    rcases List.mem_cons.1 h with rfl | h
    · exact List.mem_cons_self
    · have hrest := (List.dropWhile_sublist (· == '0')).mem (List.mem_reverse.1 h)
      exact List.mem_cons_of_mem _ (List.mem_reverse.1 hrest)

variable {digits : List Char}

theorem isNumeralChar_placePoint {layout : Layout} {point : Int}
    (h : ∀ c ∈ digits, isNumeralChar c = true) :
    ∀ c ∈ layout.placePoint digits point, isNumeralChar c = true := by
  have hzeros : ∀ n, ∀ c ∈ List.replicate n '0', isNumeralChar c = true := by
    intro n c hc
    rw [List.eq_of_mem_replicate hc]
    rfl
  unfold placePoint
  split
  · refine List.forall_mem_append.2 ⟨List.forall_mem_append.2 ⟨?_, hzeros _⟩, h⟩
    exact List.all_eq_true.1 (by decide)
  · have hwhole : ∀ c ∈ digits.take point.toNat ++
        List.replicate (point.toNat - digits.length) '0', isNumeralChar c = true :=
      List.forall_mem_append.2 ⟨fun c hc => h c (List.mem_of_mem_take hc), hzeros _⟩
    dsimp only
    split
    · split
      · exact List.forall_mem_append.2 ⟨hwhole, List.all_eq_true.1 (by decide)⟩
      · exact hwhole
    · refine List.forall_mem_append.2 ⟨hwhole, List.forall_mem_cons.2 ⟨rfl, ?_⟩⟩
      exact fun c hc => h c (List.mem_of_mem_drop hc)

theorem isNumeralChar_withExponent {exponent : Int} (h : ∀ c ∈ digits, isNumeralChar c = true) :
    ∀ c ∈ withExponent digits exponent, isNumeralChar c = true := by
  intro c hc
  rcases List.mem_append.1 hc with hmantissa | hexponent
  · split at hmantissa
    · next first second rest =>
      rcases List.mem_cons.1 hmantissa with rfl | hmantissa
      · exact h c List.mem_cons_self
      · rcases List.mem_cons.1 hmantissa with rfl | hmantissa
        · rfl
        · exact h c (List.mem_cons_of_mem _ hmantissa)
    · exact h c hmantissa
  · rcases List.mem_cons.1 hexponent with rfl | hexponent
    · rfl
    · rcases List.mem_cons.1 hexponent with rfl | hexponent
      · split <;> rfl
      · exact isNumeralChar_digitChars c hexponent

theorem isNumeralChar_render {layout : Layout} (d : Double) :
    ∀ c ∈ layout.render d, isNumeralChar c = true := by
  have hsign : ∀ c ∈ (if d.negative then ['-'] else []), isNumeralChar c = true := by
    split <;> exact List.all_eq_true.1 (by decide)
  have hdigits : ∀ c ∈ dropFinalZeros (digitChars (d.shortestDigits layout.tie).digits),
      isNumeralChar c = true :=
    fun c hc => isNumeralChar_digitChars c (mem_of_mem_dropFinalZeros hc)
  unfold render
  split
  · exact List.all_eq_true.1 (by decide)
  · dsimp only
    split
    · exact List.forall_mem_append.2 ⟨hsign, List.all_eq_true.1 (by decide)⟩
    · split
      · refine List.forall_mem_append.2 ⟨hsign, isNumeralChar_placePoint ?_⟩
        exact List.all_eq_true.1 (by decide)
      · refine List.forall_mem_append.2 ⟨hsign, ?_⟩
        split
        · exact isNumeralChar_placePoint hdigits
        · exact isNumeralChar_withExponent hdigits

end Decimal.Layout

namespace Value

theorem isNumeralChar_numberText (n : Number) : ∀ c ∈ numberText n, isNumeralChar c = true := by
  cases n with
  | int n =>
    refine List.forall_mem_append.2 ⟨?_, Layout.isNumeralChar_digitChars⟩
    split <;> exact List.all_eq_true.1 (by decide)
  | double d => exact Layout.isNumeralChar_render d

end Value

end InfraConfig
