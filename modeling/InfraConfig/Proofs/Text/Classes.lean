import InfraConfig.Text.Blank
import InfraConfig.Text.CharClass

/-! Classes of characters without a blank. Beyond ASCII a class is made of tables, and each of them
is apart from the table of blanks (`isBlank_of_table`); in ASCII it is made of letters, digits and
two marks (`isBlank_of_name`). -/
namespace InfraConfig.Text

/-- The tables that the classes are made of. -/
def classTables : List (List (Nat × Nat)) := [
  letterRanges, letterNumberRanges, alphabeticMarkRanges, otherMarkRanges, alphabeticSymbolRanges,
  decimalDigitRanges, otherNumberRanges, connectorRanges, extraIdentStartRanges, extraIdentRanges,
  [(0x200c, 0x200d)]]

variable {c : Char}

theorem isBlank_of_table {table : List (Nat × Nat)} (htable : table ∈ classTables)
    (h : inRanges table c = true) : isBlank c = false := by
  have hapart : classTables.all (apart · blankRanges) = true := by decide +kernel
  exact inRanges_eq_false_of_apart (List.all_eq_true.1 hapart table htable) h

theorem isBlank_of_name (h : (c.isAlphanum || c == '_' || c == '-') = true) : isBlank c = false :=
  isBlank_eq_false_of_class (p := fun c => c.isAlphanum || c == '_' || c == '-')
    (by decide) h

theorem isBlank_of_isDigit (h : c.isDigit = true) : isBlank c = false :=
  isBlank_of_name (by simp [Char.isAlphanum, h])

theorem isBlank_of_isDecimalDigit (h : isDecimalDigit c = true) : isBlank c = false := by
  rw [isDecimalDigit] at h
  split at h
  · exact isBlank_of_isDigit h
  · exact isBlank_of_table (by simp [classTables]) h

theorem isBlank_of_isAlphanumeric (h : isAlphanumeric c = true) : isBlank c = false := by
  rw [isAlphanumeric] at h
  split at h
  · exact isBlank_of_name (by simp [h])
  · simp only [isAlphabeticSymbol, Bool.or_eq_true, or_assoc] at h
    rcases h with h | h | h | h | h | h
    all_goals exact isBlank_of_table (by simp [classTables]) h

theorem isBlank_of_isWord (h : isWord c = true) : isBlank c = false := by
  rw [isWord] at h
  split at h
  · exact isBlank_of_name (by rw [h, Bool.true_or])
  · simp only [isAlphabeticSymbol, Bool.or_eq_true, or_assoc] at h
    rcases h with h | h | h | h | h | h | h | h
    all_goals exact isBlank_of_table (by simp [classTables]) h

theorem isBlank_of_isIdentContinue (h : isIdentContinue c = true) : isBlank c = false := by
  rw [isIdentContinue] at h
  split at h
  · exact isBlank_of_name h
  · simp only [Bool.and_eq_true, Bool.or_eq_true, or_assoc] at h
    rcases h.1 with h | h | h | h | h | h | h
    all_goals exact isBlank_of_table (by simp [classTables]) h

theorem isBlank_of_isIdentStart (h : isIdentStart c = true) : isBlank c = false := by
  rw [isIdentStart] at h
  split at h
  · rw [Bool.or_eq_true] at h
    exact isBlank_of_name (by rcases h with h | h <;> simp [Char.isAlphanum, h])
  · simp only [Bool.and_eq_true, Bool.or_eq_true, or_assoc] at h
    rcases h.1 with h | h | h
    all_goals exact isBlank_of_table (by simp [classTables]) h

end InfraConfig.Text
