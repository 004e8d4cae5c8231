import InfraConfig.Source.Version
import InfraConfig.Proofs.Text.Classes
import Mathlib.Data.Set.List

/-! The grammar of version constraints. A comparison is written from its parts: blanks, an operator,
blanks, two or three numbers, a label and blanks, where all but the first two numbers may be left out
(`Version.Comparison`). Each reader takes what is written of a part and no more, since what may follow
the part does not go on with it; so what is written from parts is accepted
(`Version.isComparison_text`), and what is accepted is written from parts
(`Version.exists_comparison`). A constraint is accepted exactly if it is comparisons with commas
between them (`Version.isConstraint_iff`). -/
namespace InfraConfig.Version

open InfraConfig.Text

/-! ### Comparisons and their texts -/

/-- The operators of comparisons. -/
inductive Operator where
  | atLeast
  | atMost
  | pessimistic
  | equal
  | above
  | below

/-- An operator as it is written. -/
def Operator.text : Operator → List Char
  | .atLeast => ['>', '=']
  | .atMost => ['<', '=']
  | .pessimistic => ['~', '>']
  | .equal => ['=']
  | .above => ['>']
  | .below => ['<']

/-- White space, or nothing. -/
abbrev Blanks : Type := { s : List Char // allBlank s = true }

/-- Characters of a class, at least one. -/
abbrev Run (p : Char → Bool) : Type := { s : List Char // s ≠ [] ∧ ∀ c ∈ s, p c = true }

/-- The numbers of a version. -/
structure Numbers where
  major : Run isDecimalDigit
  minor : Run isDecimalDigit
  patch : Option (Run isDecimalDigit)

/-- Numbers as they are written, with dots between them. -/
def Numbers.text (n : Numbers) : List Char :=
  n.major.1 ++ '.' :: (n.minor.1 ++ n.patch.elim [] fun patch => '.' :: patch.1)

/-- A label as it is written, behind a hyphen. -/
def labelText (label : Option (Run isWord)) : List Char := label.elim [] fun word => '-' :: word.1

/-- A comparison with a version, part by part. -/
structure Comparison where
  before : Blanks
  operator : Option Operator
  between : Blanks
  numbers : Numbers
  label : Option (Run isWord)
  after : Blanks

/-- A comparison as it is written. -/
def Comparison.text (c : Comparison) : List Char :=
  c.before.1 ++ (c.operator.elim [] Operator.text ++ (c.between.1 ++
    (c.numbers.text ++ (labelText c.label ++ c.after.1))))

/-! ### Reading what is written -/

section Reading
variable {s rest : List Char}

/-- A text does not go on with a class of characters. -/
def EndsRun (p : Char → Bool) (rest : List Char) : Prop := ∀ c, rest.head? = some c → p c = false

theorem afterDigits?_append (digits : Run isDecimalDigit) (h : EndsRun isDecimalDigit rest) :
    afterDigits? (digits.1 ++ rest) = some rest := by
  obtain ⟨htake, hdrop⟩ := takeWhile_append_of_head digits.2.2 h
  rw [afterDigits?, htake, hdrop, if_neg digits.2.1]

/-- A front of a class that is not empty is a run, and what follows it does not go on with it. -/
theorem exists_run {p : Char → Bool} (h : s.takeWhile p ≠ []) :
    ∃ run : Run p, s = run.1 ++ s.dropWhile p :=
  ⟨⟨s.takeWhile p, h, List.all_eq_true.1 List.all_takeWhile⟩, List.takeWhile_append_dropWhile.symm⟩

theorem exists_digits (h : afterDigits? s = some rest) :
    ∃ digits : Run isDecimalDigit, s = digits.1 ++ rest := by
  rw [afterDigits?] at h
  split at h
  · cases h
  · next hsome =>
    cases h
    exact exists_run hsome

theorem endsRun_cons {p : Char → Bool} {c : Char} (hc : p c = false) : EndsRun p (c :: rest) := by
  intro d hd
  cases hd
  exact hc

theorem afterNumbers?_append (n : Numbers) (hdigits : EndsRun isDecimalDigit rest)
    (hpoint : rest.head? ≠ some '.') : afterNumbers? (n.text ++ rest) = some rest := by
  obtain ⟨major, minor, patch⟩ := n
  have hend : ∀ t, EndsRun isDecimalDigit ('.' :: t) := fun t => endsRun_cons (by decide)
  cases patch with
  | none =>
    have htext : Numbers.text ⟨major, minor, none⟩ ++ rest = major.1 ++ '.' :: (minor.1 ++ rest) := by
      simp [Numbers.text]
    rw [htext, afterNumbers?, afterDigits?_append major (hend _)]
    simp only [Option.bind_eq_bind, Option.bind_some, afterDigits?_append minor hdigits]
    split
    · simp at hpoint
    · rfl
  | some patch =>
    have htext : Numbers.text ⟨major, minor, some patch⟩ ++ rest =
        major.1 ++ '.' :: (minor.1 ++ '.' :: (patch.1 ++ rest)) := by
      simp [Numbers.text]
    rw [htext, afterNumbers?, afterDigits?_append major (hend _)]
    simp only [Option.bind_eq_bind, Option.bind_some, afterDigits?_append minor (hend _)]
    exact afterDigits?_append patch hdigits

theorem exists_numbers (h : afterNumbers? s = some rest) : ∃ n : Numbers, s = n.text ++ rest := by
  rw [afterNumbers?] at h
  obtain ⟨afterMajor, hmajor, hpoint⟩ := Option.bind_eq_some_iff.1 h
  obtain ⟨major, rfl⟩ := exists_digits hmajor
  split at hpoint
  · obtain ⟨afterMinor, hminor, hpatch⟩ := Option.bind_eq_some_iff.1 hpoint
    obtain ⟨minor, rfl⟩ := exists_digits hminor
    split at hpatch
    · obtain ⟨patch, rfl⟩ := exists_digits hpatch
      exact ⟨⟨major, minor, some patch⟩, by simp [Numbers.text]⟩
    · cases hpatch
      exact ⟨⟨major, minor, none⟩, by simp [Numbers.text]⟩
  · cases hpoint

theorem afterLabel?_append (label : Option (Run isWord)) (hword : EndsRun isWord rest)
    (hhyphen : rest.head? ≠ some '-') : afterLabel? (labelText label ++ rest) = some rest := by
  cases label with
  | none =>
    rw [labelText, Option.elim_none, List.nil_append, afterLabel?.eq_def]
    split
    · simp at hhyphen
    · rfl
  | some word =>
    obtain ⟨htake, hdrop⟩ := takeWhile_append_of_head word.2.2 hword
    show afterLabel? ('-' :: (word.1 ++ rest)) = some rest
    rw [afterLabel?, htake, hdrop, if_neg word.2.1]

theorem exists_label (h : afterLabel? s = some rest) :
    ∃ label : Option (Run isWord), s = labelText label ++ rest := by
  rw [afterLabel?.eq_def] at h
  split at h
  · split at h
    · cases h
    · next hsome =>
      cases h
      obtain ⟨word, hword⟩ := exists_run hsome
      exact ⟨some word, congrArg ('-' :: ·) hword⟩
  · cases h
    exact ⟨none, rfl⟩

/-- An operator is read as a whole where `=` does not follow it. -/
theorem afterOperator_append (operator : Operator) (h : rest.head? ≠ some '=') :
    afterOperator (operator.text ++ rest) = rest := by
  cases operator with
  | above | below =>
    -- Only here could more be taken than is written: `>` and `<` go on with `=`.
    rw [Operator.text, List.singleton_append]
    unfold afterOperator
    split <;> simp_all
  | _ => rfl

theorem afterOperator_of_head (h : ∀ c, s.head? = some c → c ∉ ['>', '<', '~', '=']) :
    afterOperator s = s := by
  unfold afterOperator
  split
  case h_7 => rfl
  all_goals simp at h

theorem exists_operator (s : List Char) :
    ∃ operator : Option Operator, s = operator.elim [] Operator.text ++ afterOperator s := by
  unfold afterOperator
  split
  · exact ⟨some .atLeast, rfl⟩
  · exact ⟨some .atMost, rfl⟩
  · exact ⟨some .pessimistic, rfl⟩
  · exact ⟨some .equal, rfl⟩
  · exact ⟨some .above, rfl⟩
  · exact ⟨some .below, rfl⟩
  · exact ⟨none, rfl⟩

end Reading

/-! ### First characters -/

theorem head_numbers (n : Numbers) (rest : List Char) {c : Char}
    (h : (n.text ++ rest).head? = some c) : isDecimalDigit c = true := by
  obtain ⟨first, digits, hmajor⟩ := List.exists_cons_of_ne_nil n.major.2.1
  have hfirst : first ∈ n.major.1 := hmajor ▸ List.mem_cons_self
  rw [Numbers.text, hmajor] at h
  cases h
  exact n.major.2.2 c hfirst

theorem head_blanks (blanks : Blanks) {c : Char} (h : blanks.1.head? = some c) :
    isBlank c = true :=
  List.all_eq_true.1 blanks.2 c (List.mem_of_mem_head? h)

/-- What follows numbers starts with a hyphen or a blank. -/
theorem head_labelText (label : Option (Run isWord)) (after : Blanks) {c : Char}
    (h : (labelText label ++ after.1).head? = some c) : c = '-' ∨ isBlank c = true := by
  cases label with
  | none => exact .inr (head_blanks after h)
  | some word =>
    cases h
    exact .inl rfl

/-! ### Comparisons -/

/-- Blanks and an operator are taken in front of a digit. -/
theorem trimStart_afterOperator (before between : Blanks) (operator : Option Operator)
    {rest : List Char} (h : ∀ c, rest.head? = some c → isDecimalDigit c = true) :
    trimStart (afterOperator (trimStart
      (before.1 ++ (operator.elim [] Operator.text ++ (between.1 ++ rest))))) = rest := by
  have hrest : trimStart rest = rest :=
    trimStart_eq_self fun c hc => isBlank_of_isDecimalDigit (h c hc)
  rw [trimStart_append_of_allBlank before.2]
  cases operator with
  | none =>
    have hnone : afterOperator rest = rest := by
      refine afterOperator_of_head fun c hc hmem => ?_
      have hoperator : ['>', '<', '~', '='].all (!isDecimalDigit ·) = true := by decide
      simpa [h c hc] using List.all_eq_true.1 hoperator c hmem
    rw [Option.elim_none, List.nil_append, trimStart_append_of_allBlank between.2, hrest, hnone,
      hrest]
  | some operator =>
    have htext : trimStart (operator.text ++ (between.1 ++ rest)) =
        operator.text ++ (between.1 ++ rest) := by
      apply trimStart_eq_self
      intro c hc
      cases operator <;> cases hc <;> decide
    have hequal : (between.1 ++ rest).head? ≠ some '=' := by
      intro hhead
      rw [List.head?_append, Option.or_eq_some_iff] at hhead
      rcases hhead with hblank | ⟨-, hdigit⟩
      · exact absurd (head_blanks between hblank) (by decide)
      · exact absurd (h '=' hdigit) (by decide)
    rw [Option.elim_some, htext, afterOperator_append operator hequal,
      trimStart_append_of_allBlank between.2, hrest]

/-- What is written from parts is accepted. -/
theorem isComparison_text (c : Comparison) : isComparison c.text = true := by
  have hdigits : EndsRun isDecimalDigit (labelText c.label ++ c.after.1) := by
    intro d hd
    rcases head_labelText c.label c.after hd with rfl | hblank
    · decide
    · exact Bool.eq_false_iff.2 fun hdigit => by simp [isBlank_of_isDecimalDigit hdigit] at hblank
  have hpoint : (labelText c.label ++ c.after.1).head? ≠ some '.' := by
    intro hhead
    rcases head_labelText c.label c.after hhead with heq | hblank
    · exact absurd heq (by decide)
    · exact absurd hblank (by decide)
  have hword : EndsRun isWord c.after.1 := fun d hd =>
    Bool.eq_false_iff.2 fun hword => by simpa [isBlank_of_isWord hword] using head_blanks c.after hd
  have hhyphen : c.after.1.head? ≠ some '-' := fun hhead =>
    absurd (head_blanks c.after hhead) (by decide)
  have hnumbers := afterNumbers?_append c.numbers hdigits hpoint
  have hlabel := afterLabel?_append c.label hword hhyphen
  have hstart : ∀ d, (c.numbers.text ++ (labelText c.label ++ c.after.1)).head? = some d →
      isDecimalDigit d = true := fun d hd => head_numbers c.numbers _ hd
  rw [isComparison, Comparison.text, trimStart_afterOperator c.before c.between c.operator hstart,
    hnumbers]
  simp only [Option.bind_eq_bind, Option.bind_some, hlabel, Option.any_some, c.after.2]

/-- What is accepted is written from parts. -/
theorem exists_comparison {s : List Char} (h : isComparison s = true) :
    ∃ c : Comparison, s = c.text := by
  rw [isComparison, Option.any_eq_true] at h
  obtain ⟨after, hread, hafter⟩ := h
  obtain ⟨labelled, hnumbers, hlabel⟩ := Option.bind_eq_some_iff.1 hread
  obtain ⟨operator, hoperator⟩ := exists_operator (trimStart s)
  obtain ⟨numbers, hnumbers⟩ := exists_numbers hnumbers
  obtain ⟨label, rfl⟩ := exists_label hlabel
  have hblanks : ∀ t : List Char, ∃ blanks : Blanks, t = blanks.1 ++ trimStart t := fun t =>
    ⟨⟨t.takeWhile isBlank, List.all_takeWhile⟩, List.takeWhile_append_dropWhile.symm⟩
  obtain ⟨before, hbefore⟩ := hblanks s
  obtain ⟨between, hbetween⟩ := hblanks (afterOperator (trimStart s))
  refine ⟨⟨before, operator, between, numbers, label, ⟨after, hafter⟩⟩, ?_⟩
  rw [Comparison.text, ← hnumbers, ← hbetween, ← hoperator, ← hbefore]

/-- A comparison is not blank, since it has a number. -/
theorem allBlank_text (c : Comparison) : allBlank c.text = false := by
  obtain ⟨digit, digits, hmajor⟩ := List.exists_cons_of_ne_nil c.numbers.major.2.1
  have hdigit : isBlank digit = false :=
    isBlank_of_isDecimalDigit (c.numbers.major.2.2 digit (hmajor ▸ List.mem_cons_self))
  simp [Comparison.text, Numbers.text, allBlank, hmajor, hdigit]

/-- A list of comparisons starts with a comparison, so it is not blank. -/
theorem allBlank_intercalate {comparisons : List Comparison} (hne : comparisons ≠ []) :
    allBlank ([','].intercalate (comparisons.map Comparison.text)) = false := by
  obtain ⟨first, rest, rfl⟩ := List.exists_cons_of_ne_nil hne
  cases rest with
  | nil => rw [List.map_singleton, List.intercalate_singleton, allBlank_text]
  | cons next rest =>
    rw [List.map_cons, List.map_cons, List.intercalate_cons_cons, List.append_assoc, allBlank,
      List.all_append, ← allBlank, allBlank_text, Bool.false_and]

/-- No comma stands in a comparison. -/
theorem not_mem_text (c : Comparison) : ',' ∉ c.text := by
  obtain ⟨before, operator, between, ⟨major, minor, patch⟩, label, after⟩ := c
  have hblanks : ∀ blanks : Blanks, ',' ∉ blanks.1 := fun blanks hmem =>
    absurd (List.all_eq_true.1 blanks.2 _ hmem) (by decide)
  have hdigits : ∀ digits : Run isDecimalDigit, ',' ∉ digits.1 := fun digits hmem =>
    absurd (digits.2.2 _ hmem) (by decide)
  have hword : ∀ word : Run isWord, ',' ∉ word.1 := fun word hmem =>
    absurd (word.2.2 _ hmem) (by decide)
  have hoperator : ',' ∉ operator.elim [] Operator.text := by
    cases operator with
    | none => decide
    | some operator => cases operator <;> decide
  have hpatch : ',' ∉ patch.elim [] fun patch => '.' :: patch.1 := by
    cases patch with
    | none => decide
    | some patch => simpa using hdigits patch
  have hlabel : ',' ∉ labelText label := by
    cases label with
    | none => decide
    | some word => simpa [labelText] using hword word
  simp [Comparison.text, Numbers.text, hblanks, hdigits, hoperator, hpatch, hlabel]

/-- A constraint is accepted exactly if it is comparisons, one or more, with commas between them. -/
theorem isConstraint_iff (s : List Char) :
    isConstraint s = true ↔ ∃ comparisons : List Comparison, comparisons ≠ [] ∧
      s = [','].intercalate (comparisons.map Comparison.text) := by
  rw [isConstraint, Bool.and_eq_true, List.all_eq_true]
  constructor
  · rintro ⟨-, h⟩
    have hparts : splitAll ',' s ∈ Set.range (List.map Comparison.text) := by
      rw [Set.range_list_map]
      intro part hpart
      obtain ⟨c, hc⟩ := exists_comparison (h part hpart)
      exact ⟨c, hc.symm⟩
    obtain ⟨comparisons, hcomparisons⟩ := hparts
    refine ⟨comparisons, ?_, ?_⟩
    · rintro rfl
      exact splitAll_ne_nil ',' s hcomparisons.symm
    · rw [hcomparisons, intercalate_splitAll]
  · rintro ⟨comparisons, hne, rfl⟩
    refine ⟨by rw [allBlank_intercalate hne, Bool.not_false], fun part hpart => ?_⟩
    have hcommas : ∀ part ∈ comparisons.map Comparison.text, ',' ∉ part :=
      List.forall_mem_map.2 fun c _ => not_mem_text c
    rw [splitAll_intercalate (List.map_eq_nil_iff.not.2 hne) hcommas] at hpart
    obtain ⟨c, -, rfl⟩ := List.mem_map.1 hpart
    exact isComparison_text c

/-- Blanks may stand on all sides; a comma at the end is no constraint. -/
example : isConstraint "\u2003>= 1.20-beta ,<2.0.1".toList = true ∧
    isConstraint "1.0,".toList = false := by
  decide

end InfraConfig.Version
