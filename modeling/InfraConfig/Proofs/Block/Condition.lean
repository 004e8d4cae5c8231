import InfraConfig.Block.Variable
import InfraConfig.Document.Declarations

/-! Conditions that are written as one interpolation. An interpolation is closed by the first brace
that follows, so that the condition of a rule is unwrapped only if no brace is in it: then it is read
as the bare condition is. With a brace, be it of an object or in a quoted text, the interpolation is
taken for the expression, and no expression starts with a dollar sign (`isExpression_dollar`). -/
namespace InfraConfig

open Text (allBlank trim trim_eq_nil_iff trim_eq_self)
open Document (Part)

/-! ### Delimiters of an interpolation -/

namespace Document

theorem readTerm?_dollar (fuel : Nat) (s : List Char) : readTerm? fuel ('$' :: s) = none := by
  have hident : readIdent? ('$' :: s) = none := rfl
  have hnumber : readNumber? ('$' :: s) = none := rfl
  cases fuel with
  | zero => rfl
  | succ fuel => simp [readTerm?, hident, hnumber]

theorem isExpression_dollar (s : List Char) : isExpression ('$' :: s) = false := by
  simp [isExpression, readExpression?, readExpr?, readTerm?_dollar]

theorem Part.trim_text_interpolation (source : List Char) :
    trim (Part.interpolation source).text = (Part.interpolation source).text := by
  apply trim_eq_self
  · intro c hc
    obtain rfl : '$' = c := by simpa [Part.text] using hc
    decide
  · intro c hc
    rw [Part.text, List.getLast?_concat] at hc
    cases hc
    decide

end Document

namespace ValidationRule

variable {e : List Char}

/-! ### The expression of a condition -/

theorem expression_bare (h : ¬ ['$', '{'] <+: trim e) : expression (String.ofList e) = trim e := by
  have hwhole : Template.whole? (trim e) = none := by
    rw [Option.eq_none_iff_forall_ne_some]
    intro raw hraw
    apply h
    rw [(Template.whole?_eq_some_iff.1 hraw).1]
    exact ⟨raw ++ ['}'], rfl⟩
  simp [expression, hwhole]

theorem expression_interpolation (h : trim e ≠ []) :
    expression (String.ofList (Part.interpolation e).text) =
      if '}' ∈ e then (Part.interpolation e).text else trim e := by
  have hwhole : Template.whole? (Part.interpolation e).text = if '}' ∈ e then none else some e := by
    split
    · next hbrace =>
      rw [Option.eq_none_iff_forall_ne_some]
      intro raw hraw
      obtain ⟨htext, hno, -⟩ := Template.whole?_eq_some_iff.1 hraw
      have heq : e = raw := by simpa [Part.text, Template.Piece.chars] using htext
      exact hno (heq ▸ hbrace)
    · next hbrace =>
      have hblank : allBlank e = false := by simpa [trim_eq_nil_iff] using h
      exact Template.whole?_eq_some_iff.2 ⟨rfl, hbrace, hblank⟩
  simp only [expression, String.toList_ofList, Part.trim_text_interpolation, hwhole]
  by_cases hbrace : '}' ∈ e
  · simp only [if_pos hbrace]
  · simp only [if_neg hbrace]

/-! ### Rules -/

/-- A rule with a condition of its own. -/
def withCondition (members : Keyed Value) (condition : List Char) : Value :=
  .object (Keyed.insert members "condition" (.string (String.ofList condition)))

variable (d : Declaration) (index : Nat) (members : Keyed Value)

theorem condition?_withCondition (condition : List Char) :
    condition? (withCondition members condition) = some (String.ofList condition) := by
  simp [condition?, withCondition, Value.member?, Keyed.lookup_insert_self]

theorem errorMessage_withCondition (condition : List Char) :
    (withCondition members condition).member? "error_message" = members.lookup "error_message" :=
  Keyed.lookup_insert_of_ne members _ (by decide)

theorem isOk_read_withCondition (condition : List Char) :
    (read d index (withCondition members condition)).isOk = true ↔
      ((members.lookup "error_message").bind Value.string?).isSome = true ∧
        Document.isExpression (expression (String.ofList condition)) = true := by
  simp only [read, condition?_withCondition, errorMessage_withCondition]
  split
  · next hmessage => simp [hmessage, Except.isOk, Except.toBool]
  · next errorMessage hmessage =>
    rw [hmessage]
    split
    · next hexpression => simp [hexpression, Except.isOk, Except.toBool]
    · next hexpression => simp [hexpression, Except.isOk, Except.toBool]

/-- A condition that is wrapped into one interpolation, as documents declare it, is taken for the
expression in it unless a brace is in that; a rule is accepted with the one exactly if it is accepted
with the other and there is no brace. -/
theorem expression_wrapped (e : List Char) (hblank : trim e ≠ []) (hbare : ¬ ['$', '{'] <+: trim e) :
    expression (String.ofList e) = trim e ∧
    expression (String.ofList (Part.interpolation e).text) =
      (if '}' ∈ e then (Part.interpolation e).text else trim e) ∧
    ∀ (d : Declaration) (index : Nat) (members : Keyed Value),
      (read d index (withCondition members (Part.interpolation e).text)).isOk = true ↔
        '}' ∉ e ∧ (read d index (withCondition members e)).isOk = true := by
  have hwrapped := expression_interpolation hblank
  refine ⟨expression_bare hbare, hwrapped, fun d index members => ?_⟩
  simp only [isOk_read_withCondition, expression_bare hbare, hwrapped]
  split
  · next hbrace =>
    -- the delimiters stay, and no reader of expressions gets past the first of them
    have hrefused : Document.isExpression (Part.interpolation e).text = false :=
      Document.isExpression_dollar _
    simp [hbrace, hrefused]
  · next hbrace => simp [hbrace]

/-- A comparison is unwrapped. -/
theorem expression_wrapped_comparison :
    trim "length(var.azs) > 0".toList ≠ [] ∧
    ¬ ['$', '{'] <+: trim "length(var.azs) > 0".toList ∧
    expression "${length(var.azs) > 0}" = "length(var.azs) > 0".toList := by
  have hblank : trim "length(var.azs) > 0".toList ≠ [] := by decide +kernel
  have hbare : ¬ ['$', '{'] <+: trim "length(var.azs) > 0".toList := by decide +kernel
  obtain ⟨-, hwrapped, -⟩ := expression_wrapped "length(var.azs) > 0".toList hblank hbare
  rw [if_neg (by decide +kernel)] at hwrapped
  exact ⟨hblank, hbare, hwrapped.trans (by decide +kernel)⟩

/-- A quantifier of a regular expression is in braces: the condition is accepted as it is, and
refused as one interpolation. -/
theorem refused_quantifier :
    trim "can(regex(\"^[a-z]{3}$\", var.x))".toList ≠ [] ∧
    ¬ ['$', '{'] <+: trim "can(regex(\"^[a-z]{3}$\", var.x))".toList ∧
    expression (String.ofList (Part.interpolation "can(regex(\"^[a-z]{3}$\", var.x))".toList).text) ≠
      expression "can(regex(\"^[a-z]{3}$\", var.x))" ∧
    (read ⟨.variable, "x", []⟩ 0 (withCondition [("error_message", .string "m")]
      "can(regex(\"^[a-z]{3}$\", var.x))".toList)).isOk = true ∧
    (read ⟨.variable, "x", []⟩ 0 (withCondition [("error_message", .string "m")]
      (Part.interpolation "can(regex(\"^[a-z]{3}$\", var.x))".toList).text)).isOk = false := by
  decide +kernel

end ValidationRule

end InfraConfig
