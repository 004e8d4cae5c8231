import InfraConfig.Proofs.Reference.Grammar
import InfraConfig.Reference.Occurrence

/-! References on both sides of an operator. Text in which no reference starts is passed over when
an expression is read (`references_gap`), so two traversals with such a text between them are the
two references of the expression (`ofInterpolation_pair`). Every operator is such a text, whatever
the blanks around it. The star alone is also a character of attribute names: right behind a name it
is read as a part of that name, and a name that follows it at once too (`localNames_operation`). -/
namespace InfraConfig

open Text (isBlank allBlank trimStart trim trim_eq_self trimStart_append_of_allBlank)
open Template (Piece)
open Reference (IsAttributeName localText spelled_localText)

namespace Reference

/-! ### Text between references -/

/-- Text in which no traversal and no quoted text starts. -/
def IsGap (gap : List Char) : Prop := ∀ c ∈ gap, isRootStart c = false ∧ c ≠ '"'

/-- A gap is cut into its characters; only the last of them shows in what follows. -/
theorem fragmentsFrom_gap {gap : List Char} (hgap : IsGap gap) (before : Option Char)
    (s : List Char) :
    fragmentsFrom .outside before (gap ++ s) =
      gap.map (fun c => .text [c]) ++ fragmentsFrom .outside (gap.getLast?.or before) s := by
  induction gap generalizing before with
  | nil => rfl
  | cons c gap ih =>
    obtain ⟨hc, hrest⟩ := List.forall_mem_cons.1 hgap
    have hlast : (c :: gap).getLast?.or before = gap.getLast?.or (some c) := by
      cases hgap' : gap.getLast? <;> simp [List.getLast?_cons, hgap']
    rw [List.cons_append, fragmentsFrom_char (readToken?_of_not_isRootStart hc.1 _) hc.2, hlast,
      ih hrest]
    rfl

/-- A gap adds no reference. -/
theorem references_gap {gap : List Char} (hgap : IsGap gap) (before : Option Char)
    (s : List Char) :
    (fragmentsFrom .outside before (gap ++ s)).filterMap Fragment.reference? =
      (fragmentsFrom .outside (gap.getLast?.or before) s).filterMap Fragment.reference? := by
  have hnone : (gap.map fun c => Fragment.text [c]).filterMap Fragment.reference? = [] := by
    simp [Fragment.reference?]
  rw [fragmentsFrom_gap hgap, List.filterMap_append, hnone, List.nil_append]

theorem references_token {before : Option Char} {s : List Char} {token : Token}
    (h : readToken? s = some token) (hbefore : before.any continues = false)
    (hcalled : isCalled token.rest = false) :
    (fragmentsFrom .outside before s).filterMap Fragment.reference? =
      token.reference ::
        (fragmentsFrom .outside token.chars.getLast? token.rest).filterMap Fragment.reference? := by
  rw [fragmentsFrom_token h, Token.fragment, hbefore, hcalled]
  rfl

section Pair
variable {t₁ t₂ : Traversal} {text₁ text₂ gap : List Char} (h₁ : t₁.Spelled text₁)
  (h₂ : t₂.Spelled text₂)

include h₁ h₂ in
theorem ofChars?_pair (hne : gap ≠ []) (hends : Segment.Ends (gap ++ text₂)) :
    ofChars? (text₁ ++ (gap ++ text₂)) = none := by
  have htrim : trim (text₁ ++ (gap ++ text₂)) = text₁ ++ (gap ++ text₂) := by
    apply trim_eq_self
    · intro c hc
      rw [List.head?_append, List.head?_eq_some_head h₁.ne_nil] at hc
      cases hc
      exact isBlank_of_isTraversalChar (h₁.isTraversalChar _ (List.head_mem h₁.ne_nil))
    · intro c hc
      rw [← List.append_assoc, List.getLast?_append, List.getLast?_eq_some_getLast h₂.ne_nil] at hc
      cases hc
      exact isBlank_of_isTraversalChar (h₂.isTraversalChar _ (List.getLast_mem h₂.ne_nil))
  have hread := Traversal.read?_of_spelled h₁ hends
  obtain ⟨c, more, hrest⟩ :=
    List.exists_cons_of_ne_nil (List.append_ne_nil_of_left_ne_nil hne text₂)
  simp only [ofChars?, htrim, hread]
  rw [hrest]
  split <;> rfl

include h₁ h₂ in
/-- Two traversals with a gap between them are two references. -/
theorem ofInterpolation_pair (haccess₁ : t₁.accesses ≠ []) (haccess₂ : t₂.accesses ≠ [])
    (hne : gap ≠ []) (hgap : IsGap gap) (hends : Segment.Ends (gap ++ text₂))
    (hcalled : isCalled (gap ++ text₂) = false)
    (hlast : ∀ c, gap.getLast? = some c → continues c = false) :
    ofInterpolation (text₁ ++ (gap ++ text₂)) = [ofTraversal text₁ t₁, ofTraversal text₂ t₂] := by
  have hfirst := readToken?_of_spelled h₁ haccess₁ hends
  have hsecond := readToken?_of_spelled h₂ haccess₂ Segment.ends_nil
  rw [List.append_nil] at hsecond
  have hbefore : (gap.getLast?.or text₁.getLast?).any continues = false := by
    rw [List.getLast?_eq_some_getLast hne]
    exact hlast _ (List.getLast?_eq_some_getLast hne)
  rw [ofInterpolation, ofChars?_pair h₁ h₂ hne hends, references_embedded, fragments,
    references_token hfirst rfl hcalled]
  show _ :: (fragmentsFrom _ _ (gap ++ text₂)).filterMap _ = _
  rw [references_gap hgap, references_token hsecond hbefore rfl, fragmentsFrom]
  rfl

end Pair

end Reference

/-! ### Operators -/

/-- The binary operators. The minus sign is none of them: it may stand in a name. -/
def operators : List String := ["+", "*", "/", "%", "==", "!=", "<", ">", "<=", ">=", "&&", "||"]

/-- A character that may stand between two references: it starts neither of them, and the one after
it does not go on with anything. -/
def isSeparator (c : Char) : Bool :=
  !isRootStart c && !Reference.continues c && c != '"' && c != '}' && c != '('

theorem isSeparator_iff {c : Char} :
    isSeparator c = true ↔ isRootStart c = false ∧ Reference.continues c = false ∧ c ≠ '"' ∧
      c ≠ '}' ∧ c ≠ '(' := by
  simp [isSeparator, and_assoc]

theorem not_isTraversalChar_of_isBlank {c : Char} (h : isBlank c = true) :
    isTraversalChar c = false := by
  cases htraversal : isTraversalChar c with
  | false => rfl
  | true =>
    rw [isBlank_of_isTraversalChar htraversal] at h
    cases h

theorem isSeparator_of_isBlank {c : Char} (h : isBlank c = true) : isSeparator c = true := by
  have hno := not_isTraversalChar_of_isBlank h
  have hattribute : isAttributeChar c ≠ true := fun hc => by
    rw [isTraversalChar_of_isAttributeChar hc] at hno
    cases hno
  have hothers : ['.', ')', ']', '"', '}', '('].all (fun d => !isBlank d) = true := by
    decide +kernel
  have hne : ∀ d ∈ ['.', ')', ']', '"', '}', '('], c ≠ d := by
    rintro d hd rfl
    have hblank := List.all_eq_true.1 hothers c hd
    rw [h] at hblank
    cases hblank
  refine isSeparator_iff.2 ⟨?_, ?_, hne _ (by simp), hne _ (by simp), hne _ (by simp)⟩
  · cases hstart : isRootStart c with
    | false => rfl
    | true =>
      exact absurd (isAttributeChar_of_isRootChar (isRootChar_of_isRootStart hstart)) hattribute
  · cases hdigit : c.isDigit with
    | false => simp [Reference.continues, hdigit, hne '.', hne ')', hne ']']
    | true => exact absurd (by simp [isAttributeChar, Char.isAlphanum, hdigit]) hattribute

theorem isSeparator_of_mem_operators {op : String} (hop : op ∈ operators) :
    ∀ c ∈ op.toList, isSeparator c = true := by
  have hall : operators.all (fun op => op.toList.all isSeparator) = true := by decide
  exact List.all_eq_true.1 (List.all_eq_true.1 hall op hop)

theorem toList_ne_nil_of_mem_operators {op : String} (hop : op ∈ operators) : op.toList ≠ [] := by
  have hall : ∀ op ∈ operators, op.toList ≠ [] := by decide
  exact hall op hop

/-- No traversal goes on with an operator, the star apart. -/
theorem ends_of_mem_operators {op : String} (hop : op ∈ operators) (hstar : op ≠ "*") :
    Segment.Ends op.toList := by
  have hall : operators.all (fun op => op == "*" || op.toList.head?.all fun c =>
      !isAttributeChar c && c != '.' && c != '[') = true := by decide
  have hfirst := List.all_eq_true.1 hall op hop
  intro c hc
  simpa [hstar, hc, and_assoc] using hfirst

theorem ends_of_allBlank {blanks : List Char} (h : allBlank blanks = true) :
    Segment.Ends blanks := by
  intro c hc
  have hblank := List.all_eq_true.1 h c (List.mem_of_mem_head? hc)
  have hno := not_isTraversalChar_of_isBlank hblank
  simp only [isTraversalChar, Bool.or_eq_false_iff, beq_eq_false_iff_ne] at hno
  exact and_assoc.1 hno.1

/-! ### Names of local values -/

/-- A name of letters, digits and underscores that does not start with a digit. -/
def isPlainName (name : String) : Bool :=
  match name.toList with
  | [] => false
  | c :: s => isRootStart c && s.all fun d => d.isAlphanum || d == '_'

theorem chars_of_isPlainName {name : String} (h : isPlainName name = true) :
    name.toList ≠ [] ∧ ∀ c ∈ name.toList, isAttributeChar c = true ∧ c ≠ '*' := by
  unfold isPlainName at h
  split at h
  · cases h
  · next c s hname =>
    simp only [Bool.and_eq_true, List.all_eq_true, isRootStart] at h
    refine ⟨by simp [hname], ?_⟩
    rw [hname]
    intro d hd
    have hword : (d.isAlphanum || d == '_') = true := by
      rcases List.mem_cons.1 hd with rfl | hd
      · simp only [Char.isAlphanum, Bool.or_eq_true] at h ⊢
        rcases h.1 with halpha | hunderscore
        · exact .inl (.inl halpha)
        · exact .inr hunderscore
      · exact h.2 d hd
    constructor
    · simp [isAttributeChar, hword]
    · rintro rfl
      revert hword
      decide

theorem isAttributeName_of_isPlainName {name : String} (h : isPlainName name = true) :
    IsAttributeName name.toList := by
  obtain ⟨hne, hchars⟩ := chars_of_isPlainName h
  refine ⟨hne, fun hstar => ?_, fun c hc => (hchars c hc).1⟩
  rw [hstar] at hchars
  exact (hchars '*' List.mem_cons_self).2 rfl

/-! ### Operations -/

/-- The expression of an operation on two local values, with the blanks around the operator. -/
def operation (a : String) (before : List Char) (op : String) (after : List Char) (b : String) :
    List Char :=
  localText a.toList ++ (before ++ op.toList ++ after ++ localText b.toList)

/-- Two local values with separators between them that no traversal goes on with. -/
theorem ofInterpolation_locals {x y gap : List Char} (hx : IsAttributeName x)
    (hy : IsAttributeName y) (hne : gap ≠ []) (hgap : ∀ c ∈ gap, isSeparator c = true)
    (hends : Segment.Ends gap) :
    Reference.ofInterpolation (localText x ++ (gap ++ localText y)) =
      [.localValue (String.ofList x) [], .localValue (String.ofList y) []] := by
  have hfirst := spelled_localText hx .nil
  have hsecond := spelled_localText hy .nil
  rw [List.append_nil] at hfirst hsecond
  have hcalled : Reference.isCalled (gap ++ localText y) = false := by
    have hround : ∀ c ∈ gap ++ localText y, c ≠ '(' := by
      intro c hc
      rcases List.mem_append.1 hc with hc | hc
      · exact (isSeparator_iff.1 (hgap c hc)).2.2.2.2
      · rintro rfl
        exact absurd (hsecond.isTraversalChar _ hc) (by decide)
    rw [Reference.isCalled, beq_eq_false_iff_ne]
    intro hhead
    exact hround _ ((List.dropWhile_suffix isBlank).subset (List.mem_of_mem_head? hhead)) rfl
  exact Reference.ofInterpolation_pair hfirst hsecond (List.cons_ne_nil _ _) (List.cons_ne_nil _ _)
    hne
    (fun c hc => ⟨(isSeparator_iff.1 (hgap c hc)).1, (isSeparator_iff.1 (hgap c hc)).2.2.1⟩)
    (hends.append hne _) hcalled
    (fun c hc => (isSeparator_iff.1 (hgap c (List.mem_of_mem_getLast? hc))).2.1)

section Operation
variable {a b op : String} {before after : List Char} (ha : isPlainName a = true)
  (hb : isPlainName b = true) (hop : op ∈ operators) (hbefore : allBlank before = true)
  (hafter : allBlank after = true)

include hop hbefore hafter in
theorem isSeparator_of_mem_between :
    ∀ c ∈ before ++ op.toList ++ after, isSeparator c = true := by
  intro c hc
  rcases List.mem_append.1 hc with hc | hc
  · rcases List.mem_append.1 hc with hc | hc
    · exact isSeparator_of_isBlank (List.all_eq_true.1 hbefore c hc)
    · exact isSeparator_of_mem_operators hop c hc
  · exact isSeparator_of_isBlank (List.all_eq_true.1 hafter c hc)

include ha hb hop hbefore hafter

theorem ofInterpolation_operation (h : op = "*" → before ≠ []) :
    Reference.ofInterpolation (operation a before op after b) =
      [.localValue a [], .localValue b []] := by
  have hends : Segment.Ends (before ++ op.toList ++ after) := by
    cases before with
    | nil =>
      have hstar : op ≠ "*" := fun heq => h heq rfl
      exact (ends_of_mem_operators hop hstar).append (toList_ne_nil_of_mem_operators hop) after
    | cons c blanks =>
      rw [List.append_assoc]
      exact (ends_of_allBlank hbefore).append (List.cons_ne_nil c blanks) _
  have hne : before ++ op.toList ++ after ≠ [] := by
    simp [toList_ne_nil_of_mem_operators hop]
  have hlocals := ofInterpolation_locals (isAttributeName_of_isPlainName ha)
    (isAttributeName_of_isPlainName hb) hne
    (isSeparator_of_mem_between hop hbefore hafter) hends
  simpa [operation] using hlocals

end Operation

section Star
variable {a b : String} {after : List Char} (ha : isPlainName a = true)
  (hb : isPlainName b = true) (hafter : allBlank after = true)

theorem isAttributeName_star {name : String} (h : isPlainName name = true) (more : List Char)
    (hmore : ∀ c ∈ more, isAttributeChar c = true) :
    IsAttributeName (name.toList ++ '*' :: more) := by
  obtain ⟨hne, hchars⟩ := chars_of_isPlainName h
  obtain ⟨c, rest, hname⟩ := List.exists_cons_of_ne_nil hne
  refine ⟨by simp, by simp [hname], ?_⟩
  intro d hd
  rcases List.mem_append.1 hd with hd | hd
  · exact (hchars d hd).1
  · rcases List.mem_cons.1 hd with rfl | hd
    · decide
    · exact hmore d hd

include ha hb hafter in
/-- A star right behind a name belongs to the name. -/
theorem ofInterpolation_star_blanks (hne : after ≠ []) :
    Reference.ofInterpolation (operation a [] "*" after b) =
      [.localValue (a ++ "*") [], .localValue b []] := by
  have hlocals := ofInterpolation_locals (isAttributeName_star ha [] (by simp))
    (isAttributeName_of_isPlainName hb) hne
    (fun c hc => isSeparator_of_isBlank (List.all_eq_true.1 hafter c hc)) (ends_of_allBlank hafter)
  simpa [operation, localText] using hlocals

include ha hb in
/-- A star between two names makes one traversal of the operation. -/
theorem ofInterpolation_star :
    Reference.ofInterpolation (operation a [] "*" [] b) =
      [.localValue (a ++ "*local") [.attribute b]] := by
  obtain ⟨hne, hstar, hchars⟩ := isAttributeName_of_isPlainName hb
  have hattribute := Segment.Spelled.named hne hchars .nil
  rw [Segment.ofAttribute, if_neg hstar, String.ofList_toList] at hattribute
  have hlocal := isAttributeName_star ha "local".toList (List.all_eq_true.1 (by decide))
  have hspelled := spelled_localText hlocal hattribute
  have hoperation : operation a [] "*" [] b =
      localText (a.toList ++ '*' :: "local".toList) ++ '.' :: (b.toList ++ []) := by
    simp [operation, localText, Reference.localRoot]
  rw [hoperation, Reference.ofInterpolation,
    Reference.ofChars?_of_spelled hspelled (List.cons_ne_nil _ _)]
  simp [Reference.ofTraversal]

end Star

theorem localNames_interpolation {raw : List Char} (hbrace : '}' ∉ raw)
    (hblank : allBlank raw = false) :
    (Value.string (String.ofList (Piece.interpolation raw).chars)).localNames =
      ((Reference.ofInterpolation raw).eraseDups.filterMap Reference.localName?).eraseDups := by
  rw [Value.localNames, Value.references, Value.allReferences, String.toList_ofList,
    Reference.ofText_interpolation hbrace hblank]

/-- Every operator separates the local values on its sides, whatever the blanks around it, except
for a star right behind the first name: that makes a name of the two, and if nothing separates it
from the second operand, of all three. -/
theorem localNames_operation {a b op : String} {before after : List Char}
    (ha : isPlainName a = true) (hb : isPlainName b = true) (hop : op ∈ operators)
    (hbefore : allBlank before = true) (hafter : allBlank after = true) :
    (Value.string
        (String.ofList (Piece.interpolation (operation a before op after b)).chars)).localNames =
      if op = "*" ∧ before = [] then
        if after = [] then [a ++ "*local"] else [a ++ "*", b]
      else [a, b].eraseDups := by
  have hbrace : '}' ∉ operation a before op after b := by
    have ha' := (spelled_localText (isAttributeName_of_isPlainName ha) .nil).isTraversalChar
    have hb' := (spelled_localText (isAttributeName_of_isPlainName hb) .nil).isTraversalChar
    have hbetween := isSeparator_of_mem_between hop hbefore hafter
    simp only [List.append_nil] at ha' hb'
    intro hmem
    rcases List.mem_append.1 hmem with hmem | hmem
    · exact absurd (ha' _ hmem) (by decide)
    · rcases List.mem_append.1 hmem with hmem | hmem
      · exact absurd (hbetween _ hmem) (by decide)
      · exact absurd (hb' _ hmem) (by decide)
  have hblank : allBlank (operation a before op after b) = false := rfl
  rw [localNames_interpolation hbrace hblank]
  split
  · next hglued =>
    obtain ⟨rfl, rfl⟩ := hglued
    split
    · next hnil =>
      rw [hnil, ofInterpolation_star ha hb]
      rfl
    · next hne =>
      have hnames : b ≠ a ++ "*" := by
        rintro rfl
        exact ((chars_of_isPlainName hb).2 '*' (by simp)).2 rfl
      rw [ofInterpolation_star_blanks ha hb hafter hne]
      simp [List.eraseDups_cons, Reference.localName?, hnames]
  · next hseparated =>
    have hstar : op = "*" → before ≠ [] := fun hop hnil => hseparated ⟨hop, hnil⟩
    rw [ofInterpolation_operation ha hb hop hbefore hafter hstar]
    by_cases hsame : b = a
    · simp [List.eraseDups_cons, Reference.localName?, hsame]
    · simp [List.eraseDups_cons, Reference.localName?, hsame]

theorem localNames_operation_spaced :
    (isPlainName "count_1" = true ∧ isPlainName "_max" = true ∧ "*" ∈ operators ∧
      allBlank [' '] = true ∧ allBlank [] = true) ∧
    (Value.string "${local.count_1 *local._max}").localNames = ["count_1", "_max"] := by
  have hholds : isPlainName "count_1" = true ∧ isPlainName "_max" = true ∧ "*" ∈ operators ∧
      allBlank [' '] = true ∧ allBlank [] = true := by decide
  obtain ⟨hcount, hmax, hop, hspace, hnone⟩ := hholds
  have hnames := localNames_operation hcount hmax hop hspace hnone
  have htext : String.ofList (Piece.interpolation (operation "count_1" [' '] "*" [] "_max")).chars =
      "${local.count_1 *local._max}" := by decide
  rw [htext] at hnames
  exact ⟨⟨hcount, hmax, hop, hspace, hnone⟩, hnames⟩

/-- A product of two local values, written without blanks, depends on neither of them. -/
theorem localNames_product :
    isPlainName "a" = true ∧ isPlainName "b" = true ∧ "*" ∈ operators ∧
    operation "a" [] "*" [] "b" = "local.a*local.b".toList ∧
    (Value.string "${local.a*local.b}").localNames = ["a*local"] ∧
    (Value.string "${local.a*local.b}").localNames ≠ ["a", "b"] := by
  decide +kernel

end InfraConfig
