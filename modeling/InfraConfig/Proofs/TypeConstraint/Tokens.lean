import InfraConfig.Text.Split
import InfraConfig.TypeConstraint.Expression
import InfraConfig.TypeConstraint.Text
import InfraConfig.Proofs.Text.Classes

/-! How text is cut into tokens. A character of a name is no blank, no punctuation and no quote
(`isBlank_of_isNameChar`, `punctuation?_of_isNameChar`), so a name is one token wherever the text
after it does not go on with such a character (`tokens_name`). Piece by piece, a text and its tokens
are in the relation `Cut` (`cut_tokens`). An expression that starts with a name has no interpolation
around it (`unwrap_eq_self`). -/
namespace InfraConfig.TypeConstraint

open InfraConfig.Text (isBlank isBlank_of_isAlphanumeric isBlank_of_name takeWhile_append_of_head
  trim trim_eq_self)

variable {c : Char}

/-! ### Characters of names -/

theorem isBlank_of_isNameChar (h : isNameChar c = true) : isBlank c = false := by
  simp only [isNameChar, Bool.or_eq_true, or_assoc] at h
  rcases h with hletter | hmark
  · exact isBlank_of_isAlphanumeric hletter
  · exact isBlank_of_name (by rcases hmark with h | h <;> simp [h])

/-- The characters that are tokens by themselves. -/
def punctuation : List Char := ['(', ')', '{', '}', '[', ']', '=', ':', ',']

theorem mem_of_punctuation? {token : Token} (h : punctuation? c = some token) :
    c ∈ punctuation := by
  unfold punctuation? at h
  split at h <;> simp [punctuation] at h ⊢

theorem punctuation?_of_isNameChar (h : isNameChar c = true) : punctuation? c = none := by
  have hall : punctuation.all (fun c => !isNameChar c) = true := by decide
  cases htoken : punctuation? c with
  | none => rfl
  | some token =>
    have hc := List.all_eq_true.1 hall c (mem_of_punctuation? htoken)
    rw [h] at hc
    cases hc

theorem ne_quote_of_isNameChar (h : isNameChar c = true) : c ≠ '"' := by
  rintro rfl
  exact absurd h (by decide)

/-! ### Tokens one by one -/

theorem tokens_blank (hblank : isBlank c = true) (s : List Char) : tokens (c :: s) = tokens s := by
  rw [tokens, if_pos hblank]

theorem isBlank_of_punctuation? {token : Token} (h : punctuation? c = some token) :
    isBlank c = false := by
  have hall : punctuation.all (fun c => !isBlank c) = true := by decide
  simpa using List.all_eq_true.1 hall c (mem_of_punctuation? h)

theorem tokens_punctuation {token : Token} (h : punctuation? c = some token) (s : List Char) :
    tokens (c :: s) = token :: tokens s := by
  rw [tokens, isBlank_of_punctuation? h, if_neg Bool.false_ne_true, h]

/-- No name goes on at the start of a text. -/
def Separated (s : List Char) : Prop := ∀ c, s.head? = some c → isNameChar c = false

theorem separated_nil : Separated [] := fun _ h => by cases h

theorem separated_cons (h : isNameChar c = false) (s : List Char) : Separated (c :: s) := by
  rintro _ ⟨⟩
  exact h

/-- Whether a text is one name. -/
def IsName (name : String) : Prop :=
  name.toList ≠ [] ∧ ∀ c ∈ name.toList, isNameChar c = true

instance (name : String) : Decidable (IsName name) :=
  decidable_of_iff (name.toList ≠ [] ∧ name.toList.all isNameChar = true) (by
    rw [IsName, List.all_eq_true])

theorem isName_any : IsName "any" := by decide

theorem isName_name (p : Primitive) : IsName p.name := by
  cases p <;> decide

/-- A name is one token. -/
theorem tokens_name {name : String} (h : IsName name) {rest : List Char} (hrest : Separated rest) :
    tokens (name.toList ++ rest) = .ident name :: tokens rest := by
  obtain ⟨hne, hname⟩ := h
  cases hchars : name.toList with
  | nil => exact absurd hchars hne
  | cons c more =>
    rw [hchars] at hname
    have hc := hname c List.mem_cons_self
    obtain ⟨htake, hdrop⟩ :=
      takeWhile_append_of_head (fun d hd => hname d (List.mem_cons_of_mem c hd)) hrest
    rw [List.cons_append, tokens, isBlank_of_isNameChar hc, if_neg Bool.false_ne_true,
      punctuation?_of_isNameChar hc]
    simp only [if_neg (ne_quote_of_isNameChar hc), if_pos hc, htake, hdrop]
    rw [← hchars, String.ofList_toList]

section Quoted
variable {name : List Char} (hname : '"' ∉ name)

include hname

theorem takeWhile_quote {rest : List Char} (hrest : ∀ c, rest.head? = some c → c = '"') :
    (name ++ rest).takeWhile (· ≠ '"') = name ∧ (name ++ rest).dropWhile (· ≠ '"') = rest := by
  apply takeWhile_append_of_head
  · intro c hc
    rw [decide_eq_true_eq]
    rintro rfl
    exact hname hc
  · intro c hc
    rw [hrest c hc]
    rfl

/-- What stands between quotes is one token. -/
theorem tokens_quoted (rest : List Char) :
    tokens ('"' :: (name ++ '"' :: rest)) = .ident (String.ofList name) :: tokens rest := by
  have hquote : ∀ c, ('"' :: rest).head? = some c → c = '"' := by
    rintro _ ⟨⟩
    rfl
  obtain ⟨htake, hdrop⟩ := takeWhile_quote hname hquote
  have hblank : isBlank '"' = false := by decide
  rw [tokens, hblank, htake, hdrop]
  rfl

end Quoted

theorem tokens_unexpected (hblank : isBlank c = false) (hpunctuation : punctuation? c = none)
    (hquote : c ≠ '"') (hname : isNameChar c = false) (s : List Char) :
    tokens (c :: s) = .unexpected :: tokens s := by
  rw [tokens, hblank, if_neg Bool.false_ne_true, hpunctuation]
  simp only [if_neg hquote, hname, Bool.false_eq_true, if_false]

/-- How a text is cut into tokens, piece by piece. -/
inductive Cut : List Char → List Token → Prop where
  | nil : Cut [] []
  | blank {c : Char} {s : List Char} {ts : List Token} (isBlank : isBlank c = true)
      (more : Cut s ts) : Cut (c :: s) ts
  | punctuation {c : Char} {token : Token} {s : List Char} {ts : List Token}
      (isPunctuation : punctuation? c = some token) (more : Cut s ts) : Cut (c :: s) (token :: ts)
  | name {name : String} {s : List Char} {ts : List Token} (isName : IsName name)
      (separated : Separated s) (more : Cut s ts) : Cut (name.toList ++ s) (.ident name :: ts)
  | quoted {name s : List Char} {ts : List Token} (unquoted : '"' ∉ name) (more : Cut s ts) :
      Cut ('"' :: (name ++ '"' :: s)) (.ident (String.ofList name) :: ts)
  | unclosed {name : List Char} (unquoted : '"' ∉ name) :
      Cut ('"' :: name) [.ident (String.ofList name)]
  | unexpected {c : Char} {s : List Char} {ts : List Token} (notBlank : isBlank c = false)
      (notPunctuation : punctuation? c = none) (notQuote : c ≠ '"') (notName : isNameChar c = false)
      (more : Cut s ts) : Cut (c :: s) (.unexpected :: ts)

/-- A text without quotes, or its front up to the first one. -/
theorem quote_cases (s : List Char) :
    '"' ∉ s ∨ ∃ name rest, s = name ++ '"' :: rest ∧ '"' ∉ name := by
  by_cases h : '"' ∈ s
  · exact .inr (List.eq_append_cons_of_mem h)
  · exact .inl h

theorem cut_tokens (s : List Char) : Cut s (tokens s) := by
  fun_induction tokens s with
  | case1 => exact .nil
  | case2 c s hblank ih => exact .blank hblank ih
  | case3 c s hblank token hpunctuation ih => exact .punctuation hpunctuation ih
  | case4 s hblank hpunctuation ih =>
    obtain hname | ⟨name, rest, rfl, hname⟩ := quote_cases s
    · have hnil : ∀ c, ([] : List Char).head? = some c → c = '"' := nofun
      obtain ⟨htake, hdrop⟩ := takeWhile_quote hname hnil
      rw [List.append_nil] at htake hdrop
      rw [htake, hdrop, List.drop_nil, tokens]
      exact .unclosed hname
    · have hquote : ∀ c, ('"' :: rest).head? = some c → c = '"' := by
        rintro _ ⟨⟩
        rfl
      obtain ⟨htake, hdrop⟩ := takeWhile_quote hname hquote
      rw [hdrop, List.drop_one, List.tail_cons] at ih ⊢
      rw [htake]
      exact .quoted hname ih
  | case5 c s hblank hpunctuation hquote hname ih =>
    have hsplit : (String.ofList (c :: s.takeWhile isNameChar)).toList ++ s.dropWhile isNameChar =
        c :: s := by
      rw [String.toList_ofList, List.cons_append, List.takeWhile_append_dropWhile]
    rw [← hsplit]
    refine .name ⟨by simp, ?_⟩ ?_ ih
    · rw [String.toList_ofList]
      intro d hd
      rcases List.mem_cons.1 hd with rfl | hd
      · exact hname
      · exact List.all_eq_true.1 List.all_takeWhile d hd
    · intro d hd
      have hhead := List.head?_dropWhile_not isNameChar s
      rwa [hd] at hhead
  | case6 c s hblank hpunctuation hquote hname ih =>
    rw [Bool.not_eq_true] at hblank hname
    exact .unexpected hblank hpunctuation hquote hname ih

/-! ### Around an expression -/

/-- An expression that starts with a name and does not end with a blank is read as it stands. -/
theorem unwrap_eq_self {s : List Char} (hfirst : ∀ c, s.head? = some c → isNameChar c = true)
    (hlast : ∀ c, s.getLast? = some c → isBlank c = false) : unwrap s = s := by
  have htrim : trim s = s :=
    trim_eq_self (fun c hc => isBlank_of_isNameChar (hfirst c hc)) hlast
  have hdollar : ∀ inner, s ≠ '$' :: '{' :: inner := by
    rintro inner rfl
    exact absurd (hfirst '$' rfl) (by decide)
  rw [unwrap, htrim]
  split
  · next inner => exact absurd rfl (hdollar inner)
  · rfl

end InfraConfig.TypeConstraint
