import InfraConfig.Reference.Basic
import InfraConfig.Text.Split

/-! References inside compound expressions, such as `upper(local.name)`. An expression is read
from left to right; text between double quotes is passed over, a backslash hiding the character
after it. Elsewhere the longest traversal with at least one access is a token. A token is a
reference unless it continues an access, a closing bracket or a number, or is called. The lemma
`chars_fragments` says that the reading loses nothing. -/
namespace InfraConfig

open Text (trimStart utf8Length)

/-- Where a character stands with respect to quotes. -/
inductive Quoting where
  | outside
  | inside
  | escaped
deriving DecidableEq, Repr

namespace Quoting

/-- Where the character after `c` stands. -/
def next : Quoting → Char → Quoting
  | .outside, c => if c = '"' then .inside else .outside
  | .inside, c => if c = '\\' then .escaped else if c = '"' then .outside else .inside
  | .escaped, _ => .inside

end Quoting

/-- A piece of a compound expression. -/
inductive Fragment where
  | text (chars : List Char)
  | reference (chars : List Char) (reference : Reference)
deriving DecidableEq, Repr

namespace Fragment

/-- The text of a fragment. -/
def chars : Fragment → List Char
  | .text cs => cs
  | .reference cs _ => cs

/-- The reference that a fragment is, if it is one. -/
def reference? : Fragment → Option Reference
  | .text _ => none
  | .reference _ r => some r

end Fragment

namespace Reference

/-- A character after which a traversal is the continuation of something. -/
def continues (c : Char) : Bool := c == '.' || c == ')' || c == ']' || c.isDigit

/-- Whether what follows a traversal makes it the name of a function. -/
def isCalled (rest : List Char) : Bool := (trimStart rest).head? == some '('

/-- A token: the text, the reference it makes, and what follows. -/
structure Token where
  chars : List Char
  reference : Reference
  rest : List Char

/-- Reads the longest traversal in front that has an access. -/
def readToken? (s : List Char) : Option Token :=
  match Traversal.read? s with
  | none | some (⟨_, []⟩, _) => none
  | some (⟨root, access :: path⟩, rest) =>
    let chars := s.take (s.length - rest.length)
    some ⟨chars, ofTraversal chars ⟨root, access :: path⟩, rest⟩

theorem chars_append_rest {s : List Char} {token : Token} (h : readToken? s = some token) :
    token.chars ++ token.rest = s ∧ token.rest.length < s.length := by
  unfold readToken? at h
  split at h
  · simp at h
  · simp at h
  · next hr =>
    simp only [Option.some.injEq] at h
    obtain ⟨⟨front, hfront⟩, hlt⟩ := Traversal.suffix_of_read? hr
    subst h
    refine ⟨?_, hlt⟩
    simp [← hfront]

/-- The fragment made by a token after the character `before`. -/
def Token.fragment (token : Token) (before : Option Char) : Fragment :=
  if before.any continues || isCalled token.rest then .text token.chars
  else .reference token.chars token.reference

@[simp] theorem Token.chars_fragment (token : Token) (before : Option Char) :
    (token.fragment before).chars = token.chars := by
  unfold Token.fragment
  split <;> rfl

/-- The fragments of an expression read from a place between quotes or not, after the character
`before`. -/
def fragmentsFrom : Quoting → Option Char → List Char → List Fragment
  | _, _, [] => []
  | .outside, before, c :: s =>
    match _h : readToken? (c :: s) with
    | none => .text [c] :: fragmentsFrom (Quoting.outside.next c) (some c) s
    | some token =>
      token.fragment before :: fragmentsFrom .outside token.chars.getLast? token.rest
  | quoting, _, c :: s => .text [c] :: fragmentsFrom (quoting.next c) (some c) s
termination_by _ _ s => s.length
decreasing_by
  · simp
  · exact (chars_append_rest ‹_›).2
  · simp

/-- The fragments of an expression. -/
def fragments (s : List Char) : List Fragment := fragmentsFrom .outside none s

/-- The fragments of an expression make up the expression. -/
theorem chars_fragmentsFrom (quoting : Quoting) (before : Option Char) (s : List Char) :
    (fragmentsFrom quoting before s).flatMap Fragment.chars = s := by
  fun_induction fragmentsFrom quoting before s with
  | case1 => rfl
  | case2 before c s h ih => simpa [Fragment.chars] using ih
  | case3 before c s token h ih => simp [ih, (chars_append_rest h).1]
  | case4 quoting before c s hq ih => simpa [Fragment.chars] using ih

theorem chars_fragments (s : List Char) : (fragments s).flatMap Fragment.chars = s :=
  chars_fragmentsFrom ..

/-- A reference inside an expression, with the bytes where it starts and where it has ended. -/
structure Embedded where
  start : Nat
  stop : Nat
  reference : Reference
deriving DecidableEq, Repr

/-- The references of fragments that start at byte `offset`. -/
def embeddedFrom (offset : Nat) : List Fragment → List Embedded
  | [] => []
  | fragment :: rest =>
    let next := offset + utf8Length fragment.chars
    match fragment with
    | .reference _ r => ⟨offset, next, r⟩ :: embeddedFrom next rest
    | .text _ => embeddedFrom next rest

/-- The references inside a compound expression. -/
def embedded (s : List Char) : List Embedded := embeddedFrom 0 (fragments s)

theorem references_embeddedFrom (offset : Nat) (fragments : List Fragment) :
    (embeddedFrom offset fragments).map (·.reference) =
      fragments.filterMap Fragment.reference? := by
  induction fragments generalizing offset with
  | nil => rfl
  | cons fragment rest ih =>
    have hrest := ih (offset + utf8Length fragment.chars)
    cases fragment with
    | text chars => exact hrest
    | reference chars r => exact congrArg (r :: ·) hrest

/-- The references inside an expression are those that its fragments are. -/
theorem references_embedded (s : List Char) :
    (embedded s).map (·.reference) = (fragments s).filterMap Fragment.reference? :=
  references_embeddedFrom 0 (fragments s)

/-! ### Fragments in front -/

theorem fragmentsFrom_token {before : Option Char} {s : List Char} {token : Token}
    (h : readToken? s = some token) :
    fragmentsFrom .outside before s =
      token.fragment before :: fragmentsFrom .outside token.chars.getLast? token.rest := by
  cases s with
  | nil => cases h
  | cons c s =>
    rw [fragmentsFrom]
    split
    · next heq =>
      rw [h] at heq
      cases heq
    · next heq =>
      rw [h] at heq
      cases heq
      rfl

theorem fragmentsFrom_char {before : Option Char} {c : Char} {s : List Char}
    (h : readToken? (c :: s) = none) (hquote : c ≠ '"') :
    fragmentsFrom .outside before (c :: s) =
      .text [c] :: fragmentsFrom .outside (some c) s := by
  rw [fragmentsFrom]
  split
  · rw [Quoting.next, if_neg hquote]
  · next heq =>
    rw [h] at heq
    cases heq

end Reference

end InfraConfig
