import InfraConfig.Text.Blank
import InfraConfig.Text.Split

/-! Texts with interpolations. A text is read from left to right as characters, escapes `$${` and
interpolations `${…}`, each closed by the first brace that follows; an interpolation that is never
closed is plain text. `pieces` is that reading, and `spans` lists the interpolations that are not
blank, with their place in the text in bytes. The lemma `chars_pieces` says that the reading loses
nothing, and `whole?_eq_some_iff` which texts are one interpolation. -/
namespace InfraConfig.Template

open InfraConfig.Text (trim allBlank utf8Length)

/-- A piece of a text. -/
inductive Piece where
  | char (c : Char)
  /-- The escape `$${`. -/
  | escape
  /-- An interpolation, by the text between its delimiters. -/
  | interpolation (inner : List Char)
deriving DecidableEq, Repr

/-- The text up to the first closing brace, and what follows the brace. -/
def closing? : List Char → Option (List Char × List Char)
  | [] => none
  | c :: s =>
    if c = '}' then some ([], s)
    else (closing? s).map fun (inner, rest) => (c :: inner, rest)

theorem closing?_eq {s inner rest : List Char} (h : closing? s = some (inner, rest)) :
    s = inner ++ '}' :: rest := by
  induction s generalizing inner with
  | nil => simp [closing?] at h
  | cons c s ih =>
    unfold closing? at h
    split at h
    · next hc => simp_all
    · simp only [Option.map_eq_some_iff, Prod.exists, Prod.mk.injEq] at h
      obtain ⟨inner', rest', h', rfl, rfl⟩ := h
      simp [← ih h']

theorem length_lt_of_closing? {s inner rest : List Char} (h : closing? s = some (inner, rest)) :
    rest.length < s.length := by
  rw [closing?_eq h]
  simp only [List.length_append, List.length_cons]
  omega

theorem closing?_append {inner : List Char} (h : '}' ∉ inner) (rest : List Char) :
    closing? (inner ++ '}' :: rest) = some (inner, rest) := by
  induction inner with
  | nil => rfl
  | cons c inner ih =>
    obtain ⟨hc, hinner⟩ := not_or.1 (mt List.mem_cons.2 h)
    simp [closing?, Ne.symm hc, ih hinner]

theorem not_mem_of_closing? {s inner rest : List Char} (h : closing? s = some (inner, rest)) :
    '}' ∉ inner := by
  induction s generalizing inner with
  | nil => simp [closing?] at h
  | cons c s ih =>
    unfold closing? at h
    split at h
    · cases h
      exact List.not_mem_nil
    · next hc =>
      simp only [Option.map_eq_some_iff, Prod.exists, Prod.mk.injEq] at h
      obtain ⟨inner', rest', h', rfl, rfl⟩ := h
      exact List.not_mem_cons_of_ne_of_not_mem (Ne.symm hc) (ih h')

/-- The reading of a text. -/
def pieces : List Char → List Piece
  | [] => []
  | '$' :: '$' :: '{' :: s => .escape :: pieces s
  | '$' :: '{' :: s =>
    match _h : closing? s with
    | some (inner, rest) => .interpolation inner :: pieces rest
    | none => .char '$' :: .char '{' :: s.map .char
  | c :: s => .char c :: pieces s
termination_by s => s.length
decreasing_by
  · simp only [List.length_cons]; omega
  · have := length_lt_of_closing? ‹_›
    simp only [List.length_cons]
    omega
  · simp

namespace Piece

/-- The text of a piece. -/
def chars : Piece → List Char
  | .char c => [c]
  | .escape => ['$', '$', '{']
  | .interpolation inner => '$' :: '{' :: inner ++ ['}']

/-- The length of a piece in bytes. -/
def byteLength (p : Piece) : Nat := utf8Length p.chars

end Piece

theorem flatMap_chars_map_char (s : List Char) : (s.map Piece.char).flatMap Piece.chars = s := by
  induction s with
  | nil => rfl
  | cons c s ih => simpa [Piece.chars] using ih

/-- The pieces of a text make up the text. -/
theorem chars_pieces (s : List Char) : (pieces s).flatMap Piece.chars = s := by
  fun_induction pieces s with
  | case1 => rfl
  | case2 s ih => simp [Piece.chars, ih]
  | case3 s inner rest h ih => simp [Piece.chars, ih, closing?_eq h]
  | case4 s h => simp [Piece.chars, flatMap_chars_map_char]
  | case5 c s _ _ ih => simp [Piece.chars, ih]

theorem pieces_interpolation {inner : List Char} (h : '}' ∉ inner) (rest : List Char) :
    pieces ('$' :: '{' :: inner ++ '}' :: rest) = .interpolation inner :: pieces rest := by
  have hclosing := closing?_append h rest
  rw [List.cons_append, List.cons_append, pieces]
  split
  · next heq =>
    rw [hclosing] at heq
    cases heq
    rfl
  · next heq =>
    rw [hclosing] at heq
    cases heq

theorem not_mem_of_mem_pieces {s inner : List Char} (h : .interpolation inner ∈ pieces s) :
    '}' ∉ inner := by
  fun_induction pieces s with
  | case1 => cases h
  | case2 s ih => exact ih (by simpa using h)
  | case3 s inner' rest hclosing ih =>
    obtain heq | hmem := List.mem_cons.1 h
    · cases heq
      exact not_mem_of_closing? hclosing
    · exact ih hmem
  | case4 s _ => simp at h
  | case5 c s _ _ ih => exact ih (by simpa using h)

/-- An interpolation of a text, with the bytes where it starts and where it has ended. -/
structure Span where
  start : Nat
  stop : Nat
  /-- The text between the delimiters. -/
  raw : List Char
deriving DecidableEq, Repr

namespace Span

/-- The text between the delimiters without the blanks at its ends. -/
def inner (span : Span) : List Char := trim span.raw

end Span

/-- The spans of pieces that start at byte `offset`. -/
def spansFrom (offset : Nat) : List Piece → List Span
  | [] => []
  | piece :: rest =>
    let next := offset + piece.byteLength
    match piece with
    | .interpolation raw =>
      if allBlank raw then spansFrom next rest else ⟨offset, next, raw⟩ :: spansFrom next rest
    | _ => spansFrom next rest

/-- The interpolations of a text that are not blank. -/
def spans (s : List Char) : List Span := spansFrom 0 (pieces s)

theorem pieces_of_not_mem {s : List Char} (h : '$' ∉ s) : pieces s = s.map .char := by
  induction s with
  | nil => rw [pieces, List.map_nil]
  | cons c s ih =>
    obtain ⟨hc, hs⟩ := not_or.1 (mt List.mem_cons.2 h)
    rw [pieces.eq_4, ih hs, List.map_cons]
    · rintro _ rfl
      exact absurd rfl hc
    · rintro _ rfl
      exact absurd rfl hc

/-- A text without a dollar sign has no interpolations. -/
theorem spans_of_not_mem {s : List Char} (h : '$' ∉ s) : spans s = [] := by
  suffices hchars : ∀ offset, spansFrom offset (s.map .char) = [] by
    rw [spans, pieces_of_not_mem h]
    exact hchars 0
  clear h
  induction s with
  | nil => exact fun _ => rfl
  | cons c s ih => exact fun offset => ih _

/-- The inside of an interpolation that makes up the whole text, if the text is one. -/
def whole? (s : List Char) : Option (List Char) :=
  match pieces s with
  | [.interpolation raw] => if allBlank raw then none else some raw
  | _ => none

theorem pieces_of_whole? {s raw : List Char} (h : whole? s = some raw) :
    pieces s = [.interpolation raw] ∧ allBlank raw = false := by
  unfold whole? at h
  split at h
  · next inner hpieces =>
    split at h
    · cases h
    · next hblank =>
      cases h
      exact ⟨hpieces, by simpa using hblank⟩
  · cases h

/-- A text is one interpolation if the delimiters enclose something that is not blank and holds no
closing brace. -/
theorem whole?_eq_some_iff {s raw : List Char} :
    whole? s = some raw ↔
      s = (Piece.interpolation raw).chars ∧ '}' ∉ raw ∧ allBlank raw = false := by
  constructor
  · intro h
    obtain ⟨hpieces, hblank⟩ := pieces_of_whole? h
    have hmem : .interpolation raw ∈ pieces s := by simp [hpieces]
    refine ⟨?_, not_mem_of_mem_pieces hmem, hblank⟩
    simpa [hpieces] using (chars_pieces s).symm
  · rintro ⟨rfl, hbrace, hblank⟩
    have hpieces : pieces (Piece.interpolation raw).chars = [.interpolation raw] := by
      rw [Piece.chars, pieces_interpolation hbrace, pieces]
    simp [whole?, hpieces, hblank]

end InfraConfig.Template
