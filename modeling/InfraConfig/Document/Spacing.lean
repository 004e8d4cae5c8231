import InfraConfig.Text.Split

/-! Blanks and comments of documents. Within a line there are blanks, tabs and comments between
`/*` and `*/`; across lines there are also line ends and comments that go on to the end of a
line. -/
namespace InfraConfig.Document

open InfraConfig.Text (splitFirst? splitFirst?_eq)

/-- Where an expression may be broken: it has to stay on its line, or it may go on over line ends
because it stands in brackets. -/
inductive Extent where
  | oneLine
  | manyLines
deriving DecidableEq, Repr

/-- What follows the end of a comment that has been opened. -/
def afterComment? (s : List Char) : Option (List Char) :=
  (splitFirst? ['*', '/'] s).map (·.2)

/-- What is left of a text from the end of its first line on. -/
def dropLine (s : List Char) : List Char := s.dropWhile (· ≠ '\n')

theorem length_lt_of_afterComment? {s rest : List Char} (h : afterComment? s = some rest) :
    rest.length < s.length := by
  simp only [afterComment?, Option.map_eq_some_iff, Prod.exists] at h
  obtain ⟨before, after, h, rfl⟩ := h
  rw [splitFirst?_eq h]
  simp only [List.length_append, List.length_cons]
  omega

theorem length_dropLine_le (s : List Char) : (dropLine s).length ≤ s.length :=
  (List.dropWhile_suffix (· ≠ '\n') (l := s)).length_le

/-- Drops blanks and comments. A comment that is never closed stays. -/
def skip (extent : Extent) : List Char → List Char
  | [] => []
  | '/' :: '*' :: s =>
    match _h : afterComment? s with
    | some rest => skip extent rest
    | none => '/' :: '*' :: s
  | '/' :: '/' :: s =>
    if extent = .manyLines then skip extent (dropLine s) else '/' :: '/' :: s
  | c :: s =>
    if c = ' ' || c = '\t' then skip extent s
    else if extent = .manyLines && (c = '\n' || c = '\r') then skip extent s
    else if extent = .manyLines && c = '#' then skip extent (dropLine s)
    else c :: s
termination_by s => s.length
decreasing_by
  · have := length_lt_of_afterComment? ‹_›
    simp only [List.length_cons]
    omega
  · have := length_dropLine_le s
    simp only [List.length_cons]
    omega
  · simp
  · simp
  · have := length_dropLine_le s
    simp only [List.length_cons]
    omega

/-- Drops a comment that goes on to the end of the line, if one is there. -/
def skipLineComment : List Char → List Char
  | '#' :: s => dropLine s
  | '/' :: '/' :: s => dropLine s
  | s => s

/-- What follows the end of a line, which may also be the end of the text. -/
def afterLineEnd? : List Char → Option (List Char)
  | [] => some []
  | '\n' :: s => some s
  | '\r' :: '\n' :: s => some s
  | _ => none

/-- What follows a line of which nothing but blanks and comments is left. -/
def endLine? (s : List Char) : Option (List Char) :=
  afterLineEnd? (skipLineComment (skip .oneLine s))

end InfraConfig.Document
