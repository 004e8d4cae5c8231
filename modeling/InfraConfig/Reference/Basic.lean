import InfraConfig.Text.Blank

/-! References between configuration blocks. A traversal is a root name followed by accesses:
`.name`, `.*`, `[number]` or `[*]`. A traversal that starts with `local` and a plain attribute
refers to a local value; any other one is external and kept as written. `Reference.parse?` reads
a text that is a traversal and nothing else; `Reference.text` writes a reference. -/
namespace InfraConfig

open Text (trim)

/-- One access of a traversal. -/
inductive Segment where
  | attribute (name : String)
  | index (n : Nat)
  | splat
deriving DecidableEq, Repr

/-- A reference of an expression. -/
inductive Reference where
  /-- `local.name`, with the accesses that follow. -/
  | localValue (name : String) (path : List Segment)
  /-- Any other reference, as written. -/
  | external (written : String)
deriving DecidableEq, Repr

/-! ### Characters of a traversal -/

/-- A letter of ASCII or an underscore. -/
def isRootStart (c : Char) : Bool := c.isAlpha || c == '_'

/-- A character of the root name after its first one. -/
def isRootChar (c : Char) : Bool := c.isAlphanum || c == '_' || c == '-'

/-- A character of an attribute name. -/
def isAttributeChar (c : Char) : Bool := c.isAlphanum || c == '_' || c == '-' || c == '*'

/-- A character between the brackets of an index. -/
def isIndexChar (c : Char) : Bool := c.isDigit || c == '*'

/-! ### Reading -/

namespace Segment

/-- The greatest index; a greater one stands for every item, like a star. -/
def maxIndex : Nat := 0xFFFFFFFFFFFFFFFF

/-- The access written by an attribute name. -/
def ofAttribute (name : List Char) : Segment :=
  if name = ['*'] then .splat else .attribute (String.ofList name)

/-- The access written between brackets. -/
def ofIndex (digits : List Char) : Segment :=
  if digits.all Char.isDigit then
    let n := digits.foldl (fun n c => n * 10 + (c.toNat - '0'.toNat)) 0
    if n ≤ maxIndex then .index n else .splat
  else .splat

/-- Reads one access. -/
def read? : List Char → Option (Segment × List Char)
  | '.' :: s =>
    match s.takeWhile isAttributeChar with
    | [] => none
    | name => some (ofAttribute name, s.dropWhile isAttributeChar)
  | '[' :: s =>
    match s.takeWhile isIndexChar with
    | [] => none
    | digits =>
      match s.dropWhile isIndexChar with
      | ']' :: rest => some (ofIndex digits, rest)
      | _ => none
  | _ => none

/-- What is left after an access is a proper end of the text. -/
theorem suffix_of_read? {s rest : List Char} {segment : Segment}
    (h : read? s = some (segment, rest)) : ∃ c t, s = c :: t ∧ rest <:+ t := by
  unfold read? at h
  split at h
  · next t =>
    split at h
    · simp at h
    · simp only [Option.some.injEq, Prod.mk.injEq] at h
      exact ⟨_, t, rfl, h.2 ▸ List.dropWhile_suffix isAttributeChar⟩
  · next t =>
    split at h
    · simp at h
    · split at h
      · next hrest =>
        simp only [Option.some.injEq, Prod.mk.injEq] at h
        refine ⟨_, t, rfl, h.2 ▸ ?_⟩
        exact (List.suffix_cons _ _).trans (hrest ▸ List.dropWhile_suffix isIndexChar)
      · simp at h
  · simp at h

theorem length_lt_of_read? {s rest : List Char} {segment : Segment}
    (h : read? s = some (segment, rest)) : rest.length < s.length := by
  obtain ⟨c, t, rfl, hs⟩ := suffix_of_read? h
  have := hs.length_le
  simp only [List.length_cons]
  omega

/-- Reads as many accesses as there are. -/
def readAll (s : List Char) : List Segment × List Char :=
  match _h : read? s with
  | none => ([], s)
  | some (segment, rest) =>
    let (segments, rest') := readAll rest
    (segment :: segments, rest')
termination_by s.length
decreasing_by exact length_lt_of_read? ‹_›

theorem readAll_suffix (s : List Char) : (readAll s).2 <:+ s := by
  fun_induction readAll s with
  | case1 s h => exact List.suffix_refl s
  | case2 s segment rest h segments rest' hr ih =>
    rw [hr] at ih
    obtain ⟨c, t, rfl, hs⟩ := suffix_of_read? h
    exact (ih.trans hs).trans (List.suffix_cons c t)

/-- The written form of an access. -/
def chars : Segment → List Char
  | .attribute name => '.' :: name.toList
  | .index n => '[' :: Nat.toDigits 10 n ++ [']']
  | .splat => "[*]".toList

end Segment

/-- A traversal taken apart. -/
structure Traversal where
  root : List Char
  accesses : List Segment
deriving DecidableEq, Repr

namespace Traversal

/-- Reads the longest traversal in front. -/
def read? : List Char → Option (Traversal × List Char)
  | [] => none
  | c :: s =>
    if isRootStart c then
      let (accesses, rest) := Segment.readAll (s.dropWhile isRootChar)
      some (⟨c :: s.takeWhile isRootChar, accesses⟩, rest)
    else none

theorem suffix_of_read? {s rest : List Char} {t : Traversal} (h : read? s = some (t, rest)) :
    rest <:+ s ∧ rest.length < s.length := by
  unfold read? at h
  split at h
  · simp at h
  · next c s =>
    split at h
    · simp only [Option.some.injEq, Prod.mk.injEq] at h
      rw [← h.2]
      have h₁ := Segment.readAll_suffix (s.dropWhile isRootChar)
      have h₂ : s.dropWhile isRootChar <:+ s := List.dropWhile_suffix isRootChar
      refine ⟨(h₁.trans h₂).trans (List.suffix_cons _ _), ?_⟩
      have := (h₁.trans h₂).length_le
      simp only [List.length_cons]
      omega
    · simp at h

end Traversal

namespace Reference

/-- The root of references to local values. -/
def localRoot : List Char := "local".toList

/-- Words that look like a traversal and are none. -/
def keywords : List (List Char) := ["true".toList, "false".toList, "null".toList]

/-- The reference made by a traversal with the given text. -/
def ofTraversal (written : List Char) (traversal : Traversal) : Reference :=
  match traversal with
  | ⟨root, .attribute name :: path⟩ =>
    if root = localRoot then .localValue name path else .external (String.ofList written)
  | _ => .external (String.ofList written)

/-- Reads a text that is a traversal as a whole, blanks at its ends aside. -/
def ofChars? (s : List Char) : Option Reference :=
  let s := trim s
  if s ∈ keywords then none
  else
    match Traversal.read? s with
    | some (traversal, []) => some (ofTraversal s traversal)
    | _ => none

/-- Reads a text that is a traversal as a whole, blanks at its ends aside. -/
def parse? (s : String) : Option Reference := ofChars? s.toList

/-- The written form of a reference. -/
def chars : Reference → List Char
  | .localValue name path => localRoot ++ '.' :: name.toList ++ path.flatMap Segment.chars
  | .external written => written.toList

/-- The written form of a reference. -/
def text (r : Reference) : String := String.ofList r.chars

/-- What a consumer records: the bare name of a local value, any other reference as written. -/
def key : Reference → String
  | .localValue name _ => name
  | .external written => written

/-- The name of the local value referred to. -/
def localName? : Reference → Option String
  | .localValue name _ => some name
  | .external _ => none

end Reference

end InfraConfig
