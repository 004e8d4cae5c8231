import InfraConfig.Text.Split
import InfraConfig.Value.Reader

/-! The part of YAML that settings are written in: one document of mappings, sequences and scalars,
in block style, where columns show what belongs together, or in flow style, between brackets.
Scalars stand on one line, bare or in quotes, and keep their text; what they mean is for whoever
reads them. -/
namespace InfraConfig

/-- A tree of scalars. -/
inductive Yaml where
  /-- A scalar; a plain one stands without quotes. -/
  | scalar (plain : Bool) (text : List Char)
  | sequence (items : List Yaml)
  | mapping (members : List (String × Yaml))
deriving Repr

namespace Yaml

/-- A character with its place. -/
structure Placed where
  char : Char
  line : Nat
  column : Nat
deriving DecidableEq, Repr

/-- The characters of a text that starts at a place. -/
def place : (line column : Nat) → List Char → List Placed
  | _, _, [] => []
  | line, column, c :: s =>
    ⟨c, line, column⟩ :: if c = '\n' then place (line + 1) 0 s else place line (column + 1) s

/-- The scalar that stands where nothing is written. -/
def empty : Yaml := .scalar true []

def isSpace (c : Char) : Bool := c = ' ' || c = '\t'

def isBreak (c : Char) : Bool := c = '\n' || c = '\r'

/-- Whether a text goes on with a blank, or ends. -/
def startsBlank : List Placed → Bool
  | [] => true
  | p :: _ => isSpace p.char || isBreak p.char

/-- Drops spaces, line ends and comments. A comment starts a line or follows a space. -/
def skipGap (spaced : Bool) : List Placed → List Placed
  | [] => []
  | p :: s =>
    if isSpace p.char || isBreak p.char then skipGap true s
    else if p.char = '#' && (spaced || p.column = 0) then skipComment s
    else p :: s
where
  /-- Drops the rest of a comment and the gap after it. -/
  skipComment : List Placed → List Placed
    | [] => []
    | p :: s => if p.char = '\n' then skipGap true s else skipComment s

/-! ### Scalars -/

/-- Brackets and commas, which end a plain scalar in flow style. -/
def isFlowIndicator (c : Char) : Bool := [',', '[', ']', '{', '}'].contains c

/-- Characters that no plain scalar starts with. -/
def isIndicator (c : Char) : Bool :=
  isFlowIndicator c ||
    ['#', '&', '*', '!', '|', '>', '\'', '"', '%', '@', '\x60'].contains c

/-- Whether a plain scalar may start here. -/
def startsPlain : List Placed → Bool
  | [] => false
  | p :: s =>
    if ['-', '?', ':'].contains p.char then !startsBlank s else !isIndicator p.char

/-- The characters of a plain scalar, and the spaces after it. -/
def readPlain (flow spaced : Bool) : List Placed → List Char
  | [] => []
  | p :: s =>
    let c := p.char
    if isBreak c || (c = '#' && spaced) || (flow && isFlowIndicator c) ||
        (c = ':' && (startsBlank s || (flow && s.head?.any (isFlowIndicator ·.char)))) then
      []
    else c :: readPlain flow (isSpace c) s

/-- Reads a text in single quotes after the first; a quote is written twice. -/
def readSingle? : List Placed → Option (List Char × List Placed)
  | [] => none
  | p :: s =>
    if p.char = '\'' then
      match s with
      | q :: t => if q.char = '\'' then (readSingle? t).map fun (text, rest) => ('\'' :: text, rest)
        else some ([], q :: t)
      | [] => some ([], [])
    else if isBreak p.char then none
    else (readSingle? s).map fun (text, rest) => (p.char :: text, rest)

/-- The characters that escapes of one letter stand for. -/
def escapes : List (Char × Char) := [
  ('0', '\x00'), ('a', '\x07'), ('b', '\x08'), ('t', '\t'), ('\t', '\t'), ('n', '\n'),
  ('v', '\x0b'), ('f', '\x0c'), ('r', '\r'), ('e', '\x1b'), (' ', ' '), ('"', '"'), ('/', '/'),
  ('\\', '\\'), ('N', '\u0085'), ('_', '\u00a0'), ('L', '\u2028'), ('P', '\u2029')]

/-- The number of hexadecimal digits that an escape is followed by. -/
def escapeDigits? (c : Char) : Option Nat := [('x', 2), ('u', 4), ('U', 8)].lookup c

/-- Reads a text in double quotes after the first; the first argument bounds its length. -/
def readDouble? : Nat → List Placed → Option (List Char × List Placed)
  | 0, _ | _, [] => none
  | fuel + 1, p :: s =>
    if p.char = '"' then some ([], s)
    else if isBreak p.char then none
    else if p.char = '\\' then
      match s with
      | [] => none
      | q :: s => do
        let (c, s) ← match escapeDigits? q.char with
          | some count => do
            let (code, _) ← Value.readHex? count 0 (s.map (·.char))
            if code.isValidChar then some (Char.ofNat code, s.drop count) else none
          | none => (escapes.lookup q.char).map (·, s)
        let (text, rest) ← readDouble? fuel s
        return (c :: text, rest)
    else do
      let (text, rest) ← readDouble? fuel s
      return (p.char :: text, rest)

/-- A text without the spaces at its end. -/
def withoutTrailing (text : List Char) : List Char := (text.reverse.dropWhile isSpace).reverse

/-- Reads a scalar: whether it is plain, its text, and the rest. -/
def readScalar? (flow : Bool) : List Placed → Option (Bool × List Char × List Placed)
  | [] => none
  | p :: s =>
    if p.char = '\'' then (readSingle? s).map fun (text, rest) => (false, text, rest)
    else if p.char = '"' then
      (readDouble? (s.length + 1) s).map fun (text, rest) => (false, text, rest)
    else if startsPlain (p :: s) then
      let text := withoutTrailing (readPlain flow false (p :: s))
      some (true, text, (p :: s).drop text.length)
    else none

/-- What follows the colon after a key. -/
def afterColon? (s : List Placed) : Option (List Placed) :=
  match s.dropWhile (isSpace ·.char) with
  | p :: rest => if p.char = ':' && startsBlank rest then some rest else none
  | [] => none

/-- What follows the dash of an item. -/
def afterDash? : List Placed → Option (List Placed)
  | p :: s => if p.char = '-' && startsBlank s then some s else none
  | [] => none

/-! ### Flow style -/

/-- Whether the next character is this one. -/
def startsWith (c : Char) (s : List Placed) : Bool := s.head?.any (·.char = c)

mutual

/-- Reads a node between brackets; the first argument bounds the number of nodes. -/
def readFlow? : Nat → List Placed → Option (Yaml × List Placed)
  | 0, _ => none
  | fuel + 1, s =>
    if startsWith '[' s then do
      let (items, rest) ← readFlowItems? fuel (s.drop 1)
      return (.sequence items, rest)
    else if startsWith '{' s then do
      let (members, rest) ← readFlowMembers? fuel (s.drop 1)
      return (.mapping members, rest)
    else do
      let (plain, text, rest) ← readScalar? true s
      return (.scalar plain text, rest)

/-- Reads the items of a sequence and its closing bracket. -/
def readFlowItems? : Nat → List Placed → Option (List Yaml × List Placed)
  | 0, _ => none
  | fuel + 1, s => do
    let s := skipGap true s
    if startsWith ']' s then return ([], s.drop 1)
    else
      let (item, s) ← readFlow? fuel s
      let s := skipGap false s
      if startsWith ',' s then
        let (items, s) ← readFlowItems? fuel (s.drop 1)
        return (item :: items, s)
      else if startsWith ']' s then return ([item], s.drop 1)
      else none

/-- Reads the members of a mapping and its closing brace. A key may stand without a value. -/
def readFlowMembers? : Nat → List Placed → Option (List (String × Yaml) × List Placed)
  | 0, _ => none
  | fuel + 1, s => do
    let s := skipGap true s
    if startsWith '}' s then return ([], s.drop 1)
    else
      let (_, key, s) ← readScalar? true s
      let s := skipGap false s
      let (value, s) ←
        if startsWith ':' s then
          let s := skipGap true (s.drop 1)
          if startsWith ',' s || startsWith '}' s then some (empty, s) else readFlow? fuel s
        else some (empty, s)
      let s := skipGap false s
      let member := (String.ofList key, value)
      if startsWith ',' s then
        let (members, s) ← readFlowMembers? fuel (s.drop 1)
        return (member :: members, s)
      else if startsWith '}' s then return ([member], s.drop 1)
      else none

end

/-! ### Block style -/

/-- Whether a node in flow style starts here. -/
def startsFlow (s : List Placed) : Bool := startsWith '[' s || startsWith '{' s

/-- Reads a scalar or a node in flow style that is the value of a key on the same line. -/
def readInline? (s : List Placed) : Option (Yaml × List Placed) :=
  if startsFlow s then readFlow? (2 * s.length + 2) s
  else do
    let (plain, text, rest) ← readScalar? false s
    if (afterColon? rest).isSome then none else return (.scalar plain text, rest)

mutual

/-- Reads a node whose first character is next; the first argument bounds the number of nodes. -/
def readBlock? : Nat → List Placed → Option (Yaml × List Placed)
  | 0, _ | _, [] => none
  | fuel + 1, p :: s =>
    if (afterDash? (p :: s)).isSome then do
      let (items, rest) ← readItems? fuel p.column (p :: s)
      return (.sequence items, rest)
    else if startsFlow (p :: s) then readInline? (p :: s)
    else do
      let (plain, text, rest) ← readScalar? false (p :: s)
      if (afterColon? rest).isSome then
        let (members, rest) ← readMembers? fuel p.column (p :: s)
        return (.mapping members, rest)
      else return (.scalar plain text, rest)

/-- Reads the items of a sequence whose dashes stand in a column. -/
def readItems? : Nat → (column : Nat) → List Placed → Option (List Yaml × List Placed)
  | 0, _, _ => none
  | fuel + 1, column, s =>
    match s, afterDash? s with
    | dash :: _, some rest => do
      if dash.column < column then return ([], s)
      else if column < dash.column then none
      else
        let (item, rest) ← match skipGap true rest with
          | [] => some (empty, [])
          | p :: rest =>
            if p.line = dash.line || column < p.column then readBlock? fuel (p :: rest)
            else some (empty, p :: rest)
        let (items, rest) ← readItems? fuel column (skipGap false rest)
        return (item :: items, rest)
    | p :: _, none => if p.column ≤ column then some ([], s) else none
    | [], _ => some ([], [])

/-- Reads the members of a mapping whose keys stand in a column. A sequence that is the value of a
key may have its dashes in the same column. -/
def readMembers? : Nat → (column : Nat) → List Placed →
    Option (List (String × Yaml) × List Placed)
  | 0, _, _ => none
  | _ + 1, _, [] => some ([], [])
  | fuel + 1, column, p :: s =>
    if p.column < column then some ([], p :: s)
    else if column < p.column then none
    else do
      let (_, key, rest) ← readScalar? false (p :: s)
      let rest ← afterColon? rest
      let (value, rest) ← match skipGap true rest with
        | [] => some (empty, [])
        | q :: rest =>
          if q.line = p.line then readInline? (q :: rest)
          else if column < q.column || (q.column = column && (afterDash? (q :: rest)).isSome) then
            readBlock? fuel (q :: rest)
          else some (empty, q :: rest)
      let (members, rest) ← readMembers? fuel column (skipGap false rest)
      return ((String.ofList key, value) :: members, rest)

end

/-! ### Documents -/

/-- What follows a document marker on a line that starts with it. -/
def afterMarker? (marker : String) (line : List Char) : Option (List Char) :=
  if marker.toList.isPrefixOf line then
    let rest := line.drop marker.length
    if rest.head?.all fun c => isSpace c || isBreak c then some rest else none
  else none

/-- Whether a line holds nothing but spaces and a comment. -/
def isGapLine (line : List Char) : Bool :=
  (line.dropWhile fun c => isSpace c || isBreak c).head?.all (· = '#')

/-- The lines of the one document among lines, after its first marker. -/
def documentLines? : List (List Char) → Option (List (List Char))
  | [] => some []
  | line :: rest =>
    if (afterMarker? "---" line).isSome then none
    else if (afterMarker? "..." line).isSome then if rest.all isGapLine then some [] else none
    else (documentLines? rest).map (line :: ·)

/-- The text of the document in a text, and whether a marker opens it. -/
def document? (text : List Char) : Option (Bool × List Char) := do
  let lines := (Text.splitAll '\n' text).dropWhile isGapLine
  let (marked, lines) := match lines with
    | [] => (false, [])
    | line :: rest =>
      match afterMarker? "---" line with
      | some inside => (true, ("   ".toList ++ inside) :: rest)
      | none => (false, line :: rest)
  return (marked, ['\n'].intercalate (← documentLines? lines))

/-- Reads a text. A text without a document reads as `some none`; a text that is no single document
is not read. -/
def read? (text : List Char) : Option (Option Yaml) := do
  let (marked, document) ← document? text
  match skipGap true (place 0 0 document) with
  | [] => return if marked then some empty else none
  | s =>
    let (node, rest) ← readBlock? (2 * s.length + 2) s
    if skipGap false rest = [] then return some node else none

end Yaml

end InfraConfig
