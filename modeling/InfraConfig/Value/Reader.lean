import InfraConfig.Decimal.Numeral
import InfraConfig.Value.Basic

/-! Reading a value from its text. The grammar is that of JSON: four blanks between tokens, no
leading zeros, escapes in texts, and nothing after the value. A repeated member keeps its first
place and takes the last value. -/
namespace InfraConfig

open Decimal (Double readNumeral? Numeral)

namespace Value

/-- A blank between tokens. -/
def isSpacing (c : Char) : Bool := c = ' ' || c = '\t' || c = '\n' || c = '\r'

/-- Drops the blanks in front. -/
def skipSpacing (s : List Char) : List Char := s.dropWhile isSpacing

/-- The number of a numeral: a whole numeral in range is exact, any other the nearest double. A
negative zero is a double. -/
def numberOfNumeral (negative : Bool) (n : Numeral) : Number :=
  let whole : Int := if negative then -n.mantissa else n.mantissa
  if n.isWhole && Number.minInt ≤ whole && whole ≤ Number.maxInt && !(negative && whole == 0) then
    .int whole
  else .double (n.toDouble negative)

/-- Reads a number. -/
def readNumber? (s : List Char) : Option (Number × List Char) := do
  let (negative, s) := match s with
    | '-' :: t => (true, t)
    | t => (false, t)
  let (numeral, rest) ← readNumeral? s
  if numeral.whole.head? = some '0' && 1 < numeral.whole.length then none
  else
    let number := numberOfNumeral negative numeral
    if number.toDouble.isFinite then some (number, rest) else none

/-- The value of a hexadecimal digit. -/
def hexDigit? (c : Char) : Option Nat :=
  if c.isDigit then some (c.toNat - '0'.toNat)
  else if 'a' ≤ c && c ≤ 'f' then some (c.toNat - 'a'.toNat + 10)
  else if 'A' ≤ c && c ≤ 'F' then some (c.toNat - 'A'.toNat + 10)
  else none

/-- Reads hexadecimal digits, exactly `count` of them. -/
def readHex? : Nat → Nat → List Char → Option (Nat × List Char)
  | 0, value, s => some (value, s)
  | _ + 1, _, [] => none
  | count + 1, value, c :: s => do readHex? count (value * 16 + (← hexDigit? c)) s

/-- Reads the code point of an escape by number; two halves of a pair make one character. -/
def readUnicodeEscape? (s : List Char) : Option (Char × List Char) := do
  let (unit, s) ← readHex? 4 0 s
  if 0xd800 ≤ unit && unit < 0xdc00 then
    match s with
    | '\\' :: 'u' :: s =>
      let (low, s) ← readHex? 4 0 s
      if 0xdc00 ≤ low && low < 0xe000 then
        some (Char.ofNat (0x10000 + (unit - 0xd800) * 0x400 + (low - 0xdc00)), s)
      else none
    | _ => none
  else if 0xdc00 ≤ unit && unit < 0xe000 then none
  else some (Char.ofNat unit, s)

/-- Reads the inside of a text up to the closing quote. The first argument bounds the number of
characters. -/
def readString? : Nat → List Char → Option (List Char × List Char)
  | 0, _ | _, [] => none
  | _ + 1, '"' :: s => some ([], s)
  | fuel + 1, '\\' :: c :: s =>
    let simple (c : Char) := do
      let (text, rest) ← readString? fuel s
      return (c :: text, rest)
    match c with
    | '"' | '\\' | '/' => simple c
    | 'b' => simple '\x08'
    | 'f' => simple '\x0c'
    | 'n' => simple '\n'
    | 'r' => simple '\r'
    | 't' => simple '\t'
    | 'u' => do
      let (c, s) ← readUnicodeEscape? s
      let (text, rest) ← readString? fuel s
      return (c :: text, rest)
    | _ => none
  | fuel + 1, c :: s => do
    if c.toNat < 0x20 || c = '\\' then none
    else
      let (text, rest) ← readString? fuel s
      return (c :: text, rest)

/-- Reads a text after its opening quote. -/
def readQuoted? (s : List Char) : Option (String × List Char) := do
  let (text, rest) ← readString? (s.length + 1) s
  return (String.ofList text, rest)

mutual

/-- Reads a value; the first argument bounds the number of tokens. -/
def readValue? : Nat → List Char → Option (Value × List Char)
  | 0, _ => none
  | fuel + 1, s =>
    match skipSpacing s with
    | 'n' :: 'u' :: 'l' :: 'l' :: s => some (.null, s)
    | 't' :: 'r' :: 'u' :: 'e' :: s => some (.bool true, s)
    | 'f' :: 'a' :: 'l' :: 's' :: 'e' :: s => some (.bool false, s)
    | '"' :: s => do
      let (text, s) ← readQuoted? s
      return (.string text, s)
    | '[' :: s =>
      match skipSpacing s with
      | ']' :: s => some (.list [], s)
      | s => do
        let (items, s) ← readItems? fuel s
        return (.list items, s)
    | '{' :: s =>
      match skipSpacing s with
      | '}' :: s => some (.object [], s)
      | s => do
        let (members, s) ← readMembers? fuel s
        return (ofMembers members, s)
    | s => do
      let (n, s) ← readNumber? s
      return (.number n, s)

/-- Reads the items of a list and its closing bracket. -/
def readItems? : Nat → List Char → Option (List Value × List Char)
  | 0, _ => none
  | fuel + 1, s => do
    let (item, s) ← readValue? fuel s
    match skipSpacing s with
    | ']' :: s => some ([item], s)
    | ',' :: s =>
      let (items, s) ← readItems? fuel s
      return (item :: items, s)
    | _ => none

/-- Reads the members of an object and its closing brace. -/
def readMembers? : Nat → List Char → Option (List (String × Value) × List Char)
  | 0, _ => none
  | fuel + 1, s => do
    match skipSpacing s with
    | '"' :: s =>
      let (key, s) ← readQuoted? s
      match skipSpacing s with
      | ':' :: s =>
        let (value, s) ← readValue? fuel s
        match skipSpacing s with
        | '}' :: s => some ([(key, value)], s)
        | ',' :: s =>
          let (members, s) ← readMembers? fuel s
          return ((key, value) :: members, s)
        | _ => none
      | _ => none
    | _ => none

end

/-- The value written by a text. -/
def ofText? (text : String) : Option Value :=
  let s := text.toList
  match readValue? (2 * s.length + 2) s with
  | some (value, rest) => if skipSpacing rest = [] then some value else none
  | none => none

end Value

end InfraConfig
