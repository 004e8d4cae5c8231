import InfraConfig.Document.Spacing
import InfraConfig.Text.CharClass
import InfraConfig.Value.Reader

/-! The words of documents: identifiers, keywords, numbers, and escapes in quoted texts. Each reader
takes its word from the front of a text and gives the rest. -/
namespace InfraConfig.Document

open InfraConfig.Text (isIdentStart isIdentContinue)
open Decimal (Double Numeral readDigits? readExponent?)

/-- Reads an identifier. -/
def readIdent? : List Char → Option (List Char × List Char)
  | c :: s =>
    if isIdentStart c then some (c :: s.takeWhile isIdentContinue, s.dropWhile isIdentContinue)
    else none
  | [] => none

/-- What follows a keyword, which is no part of a longer identifier. -/
def afterKeyword? (keyword : String) (s : List Char) : Option (List Char) :=
  match readIdent? s with
  | some (ident, rest) => if ident = keyword.toList then some rest else none
  | none => none

/-- What follows a text that has to come next. -/
def after? (expected : String) (s : List Char) : Option (List Char) :=
  if expected.toList.isPrefixOf s then some (s.drop expected.length) else none

/-! ### Numbers -/

/-- Reads a numeral. A point that no digit follows is no part of it. -/
def readNumeral? (s : List Char) : Option (Numeral × List Char) := do
  let (whole, s) ← readDigits? s
  let (fraction, s) := match s with
    | '.' :: t =>
      match readDigits? t with
      | some (digits, rest) => (some digits, rest)
      | none => (none, s)
    | _ => (none, s)
  let (exponent, s) ← readExponent? s
  return (⟨whole, fraction, exponent⟩, s)

/-- The number that a numeral stands for, if it is in range. An integral value that is held exactly
is an integer, however it is written. -/
def numberOfNumeral? (n : Numeral) : Option Number :=
  if n.isWhole then
    if n.mantissa ≤ Number.maxInt then some (.int n.mantissa) else none
  else
    let d := n.toDouble false
    match d.toInt? with
    | some k => some (if k ≤ Number.maxInt then .int k else .double d)
    | none => if d.isFinite then some (.double d) else none

/-- The number with the other sign; an integer that is not held exactly becomes a double. -/
def negated : Number → Number
  | .int n => if Number.minInt ≤ -n then .int (-n) else .double (Double.ofInt (-n))
  | .double d => .double d.neg

/-- Reads a number without a sign. -/
def readNumber? (s : List Char) : Option (Number × List Char) := do
  let (numeral, rest) ← readNumeral? s
  return (← numberOfNumeral? numeral, rest)

/-- Reads the position of an item after a point. -/
def readPosition? (s : List Char) : Option (Nat × List Char) := do
  let (digits, rest) ← readDigits? s
  let position := Decimal.ofDigits digits
  if position ≤ Number.maxInt then some (position, rest) else none

/-! ### Quoted texts -/

/-- Reads the character that an escape stands for, after its backslash. -/
def readEscape? : List Char → Option (Char × List Char)
  | 'n' :: s => some ('\n', s)
  | 'r' :: s => some ('\r', s)
  | 't' :: s => some ('\t', s)
  | '\\' :: s => some ('\\', s)
  | '"' :: s => some ('"', s)
  | '/' :: s => some ('/', s)
  | 'b' :: s => some ('\x08', s)
  | 'f' :: s => some ('\x0c', s)
  | 'u' :: s => codePoint? (Value.readHex? 4 0 s)
  | 'U' :: s => codePoint? (Value.readHex? 8 0 s)
  | _ => none
where
  /-- The character with a number, if there is one. -/
  codePoint? : Option (Nat × List Char) → Option (Char × List Char)
    | some (n, s) => if n.isValidChar then some (Char.ofNat n, s) else none
    | none => none

end InfraConfig.Document
