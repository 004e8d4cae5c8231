import InfraConfig.Decimal.Layout
import InfraConfig.Value.Basic

/-! The compact text of a value: no spaces, members in order, texts between double quotes. A
quote, a backslash and the control characters are escaped; every other character stands for
itself. -/
namespace InfraConfig

open Decimal (dataLayout Layout)

namespace Value

/-- The escape of a control character by its code point, in four hexadecimal digits. -/
def controlEscape (c : Char) : List Char :=
  let digits := Nat.toDigits 16 c.toNat
  '\\' :: 'u' :: (List.replicate (4 - digits.length) '0' ++ digits)

/-- A character as it stands inside quotes. -/
def escapeChar (c : Char) : List Char :=
  if c = '"' then ['\\', '"']
  else if c = '\\' then ['\\', '\\']
  else if c = '\x08' then ['\\', 'b']
  else if c = '\x0c' then ['\\', 'f']
  else if c = '\n' then ['\\', 'n']
  else if c = '\r' then ['\\', 'r']
  else if c = '\t' then ['\\', 't']
  else if c.toNat < 0x20 then controlEscape c
  else [c]

/-- A text between quotes. -/
def quoted (s : String) : List Char := '"' :: s.toList.flatMap escapeChar ++ ['"']

/-- The text of a number. -/
def numberText : Number → List Char
  | .int n => (if n < 0 then ['-'] else []) ++ Layout.digitChars n.natAbs
  | .double d => dataLayout.render d

mutual

/-- The compact text of a value. -/
def chars : Value → List Char
  | .null => "null".toList
  | .bool true => "true".toList
  | .bool false => "false".toList
  | .number n => numberText n
  | .string s => quoted s
  | .list items => '[' :: [','].intercalate (itemTexts items) ++ [']']
  | .object members => '{' :: [','].intercalate (memberTexts members) ++ ['}']

/-- The texts of the items of a list. -/
def itemTexts : List Value → List (List Char)
  | [] => []
  | item :: rest => item.chars :: itemTexts rest

/-- The texts of the members of an object. -/
def memberTexts : List (String × Value) → List (List Char)
  | [] => []
  | (key, value) :: rest => (quoted key ++ ':' :: value.chars) :: memberTexts rest

end

/-- The compact text of a value. -/
def text (v : Value) : String := String.ofList v.chars

/-- The form in which a value is put into a longer text: a text as it is, any other value as its
compact text. -/
def interpolated : Value → List Char
  | .string s => s.toList
  | other => other.chars

end Value

end InfraConfig
