import InfraConfig.Text.Category
import InfraConfig.Text.Ranges

/-! Character classes: decimal digits, alphanumeric and word characters, the characters of an
identifier of the configuration language, and those that are shown as they are. Each class is given
by a short rule on ASCII and by the tables of `Category` beyond it. -/
namespace InfraConfig.Text

/-- The first code point beyond ASCII. -/
def asciiEnd : Nat := 0x80

/-- A decimal digit of any script. -/
def isDecimalDigit (c : Char) : Bool :=
  if c.toNat < asciiEnd then c.isDigit else inRanges decimalDigitRanges c

/-- A character beyond ASCII with the property Alphabetic. -/
def isAlphabeticSymbol (c : Char) : Bool :=
  inRanges letterRanges c || inRanges letterNumberRanges c || inRanges alphabeticMarkRanges c ||
    inRanges alphabeticSymbolRanges c

/-- A letter or a number of any script. -/
def isAlphanumeric (c : Char) : Bool :=
  if c.toNat < asciiEnd then c.isAlphanum
  else isAlphabeticSymbol c || inRanges decimalDigitRanges c || inRanges otherNumberRanges c

/-- A word character: a letter, a mark, a digit or a connector such as the underscore. -/
def isWord (c : Char) : Bool :=
  if c.toNat < asciiEnd then c.isAlphanum || c == '_'
  else isAlphabeticSymbol c || inRanges otherMarkRanges c || inRanges decimalDigitRanges c ||
    inRanges connectorRanges c || inRanges [(0x200c, 0x200d)] c

/-- Characters that may start an identifier although they are no letters. -/
def extraIdentStartRanges : List (Nat × Nat) :=
  [(0x1885, 0x1886), (0x2118, 0x2118), (0x212e, 0x212e)]

/-- Letters that fall apart under compatibility composition in a way that no identifier starts
with. -/
def unstableIdentStartRanges : List (Nat × Nat) := [
  (0x37a, 0x37a), (0xe33, 0xe33), (0xeb3, 0xeb3), (0x2e2f, 0x2e2f), (0xfc5e, 0xfc63),
  (0xfdfa, 0xfdfb), (0xfe70, 0xfe70), (0xfe72, 0xfe72), (0xfe74, 0xfe74), (0xfe76, 0xfe76),
  (0xfe78, 0xfe78), (0xfe7a, 0xfe7a), (0xfe7c, 0xfe7c), (0xfe7e, 0xfe7e), (0xff9e, 0xff9f)]

/-- Characters that may continue an identifier although they are no letters, marks or digits. -/
def extraIdentRanges : List (Nat × Nat) := [
  (0xb7, 0xb7), (0x387, 0x387), (0x1369, 0x1371), (0x19da, 0x19da), (0x2118, 0x2118),
  (0x212e, 0x212e)]

/-- Letters and marks that may not even continue an identifier. -/
def unstableIdentRanges : List (Nat × Nat) := [
  (0x37a, 0x37a), (0x488, 0x489), (0x1abe, 0x1abe), (0x20dd, 0x20e0), (0x20e2, 0x20e4),
  (0x2e2f, 0x2e2f), (0xa670, 0xa672), (0xfc5e, 0xfc63), (0xfdfa, 0xfdfb), (0xfe70, 0xfe70),
  (0xfe72, 0xfe72), (0xfe74, 0xfe74), (0xfe76, 0xfe76), (0xfe78, 0xfe78), (0xfe7a, 0xfe7a),
  (0xfe7c, 0xfe7c), (0xfe7e, 0xfe7e)]

/-- A character that may start an identifier of the configuration language: a letter of any script
or an underscore. -/
def isIdentStart (c : Char) : Bool :=
  if c.toNat < asciiEnd then c.isAlpha || c == '_'
  else (inRanges letterRanges c || inRanges letterNumberRanges c ||
    inRanges extraIdentStartRanges c) && !inRanges unstableIdentStartRanges c

/-- A character that may continue an identifier of the configuration language: a letter, a mark, a
digit, a connector or a hyphen. -/
def isIdentContinue (c : Char) : Bool :=
  if c.toNat < asciiEnd then c.isAlphanum || c == '_' || c == '-'
  else (inRanges letterRanges c || inRanges letterNumberRanges c ||
    inRanges alphabeticMarkRanges c || inRanges otherMarkRanges c ||
    inRanges decimalDigitRanges c || inRanges connectorRanges c || inRanges extraIdentRanges c) &&
      !inRanges unstableIdentRanges c

/-- A character that can be seen: none of control, format, private use, unassigned, or a separator
other than the space. -/
def isPrintable (c : Char) : Bool :=
  if c.toNat < asciiEnd then 0x20 ≤ c.toNat && c.toNat ≤ 0x7e
  else isAlphabeticSymbol c || inRanges otherMarkRanges c || inRanges decimalDigitRanges c ||
    inRanges otherNumberRanges c || inRanges connectorRanges c ||
    inRanges punctuationSymbolRanges c

/-- Characters that belong to the one before them although they are no marks. -/
def extraExtendRanges : List (Nat × Nat) := [
  (0x200c, 0x200c), (0xff9e, 0xff9f), (0xe0020, 0xe007f)]

/-- A character that is shown together with the one before it (property Grapheme_Extend). -/
def isGraphemeExtend (c : Char) : Bool :=
  (inRanges alphabeticMarkRanges c || inRanges otherMarkRanges c) && !inRanges spacingMarkRanges c ||
    inRanges extraExtendRanges c

theorem isDecimalDigit_of_ascii {c : Char} (h : c.toNat < asciiEnd) :
    isDecimalDigit c = c.isDigit := by
  simp [isDecimalDigit, h]

end InfraConfig.Text
