import InfraConfig.Decimal.Binary64

/-! Decimal numerals: a whole part, a fraction and an exponent, each as read. The value of a
numeral is `mantissa * 10 ^ exponent`, exactly. -/
namespace InfraConfig.Decimal

/-- The number written by a run of decimal digits. -/
def ofDigits (digits : List Char) : Nat :=
  digits.foldl (fun n c => n * 10 + (c.toNat - '0'.toNat)) 0

/-- An unsigned decimal numeral, taken apart. -/
structure Numeral where
  whole : List Char
  /-- The digits after the point, if there is one. -/
  fraction : Option (List Char)
  /-- The exponent of ten, if there is one. -/
  exponent : Option Int
deriving DecidableEq, Repr

namespace Numeral

/-- A numeral of digits alone. -/
def isWhole (n : Numeral) : Bool := n.fraction.isNone && n.exponent.isNone

/-- All digits of the numeral, as a whole number. -/
def mantissa (n : Numeral) : Nat := ofDigits (n.whole ++ n.fraction.getD [])

/-- The exponent of ten of the last digit. -/
def scale (n : Numeral) : Int := n.exponent.getD 0 - (n.fraction.getD []).length

/-- The nearest double. -/
def toDouble (n : Numeral) (negative : Bool) : Double :=
  Double.ofDecimal negative n.mantissa n.scale

end Numeral

/-- Reads digits, at least one. -/
def readDigits? (s : List Char) : Option (List Char × List Char) :=
  match s.takeWhile Char.isDigit with
  | [] => none
  | digits => some (digits, s.dropWhile Char.isDigit)

/-- Reads an exponent if there is a whole one: `e` or `E`, a sign or none, digits. `none` says that
the mark is there and the digits are missing. -/
def readExponent? : List Char → Option (Option Int × List Char)
  | c :: s =>
    if c = 'e' || c = 'E' then
      let (negative, digits) := match s with
        | '-' :: t => (true, t)
        | '+' :: t => (false, t)
        | t => (false, t)
      (readDigits? digits).map fun (ds, rest) =>
        let n : Int := ofDigits ds
        (some (if negative then -n else n), rest)
    else some (none, c :: s)
  | [] => some (none, [])

/-- Reads a fraction if there is one. `none` says that the point is there and the digits are
missing. -/
def readFraction? : List Char → Option (Option (List Char) × List Char)
  | '.' :: s => (readDigits? s).map fun (ds, rest) => (some ds, rest)
  | s => some (none, s)

/-- Reads an unsigned numeral. -/
def readNumeral? (s : List Char) : Option (Numeral × List Char) := do
  let (whole, s) ← readDigits? s
  let (fraction, s) ← readFraction? s
  let (exponent, s) ← readExponent? s
  return (⟨whole, fraction, exponent⟩, s)

theorem readDigits?_append {s digits rest : List Char} (h : readDigits? s = some (digits, rest)) :
    s = digits ++ rest := by
  unfold readDigits? at h
  split at h
  · simp at h
  · simp only [Option.some.injEq, Prod.mk.injEq] at h
    rw [← h.1, ← h.2, List.takeWhile_append_dropWhile]

end InfraConfig.Decimal
