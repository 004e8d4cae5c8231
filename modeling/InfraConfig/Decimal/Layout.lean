import InfraConfig.Decimal.Shortest

/-! Decimal texts of binary floating point numbers. The digits come from `Shortest`; a `Layout`
says how they are written: where the decimal point stands, when an exponent is used, and what
zeros are kept. -/
namespace InfraConfig.Decimal

/-- How the digits of a number are written. -/
structure Layout where
  tie : Tie
  /-- Whether a leading digit at this exponent of ten is written with a decimal point rather than
  with an exponent. -/
  positional : Int → Bool
  /-- Whether a whole number keeps one digit after its point. -/
  wholeFraction : Bool

namespace Layout

/-- The decimal digits of a natural number. -/
def digitChars (n : Nat) : List Char := Nat.toDigits 10 n

/-- Decimal digits less their final zeros, of which at least one digit stays. -/
def dropFinalZeros (digits : List Char) : List Char :=
  match digits with
  | [] => []
  | first :: rest => first :: (rest.reverse.dropWhile (· == '0')).reverse

/-- Digits with a decimal point after the first `point` of them, zeros filling the gaps. -/
def placePoint (layout : Layout) (digits : List Char) (point : Int) : List Char :=
  if point ≤ 0 then "0.".toList ++ List.replicate (-point).toNat '0' ++ digits
  else
    let whole := digits.take point.toNat ++ List.replicate (point.toNat - digits.length) '0'
    match digits.drop point.toNat with
    | [] => if layout.wholeFraction then whole ++ ".0".toList else whole
    | fraction => whole ++ '.' :: fraction

/-- Digits with an exponent of ten, which always has a sign. -/
def withExponent (digits : List Char) (exponent : Int) : List Char :=
  let mantissa := match digits with
    | first :: second :: rest => first :: '.' :: second :: rest
    | short => short
  mantissa ++ 'e' :: (if exponent < 0 then '-' else '+') :: digitChars exponent.natAbs

/-- The text of a number. -/
def render (layout : Layout) (d : Double) : List Char :=
  if d.isNaN then "NaN".toList
  else
    let sign := if d.negative then ['-'] else []
    if !d.isFinite then sign ++ "inf".toList
    else if d.magnitude = 0 then sign ++ layout.placePoint ['0'] 1
    else
      let shortest := d.shortestDigits layout.tie
      let allDigits := digitChars shortest.digits
      let digits := dropFinalZeros allDigits
      let leading := allDigits.length + shortest.exponent - 1
      sign ++ if layout.positional leading then layout.placePoint digits (leading + 1)
        else withExponent digits leading

end Layout

/-- Numbers in data: a number from `1e-5` up to below `1e16` has a decimal point and at least one
digit after it, any other an exponent. -/
def dataLayout : Layout := ⟨.even, fun leading => -5 ≤ leading && leading < 16, true⟩

/-- Numbers in messages: never an exponent, and no point in a whole number. -/
def messageLayout : Layout := ⟨.up, fun _ => true, false⟩

end InfraConfig.Decimal
