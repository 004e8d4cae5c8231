/-! Binary floating point numbers of 64 bits, held as their bits. A finite number is
`significand * 2 ^ (power - 1074)`, and everything here is exact arithmetic on natural numbers.
`ofRatio` rounds a quotient to the nearest number, ties to the even significand. -/
namespace InfraConfig.Decimal

/-- A binary floating point number of 64 bits. -/
structure Double where
  bits : UInt64
deriving DecidableEq, Repr, Inhabited

namespace Double

/-! ### Fields -/

/-- The weight of the sign bit. -/
def signBit : Nat := 0x8000000000000000

/-- The weight of the leading bit of a significand, above all bits of the fraction. -/
def leadingBit : Nat := 0x10000000000000

/-- The sign bit. -/
def negative (d : Double) : Bool := signBit ≤ d.bits.toNat

/-- The bits other than the sign, which order the magnitudes. -/
def magnitude (d : Double) : Nat := d.bits.toNat % signBit

/-- The exponent as stored; 2047 marks the infinities and the values that are no numbers. -/
def storedExponent (d : Double) : Nat := d.magnitude / leadingBit

/-- The fraction as stored. -/
def fraction (d : Double) : Nat := d.magnitude % leadingBit

def isFinite (d : Double) : Bool := d.storedExponent != 2047

def isNaN (d : Double) : Bool := d.storedExponent == 2047 && d.fraction != 0

/-- The significand, with its leading bit unless the number is subnormal. -/
def significand (d : Double) : Nat :=
  if d.storedExponent = 0 then d.fraction else leadingBit + d.fraction

/-- The power of two of the significand's unit, counted from `2 ^ -1074`. -/
def power (d : Double) : Nat := d.storedExponent - 1

/-- The magnitude of a finite number in units of `2 ^ -1074`. -/
def scaled (d : Double) : Nat := d.significand <<< d.power

/-! ### Construction -/

/-- The number with this sign and these bits of magnitude. -/
def ofMagnitude (negative : Bool) (magnitude : Nat) : Double :=
  ⟨UInt64.ofNat ((if negative then signBit else 0) + magnitude)⟩

def zero : Double := ⟨0⟩

/-- The bits of positive infinity. -/
def infinityMagnitude : Nat := 2047 * leadingBit

def infinity : Double := ofMagnitude false infinityMagnitude

/-- The value that is no number, with the bits that operations give it. -/
def nan : Double := ofMagnitude false (infinityMagnitude + leadingBit / 2)

/-- A quotient rounded to the nearest integer, a tie to the even one. -/
def roundHalfEven (num den : Nat) : Nat :=
  let q := num / den
  let r := num % den
  if 2 * r < den then q
  else if den < 2 * r then q + 1
  else q + q % 2

/-- The number nearest to `num / den`, ties to the even significand; infinity from the point where
no finite number is nearest. -/
def ofRatio (negative : Bool) (num den : Nat) : Double :=
  let units := num <<< 1074
  let power := (units / den).log2 - 52
  let magnitude := power * leadingBit + roundHalfEven units (den <<< power)
  ofMagnitude negative (min magnitude infinityMagnitude)

/-- The number nearest to an integer. -/
def ofInt (n : Int) : Double := ofRatio (n < 0) n.natAbs 1

/-- Decimal exponents beyond this one decide by themselves: the number is zero or infinite. -/
def exponentLimit : Nat := 400

/-- The number nearest to `digits * 10 ^ exponent`. -/
def ofDecimal (negative : Bool) (digits : Nat) (exponent : Int) : Double :=
  if digits = 0 then ofMagnitude negative 0
  else if exponentLimit < exponent then ofMagnitude negative infinityMagnitude
  else if exponent + (Nat.toDigits 10 digits).length < -exponentLimit then
    ofMagnitude negative 0
  else ofRatio negative (digits * Nat.pow 10 exponent.toNat) (Nat.pow 10 (-exponent).toNat)

/-- The integer that a finite number is, if it is one. -/
def toInt? (d : Double) : Option Int :=
  if d.isFinite && d.scaled % (1 <<< 1074) == 0 then
    let n : Int := (d.scaled >>> 1074 : Nat)
    some (if d.negative then -n else n)
  else none

/-! ### Order -/

/-- The place of a number in the order; both zeros have the same place. -/
def rank (d : Double) : Int := if d.negative then -d.magnitude else d.magnitude

/-- Strictly less; a value that is no number is not comparable. -/
def lt (a b : Double) : Bool := !a.isNaN && !b.isNaN && a.rank < b.rank

/-- The number without its sign. -/
def abs (d : Double) : Double := ofMagnitude false d.magnitude

/-- The number with the other sign. -/
def neg (d : Double) : Double := ofMagnitude (!d.negative) d.magnitude

end Double

end InfraConfig.Decimal
