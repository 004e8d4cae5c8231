import InfraConfig.Decimal.Binary64

/-! The shortest decimal digits of a binary floating point number. The reals that read back as a
number form an interval around it. For 1, 2, … digits the two neighbours of the number on that
decimal grid are tried; the first grid with a neighbour in the interval gives the digits, and of
two neighbours the nearer one does. All arithmetic is exact. -/
namespace InfraConfig.Decimal

/-- Which way a number goes that lies half way between two decimals of the shortest length. -/
inductive Tie where
  | even
  | up
deriving DecidableEq, Repr

/-- The decimal `digits * 10 ^ exponent`. -/
structure Digits where
  digits : Nat
  exponent : Int
deriving DecidableEq, Repr, Inhabited

namespace Double

/-- The interval of reals that read back as a finite number, in units of `2 ^ -1076`: the ends lie
half way to the neighbouring numbers, and the lower neighbour of a power of two is half as far. -/
def readBackInterval (d : Double) : Nat × Nat :=
  let unit := 1 <<< d.power
  let below := if d.fraction = 0 ∧ 1 < d.storedExponent then unit else 2 * unit
  (4 * d.scaled - below, 4 * d.scaled + 2 * unit)

/-- Whether `digits * 10 ^ exponent` reads back as the finite number `d`. The ends of the interval
belong to it when the significand is even. -/
def readsBack (d : Double) (x : Digits) : Bool :=
  let value := (x.digits * Nat.pow 10 x.exponent.toNat) <<< 1076
  let (low, high) := d.readBackInterval
  let low := low * Nat.pow 10 (-x.exponent).toNat
  let high := high * Nat.pow 10 (-x.exponent).toNat
  if d.significand % 2 = 0 then low ≤ value && value ≤ high else low < value && value < high

/-- The exponent of ten of the leading digit of `num / den`, for a positive quotient. -/
def leadingExponent (num den : Nat) : Int :=
  if den ≤ num then (Nat.toDigits 10 (num / den)).length - 1
  else -((Nat.toDigits 10 ((den - 1) / num)).length : Int)

/-- The digits on the grid of `count` digits that read back, if there are any. -/
def digitsOfCount? (tie : Tie) (d : Double) (count : Nat) : Option Digits :=
  let exponent := leadingExponent d.scaled (1 <<< 1074) + 1 - count
  let num := d.scaled * Nat.pow 10 (-exponent).toNat
  let den := (Nat.pow 10 exponent.toNat) <<< 1074
  let low := num / den
  let twice := 2 * (num % den)
  match d.readsBack ⟨low, exponent⟩, d.readsBack ⟨low + 1, exponent⟩ with
  | true, true =>
    let goesUp := den < twice || twice = den && (tie = .up || low % 2 = 1)
    some ⟨if goesUp then low + 1 else low, exponent⟩
  | true, false => some ⟨low, exponent⟩
  | false, true => some ⟨low + 1, exponent⟩
  | false, false => none

/-- The most digits that are ever needed. -/
def maxDigits : Nat := 17

/-- The fewest digits that read back as a finite number, of several the nearest ones. -/
def shortestDigits (tie : Tie) (d : Double) : Digits :=
  ((List.range maxDigits).findSome? fun n => d.digitsOfCount? tie (n + 1)).getD ⟨0, 0⟩

end Double

end InfraConfig.Decimal
