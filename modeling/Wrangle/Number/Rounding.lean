import Wrangle.Number.Decimal

/-!
# Rounding to places

Numbers are rounded to a number of places after the point, or before it when the
number of places is negative.  Halves of the exact value go to the even
neighbour.
-/

namespace Wrangle
namespace Number

def roundedUnits (q : Rat) (places : Int) : Int :=
  roundRat (q * (Nat.pow 10 places.toNat : Nat) / (Nat.pow 10 (-places).toNat : Nat))

def roundInt (n places : Int) : Int :=
  if 0 <= places then n
  else roundedUnits n places * (Nat.pow 10 (-places).toNat : Nat)

def roundFloat (x : Float) (places : Int) : Except Fault Float :=
  match Binary.exact x with
  | none => .ok x
  | some q =>
      if 323 < places then .ok x
      else if places < -308 then .ok (Binary.ofMagnitude (Binary.isNegative x) 0)
      else
        let units := roundedUnits q places
        let num := units.natAbs * Nat.pow 10 (-places).toNat
        match Binary.roundMagnitude (Binary.isNegative x) num (Nat.pow 10 places.toNat) with
        | some y => .ok y
        | none => .error .overflow

def coefficientAt (coefficient : Nat) (gap : Int) : Nat :=
  if 0 <= gap then coefficient * Nat.pow 10 gap.toNat
  else if Int.ofNat (digitCount coefficient) + gap < 0 then 0
  else roundQuotient coefficient (Nat.pow 10 (-gap).toNat)

/-- A decimal number with a given number of places; all of its digits have to be kept. -/
def roundDecimal (d : Decimal) (places : Int) : Except Fault Decimal :=
  match d with
  | .finite negative coefficient exponent =>
      let target := -places
      let gap := exponent - target
      if Decimal.greatestExponent < target || target < Decimal.leastExponent Decimal.precision then
        .error .invalidDecimal
      else if coefficient = 0 then .ok (.finite negative 0 target)
      else if Int.ofNat Decimal.precision < Int.ofNat (digitCount coefficient) + gap then
        .error .invalidDecimal
      else
        let kept := coefficientAt coefficient gap
        if Decimal.precision < digitCount kept then .error .invalidDecimal
        else if Decimal.greatestExponent < target + Int.ofNat (digitCount kept) - 1 then
          .error .invalidDecimal
        else .ok (.finite negative kept target)
  | .infinite _ => .error .invalidDecimal
  | .undefined _ _ _ => d.handedOn

/-!
# Powers in remainders
-/

def powerMod (base modulus : Nat) : Nat -> Nat -> Nat
  | 0, _ => 1 % modulus
  | rounds + 1, exponent =>
      let half := powerMod base modulus rounds (exponent / 2)
      let square := half * half % modulus
      if exponent % 2 = 0 then square else square * base % modulus

/-- The coefficient of the first number in a combination that gives the common divisor. -/
def bezout : Nat -> Int -> Int -> Int -> Int -> Int × Int
  | 0, a, _, x, _ => (a, x)
  | rounds + 1, a, b, x, y =>
      if b = 0 then (a, x) else bezout rounds b (a % b) y (x - a / b * y)

def inverseMod? (base modulus : Nat) : Option Nat :=
  let (divisor, coefficient) := bezout (2 * Nat.log2 modulus + 4) (base % modulus) modulus 1 0
  if divisor = 1 then some (coefficient % modulus).toNat else none

end Number
end Wrangle
