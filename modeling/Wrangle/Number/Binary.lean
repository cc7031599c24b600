/-!
# Binary numbers

A finite binary64 number is an integer of at most 53 bits times a power of two.
This module takes such numbers apart and rounds quotients of integers to them.

Main definitions: `Binary.exact` gives the value of a float as a fraction,
`Binary.round` the float nearest to a fraction.
-/

namespace Wrangle
namespace Number

/-!
# Rounding of quotients
-/

def roundQuotient (num den : Nat) : Nat :=
  let q := num / den
  let r := num % den
  if 2 * r < den then q
  else if den < 2 * r then q + 1
  else if q % 2 = 0 then q
  else q + 1

namespace Binary

/-!
# Parts of a float
-/

inductive Parts where
  | finite (negative : Bool) (mantissa : Nat) (exponent : Int)
  | infinite (negative : Bool)
  | undefined
  deriving DecidableEq, Repr

def parts (x : Float) : Parts :=
  let bits := x.toBits.toNat
  let negative := bits / Nat.pow 2 63 == 1
  let exponent := bits / Nat.pow 2 52 % 2048
  let fraction := bits % Nat.pow 2 52
  if exponent = 2047 then
    if fraction = 0 then .infinite negative else .undefined
  else if exponent = 0 then .finite negative fraction (-1074)
  else .finite negative (fraction + Nat.pow 2 52) (Int.ofNat exponent - 1075)

def ofMagnitude (negative : Bool) (bits : Nat) : Float :=
  Float.ofBits (UInt64.ofNat (bits + if negative then Nat.pow 2 63 else 0))

def infinity : Float := ofMagnitude false (2047 * Nat.pow 2 52)

def negativeInfinity : Float := ofMagnitude true (2047 * Nat.pow 2 52)

def undefined : Float := ofMagnitude false (2047 * Nat.pow 2 52 + Nat.pow 2 51)

def isUndefined (x : Float) : Bool :=
  match parts x with
  | .undefined => true
  | _ => false

def isInfinite (x : Float) : Bool :=
  match parts x with
  | .infinite _ => true
  | _ => false

def isNegative (x : Float) : Bool :=
  x.toBits.toNat / Nat.pow 2 63 == 1

def exact (x : Float) : Option Rat :=
  match parts x with
  | .finite negative mantissa exponent =>
      let signed : Int := if negative then -Int.ofNat mantissa else Int.ofNat mantissa
      if 0 <= exponent then some ((signed * Int.pow 2 exponent.toNat : Int) : Rat)
      else some (mkRat signed (Nat.pow 2 (-exponent).toNat))
  | _ => none

/-!
# Rounding to floats
-/

def scaled (num den : Nat) (exponent : Int) : Nat × Nat :=
  if 0 <= exponent then (num, den * Nat.pow 2 exponent.toNat)
  else (num * Nat.pow 2 (-exponent).toNat, den)

/-- The exponent at which a quotient has a mantissa of 53 bits, or the least one there is. -/
def exponentFor (num den : Nat) : Int :=
  let guess : Int := Int.ofNat (Nat.log2 num) - Int.ofNat (Nat.log2 den) - 52
  let pair := scaled num den guess
  let fitted := if pair.1 / pair.2 < Nat.pow 2 52 then guess - 1 else guess
  max fitted (-1074)

/-- The float nearest to a quotient; none when it lies beyond the largest float. -/
def roundMagnitude (negative : Bool) (num den : Nat) : Option Float :=
  if num = 0 then some (ofMagnitude negative 0)
  else
    let exponent := exponentFor num den
    let pair := scaled num den exponent
    let bits := (exponent + 1074).toNat * Nat.pow 2 52 + roundQuotient pair.1 pair.2
    if bits < 2047 * Nat.pow 2 52 then some (ofMagnitude negative bits) else none

def round (q : Rat) : Option Float :=
  roundMagnitude (decide (q.num < 0)) q.num.natAbs q.den

def ofInt (n : Int) : Option Float :=
  roundMagnitude (decide (n < 0)) n.natAbs 1

def roundOrInfinity (negative : Bool) (num den : Nat) : Float :=
  (roundMagnitude negative num den).getD (if negative then negativeInfinity else infinity)

/-!
# Integers from floats
-/

def floor? (x : Float) : Option Int :=
  (exact x).map Rat.floor

def ceil? (x : Float) : Option Int :=
  (exact x).map fun q => -(-q).floor

def truncate? (x : Float) : Option Int :=
  (exact x).map fun q => if q < 0 then -(-q).floor else q.floor

def isIntegral (x : Float) : Bool :=
  match exact x with
  | some q => q.den == 1
  | none => false

end Binary

def roundRat (q : Rat) : Int :=
  let magnitude := Int.ofNat (roundQuotient q.num.natAbs q.den)
  if q.num < 0 then -magnitude else magnitude

def squareRootWithin : Nat -> Nat -> Nat -> Nat
  | 0, _, guess => guess
  | rounds + 1, n, guess =>
      let next := (guess + n / guess) / 2
      if guess <= next then guess else squareRootWithin rounds n next

def squareRoot (n : Nat) : Nat :=
  if n = 0 then 0 else squareRootWithin (2 * Nat.log2 n + 4) n (Nat.pow 2 (Nat.log2 n / 2 + 1))

end Number
end Wrangle
