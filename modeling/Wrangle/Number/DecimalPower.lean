import Wrangle.Number.Decimal

/-!
# Powers of decimal numbers

A power with an integral exponent is computed by multiplications that keep more
digits than the result does.  Any other one goes through the logarithm and the
exponential, both on integers that stand for multiples of a tiny unit, and always
has the full number of digits.
-/

namespace Wrangle
namespace Number
namespace Decimal

/-!
# Logarithm and exponential in multiples of a unit
-/

def unitPlaces : Nat := 100

def unitScale : Int := Int.pow 10 unitPlaces

def scaledProduct (x y : Int) : Int := x * y / unitScale

/-- The sum of the odd powers of `x` over their degrees, from a given term on. -/
def oddPowerSum (square : Int) : Nat -> Int -> Int -> Int
  | 0, _, _ => 0
  | rounds + 1, power, degree =>
      power / degree + oddPowerSum square rounds (scaledProduct power square) (degree + 2)

def logarithmNear (num den : Int) : Int :=
  let ratio := unitScale * (num - den) / (num + den)
  2 * oddPowerSum (scaledProduct ratio ratio) 600 ratio 1

def logarithmTen : Int := logarithmNear 10 1

def logarithmOf (coefficient : Nat) (exponent : Int) : Int :=
  let size := digitCount coefficient - 1
  logarithmNear coefficient (Nat.pow 10 size : Nat) + (exponent + size) * logarithmTen

def exponentialSum (x : Int) : Nat -> Int -> Int -> Int
  | 0, _, _ => 0
  | rounds + 1, term, degree =>
      term + exponentialSum x rounds (scaledProduct term x / degree) (degree + 1)

/-- The exponential: the power of ten nearest below, times what is left of the exponent. -/
def exponentialOf (x : Int) : Except Fault Decimal :=
  let size := x.fdiv logarithmTen
  let rest := x.fmod logarithmTen
  let value := exponentialSum rest 150 unitScale 1
  rounded false value.toNat (size - unitPlaces)

/-!
# Integral exponents
-/

/-- Go through the lower binary digits of an exponent, from the highest one down. -/
def powerDownward (digits : Nat) (base : Decimal) (n : Nat) :
    Nat -> Decimal -> Except Fault Decimal
  | 0, result => .ok result
  | place + 1, result => do
      let square <- multiplyTo digits result result
      let next <- if n.testBit place then multiplyTo digits square base else .ok square
      powerDownward digits base n place next

def powerUpward (digits : Nat) : Nat -> Decimal -> Nat -> Decimal -> Except Fault Decimal
  | 0, _, _, result => .ok result
  | rounds + 1, base, n, result => do
      let next <- if n % 2 = 1 then multiplyTo digits result base else .ok result
      if n / 2 = 0 || next.isZero then .ok next
      else
        let square <- multiplyTo digits base base
        powerUpward digits rounds square (n / 2) next

def largeExponent : Nat := Nat.pow 2 64

def withSign (negative : Bool) : Decimal -> Except Fault Decimal
  | .finite _ coefficient exponent => rounded negative coefficient exponent
  | d => .ok d

def powerWhole (negative : Bool) (coefficient : Nat) (exponent : Int) (down : Bool) (n : Nat) :
    Except Fault Decimal := do
  let digits := precision + digitCount n + (if down then 3 else 2)
  let start : Decimal := .finite false coefficient exponent
  let base <- if down then divideTo digits (ofInt 1) start else .ok start
  let result <-
    if n < largeExponent then powerDownward digits base n (Nat.log2 n) base
    else powerUpward digits (Nat.log2 n + 1) base n (ofInt 1)
  result.withSign negative

/-!
# All exponents
-/

def isIntegral : Decimal -> Bool
  | .finite _ coefficient exponent =>
      coefficient == 0 || decide (0 <= exponent) ||
        (decide (-exponent < Int.ofNat (digitCount coefficient)) &&
          coefficient % Nat.pow 10 (-exponent).toNat == 0)
  | _ => false

def isOdd (d : Decimal) : Bool :=
  match d with
  | .finite _ coefficient exponent =>
      d.isIntegral && decide (exponent <= 0) && coefficient / Nat.pow 10 (-exponent).toNat % 2 == 1
  | _ => false

def isOne (coefficient : Nat) (exponent : Int) : Bool :=
  decide (exponent + Int.ofNat (digitCount coefficient) = 1) &&
    coefficient == Nat.pow 10 (-exponent).toNat

def exceedsOne (coefficient : Nat) (exponent : Int) : Bool :=
  decide (0 < exponent + Int.ofNat (digitCount coefficient)) && !isOne coefficient exponent

def oneWithPlaces (negative : Bool) (places : Nat) : Decimal :=
  .finite negative (Nat.pow 10 places) (-Int.ofNat places)

/-- A power of one: each factor brings its places, and a fractional exponent all there are. -/
def powerOfOne (negative : Bool) (exponent : Int) (n : Decimal) : Decimal :=
  match n with
  | .finite down k f =>
      if !n.isIntegral then oneWithPlaces negative (precision - 1)
      else if down || exponent = 0 then .finite negative 1 0
      else if 3 < f + Int.ofNat (digitCount k) then oneWithPlaces negative (precision - 1)
      else
        let count := k * Nat.pow 10 f.toNat / Nat.pow 10 (-f).toNat
        oneWithPlaces negative (min (precision - 1) (exponent.natAbs * count))
  | d => d

/-- A power of ten that is not above the size of a number's logarithm. -/
def logarithmSize (coefficient : Nat) (exponent : Int) : Int :=
  let size := exponent + Int.ofNat (digitCount coefficient) - 1
  if 0 < size then Int.ofNat (digitCount size.natAbs) - 1
  else if size < -1 then Int.ofNat (digitCount (size + 1).natAbs) - 1
  else
    let gap := (Int.ofNat coefficient - Int.ofNat (Nat.pow 10 (-exponent).toNat)).natAbs
    exponent + Int.ofNat (digitCount gap) - (if size = 0 then 3 else 2)

def logarithmLimit : Int := 7

def powerFinite (negative : Bool) (coefficient : Nat) (exponent : Int) (n : Decimal) :
    Except Fault Decimal :=
  match n with
  | .finite down k f =>
      let size := logarithmSize coefficient exponent + f + Int.ofNat (digitCount k) - 1
      if logarithmLimit <= size then
        if exceedsOne coefficient exponent != down then .error .decimalOverflow
        else .ok (.finite negative 0 (leastExponent precision))
      else
        let num := k * Nat.pow 10 f.toNat
        let den := Nat.pow 10 (-f).toNat
        if n.isIntegral then powerWhole negative coefficient exponent down (num / den)
        else exponentialOf (logarithmOf coefficient exponent * signed down num / den)
  | d => .ok d

def power (a b : Decimal) : Except Fault Decimal :=
  let negative := a.isNegative && b.isOdd
  if a.isUndefined || b.isUndefined then firstUndefined a b
  else if a.isZero then
    if b.isZero then .error .invalidDecimal
    else .ok (if b.isNegative then .infinite negative else .finite negative 0 0)
  else if a.isNegative && !b.isIntegral then .error .invalidDecimal
  else if b.isZero then .ok (ofInt 1)
  else
    match a, b with
    | .finite _ coefficient exponent, .finite _ _ _ =>
        if isOne coefficient exponent then .ok (powerOfOne negative exponent b)
        else powerFinite negative coefficient exponent b
    | .finite _ coefficient exponent, _ =>
        if isOne coefficient exponent then .ok (oneWithPlaces false (precision - 1))
        else if exceedsOne coefficient exponent != b.isNegative then .ok (.infinite false)
        else .ok (.finite false 0 0)
    | _, _ => .ok (if b.isNegative then .finite negative 0 0 else .infinite negative)

end Decimal
end Number
end Wrangle
