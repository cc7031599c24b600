import Wrangle.Number.Decimal

/-!
# Sums and roots without rounding errors

The sum of floats and the square root of a quotient are computed exactly and
rounded once.
-/

namespace Wrangle
namespace Number

/-!
# Sums
-/

structure RunningSum where
  finite : Rat
  special : Option Float
  infinities : Float

namespace RunningSum

def empty : RunningSum :=
  { finite := 0, special := none, infinities := 0 }

/-- Add a float; a finite sum must not leave the range of floats on the way. -/
def push (sum : RunningSum) (x : Float) : Except Fault RunningSum :=
  match Binary.exact x with
  | some q =>
      match Binary.round (sum.finite + q) with
      | some _ => .ok { sum with finite := sum.finite + q }
      | none => .error .overflow
  | none =>
      .ok
        { finite := 0
          special := some (sum.special.getD 0 + x)
          infinities := if Binary.isInfinite x then sum.infinities + x else sum.infinities }

def total (sum : RunningSum) : Except Fault Float :=
  match sum.special with
  | some x => if Binary.isUndefined sum.infinities then .error .badValue else .ok x
  | none => .ok ((Binary.round sum.finite).getD Binary.undefined)

end RunningSum

/-!
# Square roots
-/

/-- An integer near the root of a quotient; it is odd when the root is not exact. -/
def oddRoot (num den : Nat) : Nat :=
  let quotient := num / den
  let root := squareRoot quotient
  if root * root * den = num then 2 * root else 2 * root + 1

def rootOfQuotient (num den : Nat) : Option Float :=
  let shift := (112 + Nat.log2 den - Nat.log2 num) / 2 + 1
  Binary.roundMagnitude false (oddRoot (num * Nat.pow 4 shift) den) (Nat.pow 2 (shift + 1))

end Number
end Wrangle
