import Wrangle.Outcome
import Wrangle.Number.Numeral
import Wrangle.Text.Layout

/-!
# Decimal numbers

A decimal number is an integer coefficient times a power of ten; the exponent
keeps track of places, so 1.5 and 1.50 are different numbers of equal value.
Results of arithmetic are rounded to 28 digits, halves to the even neighbour.
Results that are too large are faults, and those that are too small lose digits.

An undefined number may carry a payload, which operations hand on.  A signaling
one makes every operation fail.
-/

namespace Wrangle
namespace Number

open Text

inductive Decimal where
  | finite (negative : Bool) (coefficient : Nat) (exponent : Int)
  | infinite (negative : Bool)
  | undefined (negative signaling : Bool) (payload : Nat)
  deriving DecidableEq, Repr

namespace Decimal

/-!
# Rounding
-/

def precision : Nat := 28

def greatestExponent : Int := 999999

def leastExponent (digits : Nat) : Int :=
  1 - greatestExponent - Int.ofNat digits

def fit (digits : Nat) (negative : Bool) (coefficient : Nat) (exponent : Int) :
    Except Fault Decimal :=
  if coefficient = 0 then
    .ok (.finite negative 0 (max (leastExponent digits) (min greatestExponent exponent)))
  else
    let size := exponent + Int.ofNat (digitCount coefficient)
    let target := max exponent (max (size - Int.ofNat digits) (leastExponent digits))
    if greatestExponent < size - 1 then .error .decimalOverflow
    else if size < target then .ok (.finite negative 0 target)
    else
      let kept := roundQuotient coefficient (Nat.pow 10 (target - exponent).toNat)
      if digitCount kept <= digits then .ok (.finite negative kept target)
      else if greatestExponent < size then .error .decimalOverflow
      else .ok (.finite negative (kept / 10) (target + 1))

def rounded : Bool -> Nat -> Int -> Except Fault Decimal :=
  fit precision

def ofInt (n : Int) : Decimal :=
  .finite (decide (n < 0)) n.natAbs 0

def exact : Decimal -> Option Rat
  | .finite negative coefficient exponent =>
      let n := signed negative coefficient
      if 0 <= exponent then some ((n * Int.pow 10 exponent.toNat : Int) : Rat)
      else some (mkRat n (Nat.pow 10 (-exponent).toNat))
  | _ => none

def isZero : Decimal -> Bool
  | .finite _ coefficient _ => coefficient == 0
  | _ => false

def isNegative : Decimal -> Bool
  | .finite negative _ _ => negative
  | .infinite negative => negative
  | .undefined negative _ _ => negative

/-!
# Undefined numbers
-/

def isUndefined : Decimal -> Bool
  | .undefined _ _ _ => true
  | _ => false

def isSignaling : Decimal -> Bool
  | .undefined _ signaling _ => signaling
  | _ => false

def handedOn : Decimal -> Except Fault Decimal
  | .undefined negative signaling payload =>
      if signaling then .error .invalidDecimal
      else .ok (.undefined negative false (payload % Nat.pow 10 precision))
  | d => .ok d

/-- The result for two numbers one of which is undefined: the first such one. -/
def firstUndefined (a b : Decimal) : Except Fault Decimal :=
  if a.isUndefined && !b.isSignaling then a.handedOn else b.handedOn

/-!
# Arithmetic
-/

/-- Change the sign; a zero loses its sign, and an undefined number keeps it. -/
def negate : Decimal -> Except Fault Decimal
  | .finite negative coefficient exponent =>
      rounded (!negative && coefficient != 0) coefficient exponent
  | .infinite negative => .ok (.infinite (!negative))
  | d => d.handedOn

def magnitude : Decimal -> Except Fault Decimal
  | .finite _ coefficient exponent => rounded false coefficient exponent
  | .infinite _ => .ok (.infinite false)
  | d => d.handedOn

def aligned (negative : Bool) (coefficient : Nat) (exponent least : Int) : Int :=
  if coefficient = 0 then 0
  else signed negative (coefficient * Nat.pow 10 (exponent - least).toNat)

/-- A number that is too small to matter beside another one is as good as one unit in a place
that is not kept. -/
def lifted (c1 : Nat) (e1 : Int) (c2 : Nat) (e2 : Int) : Nat × Int :=
  let size1 := Int.ofNat (digitCount c1)
  let place := e1 - 1 + min 0 (size1 - Int.ofNat precision - 1)
  if c1 != 0 && e2 + Int.ofNat (digitCount c2) - 1 < place then (min c2 1, place) else (c2, e2)

def addAligned (n1 : Bool) (c1 : Nat) (e1 : Int) (n2 : Bool) (c2 : Nat) (e2 : Int) :
    Except Fault Decimal :=
  let (c2, e2) := lifted c1 e1 c2 e2
  let total := aligned n1 c1 e1 e2 + signed n2 c2
  rounded (if total = 0 then n1 && n2 else decide (total < 0)) total.natAbs e2

def add : Decimal -> Decimal -> Except Fault Decimal
  | .finite n1 c1 e1, .finite n2 c2 e2 =>
      if e2 <= e1 then addAligned n1 c1 e1 n2 c2 e2 else addAligned n2 c2 e2 n1 c1 e1
  | .infinite n1, .infinite n2 =>
      if n1 == n2 then .ok (.infinite n1) else .error .invalidDecimal
  | .infinite n, .finite _ _ _ => .ok (.infinite n)
  | .finite _ _ _, .infinite n => .ok (.infinite n)
  | a, b => firstUndefined a b

def opposite : Decimal -> Decimal
  | .finite negative coefficient exponent => .finite (!negative) coefficient exponent
  | .infinite negative => .infinite (!negative)
  | d => d

def subtract (a b : Decimal) : Except Fault Decimal :=
  add a b.opposite

def multiplyTo (digits : Nat) : Decimal -> Decimal -> Except Fault Decimal
  | .finite n1 c1 e1, .finite n2 c2 e2 => fit digits (n1 != n2) (c1 * c2) (e1 + e2)
  | a, b =>
      if a.isUndefined || b.isUndefined then firstUndefined a b
      else if a.isZero || b.isZero then .error .invalidDecimal
      else .ok (.infinite (a.isNegative != b.isNegative))

def multiply : Decimal -> Decimal -> Except Fault Decimal :=
  multiplyTo precision

def towardExponent (ideal : Int) : Nat -> Nat -> Int -> Nat × Int
  | 0, coefficient, exponent => (coefficient, exponent)
  | rounds + 1, coefficient, exponent =>
      if exponent < ideal && coefficient % 10 = 0 then
        towardExponent ideal rounds (coefficient / 10) (exponent + 1)
      else (coefficient, exponent)

def divideFinite (digits : Nat) (negative : Bool) (c1 : Nat) (e1 : Int) (c2 : Nat) (e2 : Int) :
    Except Fault Decimal :=
  let ideal := e1 - e2
  if c1 = 0 then fit digits negative 0 ideal
  else
    let shift : Int := Int.ofNat (digitCount c2) - Int.ofNat (digitCount c1) + digits + 1
    let top := c1 * Nat.pow 10 shift.toNat
    let bottom := c2 * Nat.pow 10 (-shift).toNat
    let quotient := top / bottom
    if top % bottom = 0 then
      let (coefficient, exponent) := towardExponent ideal (digits + 2) quotient (ideal - shift)
      fit digits negative coefficient exponent
    else
      fit digits negative (if quotient % 5 = 0 then quotient + 1 else quotient) (ideal - shift)

def divideTo (digits : Nat) : Decimal -> Decimal -> Except Fault Decimal
  | .finite n1 c1 e1, .finite n2 c2 e2 =>
      if c2 = 0 then .error (if c1 = 0 then .invalidDecimal else .decimalDivision)
      else divideFinite digits (n1 != n2) c1 e1 c2 e2
  | .infinite _, .infinite _ => .error .invalidDecimal
  | .infinite n1, .finite n2 _ _ => .ok (.infinite (n1 != n2))
  | .finite n1 _ _, .infinite n2 => .ok (.finite (n1 != n2) 0 (leastExponent digits))
  | a, b => firstUndefined a b

def divide : Decimal -> Decimal -> Except Fault Decimal :=
  divideTo precision

/-- The quotient of two coefficients, cut to an integer, and the remainder with its exponent;
none when the quotient has too many digits. -/
def divideWhole (c1 : Nat) (e1 : Int) (c2 : Nat) (e2 : Int) : Option (Nat × Nat × Int) :=
  let least := min e1 e2
  let gap := e1 + Int.ofNat (digitCount c1) - (e2 + Int.ofNat (digitCount c2))
  if c1 = 0 then some (0, 0, least)
  else if gap < 0 then some (0, c1 * Nat.pow 10 (e1 - least).toNat, least)
  else if Int.ofNat precision < gap then none
  else
    let top := c1 * Nat.pow 10 (e1 - least).toNat
    let bottom := c2 * Nat.pow 10 (e2 - least).toNat
    if precision < digitCount (top / bottom) then none
    else some (top / bottom, top % bottom, least)

def remainder : Decimal -> Decimal -> Except Fault Decimal
  | .finite n1 c1 e1, .finite _ c2 e2 =>
      if c2 = 0 then .error .invalidDecimal
      else
        match divideWhole c1 e1 c2 e2 with
        | some (_, rest, exponent) => rounded n1 rest exponent
        | none => .error .invalidDecimal
  | .finite n1 c1 e1, .infinite _ => rounded n1 c1 e1
  | a, b => if a.isUndefined || b.isUndefined then firstUndefined a b else .error .invalidDecimal

def wholeQuotient : Decimal -> Decimal -> Except Fault Decimal
  | .finite n1 c1 e1, .finite n2 c2 e2 =>
      if c2 = 0 then .error (if c1 = 0 then .invalidDecimal else .decimalDivision)
      else
        match divideWhole c1 e1 c2 e2 with
        | some (quotient, _, _) => .ok (.finite (n1 != n2) quotient 0)
        | none => .error .invalidDecimal
  | .infinite _, .infinite _ => .error .invalidDecimal
  | .infinite n1, .finite n2 _ _ => .ok (.infinite (n1 != n2))
  | .finite n1 _ _, .infinite n2 => .ok (.finite (n1 != n2) 0 0)
  | a, b => firstUndefined a b

/-!
# Text
-/

/-- Digits with a point, or with an exponent when the point would be far away. -/
def magnitudeText (coefficient : Nat) (exponent : Int) : String :=
  let digits := toString coefficient
  let length := Int.ofNat digits.length
  let adjusted := exponent + length
  let point : Int := if exponent <= 0 && -6 < adjusted then adjusted else 1
  let body :=
    if point <= 0 then
      "0." ++ String.ofList (List.replicate (-point).toNat '0') ++ digits
    else if length <= point then
      digits ++ String.ofList (List.replicate (point - length).toNat '0')
    else
      String.ofList (digits.toList.take point.toNat) ++ "." ++
        String.ofList (digits.toList.drop point.toNat)
  if adjusted = point then body
  else
    let power := adjusted - point
    body ++ "E" ++ (if power < 0 then "-" else "+") ++ toString power.natAbs

def text : Decimal -> String
  | .finite negative coefficient exponent =>
      (if negative then "-" else "") ++ magnitudeText coefficient exponent
  | .infinite negative => if negative then "-Infinity" else "Infinity"
  | .undefined negative signaling payload =>
      (if negative then "-" else "") ++ (if signaling then "sNaN" else "NaN") ++
        (if payload = 0 then "" else toString payload)

/-- Read an undefined number: its name and the digits of its payload, in small letters. -/
def undefinedOfText? (negative : Bool) (cs : List Char) : Option Decimal :=
  let (signaling, rest) :=
    match cs with
    | 's' :: rest => (true, rest)
    | _ => (false, cs)
  match rest with
  | 'n' :: 'a' :: 'n' :: payload =>
      if payload.all isDigit then some (.undefined negative signaling (digitsValue payload))
      else none
  | _ => none

def ofText? (s : String) : Option Decimal := do
  let cs := (stripChars s.toList).filter fun c => c != '_'
  let (negative, rest) := splitSign cs
  let low := lowerAscii rest
  if low = "inf".toList || low = "infinity".toList then some (.infinite negative)
  else if let some d := undefinedOfText? negative low then some d
  else
    match takeDecimal rest with
    | some (numeral, []) => some (.finite negative numeral.digits numeral.exponent)
    | _ => none

/-!
# Conversion
-/

def truncate? (d : Decimal) : Option Int :=
  d.exact.map fun q => if q < 0 then -(-q).floor else q.floor

def toFloat : Decimal -> Except Fault Float
  | .finite negative coefficient exponent =>
      .ok (DecimalNumeral.toFloat negative { digits := coefficient, exponent := exponent })
  | .infinite negative => .ok (if negative then Binary.negativeInfinity else Binary.infinity)
  | .undefined _ signaling _ => if signaling then .error .badValue else .ok Binary.undefined

/-!
# Square roots
-/

/-- The square root of a positive number; an exact one keeps half of the exponent. -/
def squareRoot (coefficient : Nat) (exponent : Int) : Nat × Int :=
  let ideal := exponent.fdiv 2
  let even := if exponent % 2 = 0 then coefficient else 10 * coefficient
  let places := precision + 2
  let square := even * Nat.pow 10 (2 * places)
  let root := Number.squareRoot square
  if root * root = square then towardExponent ideal places root (ideal - places)
  else (if root % 5 = 0 then root + 1 else root, ideal - places)

def neighbours (coefficient : Nat) (exponent : Int) : (Nat × Int) × (Nat × Int) :=
  let spare := precision - digitCount coefficient
  let full := coefficient * Nat.pow 10 spare
  let least := exponent - spare
  let below :=
    if full = Nat.pow 10 (precision - 1) then (10 * full - 1, least - 1) else (full - 1, least)
  (below, (full + 1, least))

def ratOf (coefficient : Nat) (exponent : Int) : Rat :=
  (coefficient * Nat.pow 10 exponent.toNat : Nat) / (Nat.pow 10 (-exponent).toNat : Nat)

def halfwaySquare (x y : Nat × Int) : Rat :=
  let middle := (ratOf x.1 x.2 + ratOf y.1 y.2) / 2
  middle * middle

/-- The number nearest to the square root of a fraction: the root of the rounded
quotient, or one of its neighbours. -/
def squareRootOf (num den : Nat) : Except Fault Decimal := do
  if num = 0 then .ok (.finite false 0 (-1))
  else
    match <- divideFinite precision false num 0 den 0 with
    | .finite _ c e =>
        let (start, least) := squareRoot c e
        match <- rounded false start least with
        | .finite _ root exponent =>
            let (below, above) := neighbours root exponent
            let q : Rat := mkRat num den
            if halfwaySquare (root, exponent) above < q then .ok (.finite false above.1 above.2)
            else if q < halfwaySquare (root, exponent) below then
              .ok (.finite false below.1 below.2)
            else .ok (.finite false root exponent)
        | d => .ok d
    | d => .ok d

end Decimal
end Number
end Wrangle
