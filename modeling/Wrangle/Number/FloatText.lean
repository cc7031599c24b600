import Wrangle.Number.Binary
import Wrangle.Text.Layout

/-!
# Shortest decimal digits

The digits of a float are the fewest that read back as the same float.  Grids of
powers of ten are tried from coarse to fine; on each grid only the two
neighbours of the value have to be looked at, and of two that read back the
nearer one is taken.
-/

namespace Wrangle
namespace Number

/-- The decimal number `digits * 10 ^ exponent`. -/
structure Scientific where
  digits : Nat
  exponent : Int
  deriving DecidableEq, Repr

/-- The numbers that round to a float, as an interval of quarters of its last place. -/
structure RoundingInterval where
  low : Nat
  middle : Nat
  high : Nat
  inclusive : Bool
  exponent : Int

/-- The interval of a mantissa at an exponent; below a power of two it is half as wide. -/
def RoundingInterval.of (mantissa : Nat) (exponent : Int) : RoundingInterval :=
  let narrow := mantissa == Nat.pow 2 52 && decide (-1074 < exponent)
  { low := 4 * mantissa - (if narrow then 1 else 2)
    middle := 4 * mantissa
    high := 4 * mantissa + 2
    inclusive := mantissa % 2 == 0
    exponent := exponent - 2 }

def scaledBy (n : Nat) (twos tens : Int) : Nat × Nat :=
  (n * Nat.pow 2 twos.toNat * Nat.pow 10 (-tens).toNat,
    Nat.pow 2 (-twos).toNat * Nat.pow 10 tens.toNat)

def RoundingInterval.contains (interval : RoundingInterval) (grid : Int) (digits : Nat) : Bool :=
  let low := scaledBy interval.low interval.exponent grid
  let high := scaledBy interval.high interval.exponent grid
  let point := digits * low.2
  if interval.inclusive then decide (low.1 <= point) && decide (point <= high.1)
  else decide (low.1 < point) && decide (point < high.1)

/-- The grid point nearest to the value among those that read back, if there is one. -/
def RoundingInterval.pointOn (interval : RoundingInterval) (grid : Int) : Option Nat :=
  let value := scaledBy interval.middle interval.exponent grid
  let below := value.1 / value.2
  let above := below + 1
  match interval.contains grid below, interval.contains grid above with
  | true, true => some (roundQuotient value.1 value.2)
  | true, false => some below
  | false, true => some above
  | false, false => none

def RoundingInterval.firstPoint (interval : RoundingInterval) : Nat -> Int -> Scientific
  | 0, grid => { digits := 0, exponent := grid }
  | rounds + 1, grid =>
      match interval.pointOn grid with
      | some digits => { digits := digits, exponent := grid }
      | none => interval.firstPoint rounds (grid - 1)

def Scientific.trimmed : Nat -> Scientific -> Scientific
  | 0, number => number
  | rounds + 1, number =>
      if number.digits % 10 = 0 then
        Scientific.trimmed rounds { digits := number.digits / 10, exponent := number.exponent + 1 }
      else number

def shortest (mantissa : Nat) (exponent : Int) : Scientific :=
  if mantissa = 0 then { digits := 0, exponent := 0 }
  else
    let magnitude := (Int.ofNat (Nat.log2 mantissa) + exponent) * 30103 / 100000 + 2
    Scientific.trimmed 20 ((RoundingInterval.of mantissa exponent).firstPoint 22 magnitude)

/-!
# Text of floats

Floats are written with their shortest digits.  Numbers from a tenth of a
thousandth up to below ten to the sixteenth are written positionally and keep a
digit after the point; all others are written with an exponent of at least two
digits.
-/

structure FloatFormat where
  leastExponent : Int
  greatestExponent : Int
  exponentDigits : Nat

def FloatFormat.standard : FloatFormat :=
  { leastExponent := -4, greatestExponent := 15, exponentDigits := 2 }

/-- Digits with a point after `places` of them, at least one digit on either side. -/
def positional (digits : String) (places : Int) : String :=
  if places <= 0 then "0." ++ String.ofList (List.replicate (-places).toNat '0') ++ digits
  else
    let n := places.toNat
    if digits.length <= n then
      digits ++ String.ofList (List.replicate (n - digits.length) '0') ++ ".0"
    else
      String.ofList (digits.toList.take n) ++ "." ++ String.ofList (digits.toList.drop n)

def exponentText (width : Nat) (exponent : Int) : String :=
  (if exponent < 0 then "e-" else "e+") ++ Text.zeroPadded width exponent.natAbs

def exponential (width : Nat) (digits : String) (exponent : Int) : String :=
  match digits.toList with
  | [] => ""
  | [d] => String.ofList [d] ++ exponentText width exponent
  | d :: rest => String.ofList (d :: '.' :: rest) ++ exponentText width exponent

def FloatFormat.magnitude (format : FloatFormat) (number : Scientific) : String :=
  let digits := toString number.digits
  let exponent := number.exponent + Int.ofNat digits.length - 1
  if format.leastExponent <= exponent && exponent <= format.greatestExponent then
    positional digits (exponent + 1)
  else exponential format.exponentDigits digits exponent

def floatText (x : Float) : String :=
  match Binary.parts x with
  | .finite negative mantissa exponent =>
      (if negative then "-" else "") ++
        (if mantissa = 0 then "0.0"
         else FloatFormat.standard.magnitude (shortest mantissa exponent))
  | .infinite negative => if negative then "-inf" else "inf"
  | .undefined => "nan"

/-!
# Complex numbers
-/

def partText (x : Float) : String :=
  let text := floatText x
  if text.endsWith ".0" then String.ofList (text.toList.take (text.length - 2)) else text

def signedPartText (x : Float) : String :=
  let text := partText x
  if text.startsWith "-" then text else "+" ++ text

def complexText (re im : Float) : String :=
  if Binary.exact re == some 0 && !Binary.isNegative re then partText im ++ "j"
  else "(" ++ partText re ++ signedPartText im ++ "j)"

end Number
end Wrangle
