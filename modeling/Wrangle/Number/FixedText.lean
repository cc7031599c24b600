import Wrangle.Number.Decimal
import Wrangle.Number.FloatText

/-!
# Floats with a given number of digits

Besides the shortest form, a float can be written with a fixed number of places,
with an exponent, or in whichever of the two forms is more readable for a given
number of digits.  Halves of the exact value go to the even neighbour.
-/

namespace Wrangle
namespace Number

inductive FloatStyle where
  | places
  | exponent
  | general
  deriving DecidableEq, Repr

def pointedDigits (digits : List Char) (places : Nat) (keepPoint : Bool) : List Char :=
  let padded := List.replicate (places + 1 - digits.length) '0' ++ digits
  let whole := padded.take (padded.length - places)
  if places = 0 then if keepPoint then whole ++ ['.'] else whole
  else whole ++ '.' :: padded.drop (padded.length - places)

def leadingDigits (count num den : Nat) : Nat × Int :=
  if num = 0 then (0, 0)
  else
    let guess : Int := Int.ofNat (digitCount num) - Int.ofNat (digitCount den)
    let exponent :=
      if num * Nat.pow 10 (-guess).toNat < den * Nat.pow 10 guess.toNat then guess - 1 else guess
    let shift := Int.ofNat count - 1 - exponent
    let digits := roundQuotient (num * Nat.pow 10 shift.toNat) (den * Nat.pow 10 (-shift).toNat)
    if digits < Nat.pow 10 count then (digits, exponent) else (digits / 10, exponent + 1)

def paddedDigits (count n : Nat) : List Char :=
  (Text.zeroPadded count n).toList

/-- Drop zeros at the end of a fraction, and a point that ends the digits. -/
def withoutTrailingZeros (cs : List Char) : List Char :=
  if cs.contains '.' then
    ((cs.reverse.dropWhile fun c => c == '0').dropWhile fun c => c == '.').reverse
  else cs

def exponentStyle (digits keepZeros : List Char -> List Char) (precision num den : Nat) :
    List Char :=
  let (lead, exponent) := leadingDigits (precision + 1) num den
  keepZeros (digits (paddedDigits (precision + 1) lead)) ++ (exponentText 2 exponent).toList

def styledDigits (style : FloatStyle) (precision : Nat) (alternate : Bool) (num den : Nat) :
    List Char :=
  match style with
  | .places =>
      let units := roundQuotient (num * Nat.pow 10 precision) den
      pointedDigits (toString units).toList precision alternate
  | .exponent =>
      exponentStyle (fun digits => pointedDigits digits precision alternate) id precision num den
  | .general =>
      let count := max precision 1
      let trim := if alternate then id else withoutTrailingZeros
      let (lead, exponent) := leadingDigits count num den
      if exponent < -4 || Int.ofNat count <= exponent then
        exponentStyle (fun digits => pointedDigits digits (count - 1) alternate) trim (count - 1)
          num den
      else
        let places := (Int.ofNat count - 1 - exponent).toNat
        trim (pointedDigits (paddedDigits count lead) places alternate)

def styledText (style : FloatStyle) (precision : Nat) (alternate : Bool) (x : Float) : String :=
  match Binary.parts x with
  | .undefined => "nan"
  | .infinite negative => if negative then "-inf" else "inf"
  | .finite negative _ _ =>
      let q := (Binary.exact x).getD 0
      (if negative then "-" else "") ++
        String.ofList (styledDigits style precision alternate q.num.natAbs q.den)

end Number
end Wrangle
