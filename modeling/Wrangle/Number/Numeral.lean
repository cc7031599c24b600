import Wrangle.Number.Binary
import Wrangle.Text.CharRanges

/-!
# Numerals

Reading of numbers from text.  Space around a numeral does not count, digits of
every script do, and a single underscore may stand between two digits.
-/

namespace Wrangle
namespace Number

open Text

/-!
# Digits
-/

def digitGroups? : List Char -> Option (List Char)
  | [] => none
  | [c] => if isDigit c then some [c] else none
  | c :: '_' :: rest =>
      if isDigit c then (digitGroups? rest).map (c :: ·) else none
  | c :: rest => if isDigit c then (digitGroups? rest).map (c :: ·) else none

def splitSign : List Char -> Bool × List Char
  | '-' :: rest => (true, rest)
  | '+' :: rest => (false, rest)
  | cs => (false, cs)

def signed (negative : Bool) (n : Nat) : Int :=
  if negative then -Int.ofNat n else Int.ofNat n

def digitLimit : Nat := 4300

/-- Read an integer numeral, unless it has too many digits; zeros in front count. -/
def readInt? (s : String) : Option Int :=
  let (negative, rest) := splitSign (stripSpaces s.toList)
  match digitGroups? rest with
  | some digits =>
      if digits.length <= digitLimit then some (signed negative (digitsValue digits)) else none
  | none => none

def digitCount (n : Nat) : Nat :=
  let guess := Nat.log2 n * 30103 / 100000
  if n = 0 then 1
  else if n < Nat.pow 10 guess then guess
  else if n < Nat.pow 10 (guess + 1) then guess + 1
  else guess + 2

def isTooLong (n : Int) : Bool :=
  decide (digitLimit < digitCount n.natAbs)

/-!
# Decimal numerals

A decimal numeral has digits before or after a point, and maybe an exponent.
-/

/-- A decimal numeral: its digits as one integer, times a power of ten. -/
structure DecimalNumeral where
  digits : Nat
  exponent : Int

def takeDigits (cs : List Char) : List Char × List Char :=
  (cs.takeWhile isDigit, cs.dropWhile isDigit)

/-- An exponent at the start of a text, and the rest; a mark without digits is no exponent. -/
def takeExponent : List Char -> Int × List Char
  | c :: rest =>
      if c == 'e' || c == 'E' then
        let (negative, tail) := splitSign rest
        let (digits, after) := takeDigits tail
        if digits.isEmpty then (0, c :: rest) else (signed negative (digitsValue digits), after)
      else (0, c :: rest)
  | [] => (0, [])

/-- The longest decimal numeral without a sign at the start of a text, and the rest. -/
def takeDecimal (cs : List Char) : Option (DecimalNumeral × List Char) :=
  let (whole, rest) := takeDigits cs
  let (fraction, tail) :=
    match rest with
    | '.' :: after =>
        let (digits, tail) := takeDigits after
        if whole.isEmpty && digits.isEmpty then ([], rest) else (digits, tail)
    | _ => ([], rest)
  if whole.isEmpty && fraction.isEmpty then none
  else
    let (exponent, remainder) := takeExponent tail
    some ({ digits := digitsValue (whole ++ fraction)
            exponent := exponent - Int.ofNat fraction.length }, remainder)

def DecimalNumeral.toFloat (negative : Bool) (numeral : DecimalNumeral) : Float :=
  let size := numeral.exponent + Int.ofNat (digitCount numeral.digits)
  if numeral.digits = 0 then Binary.ofMagnitude negative 0
  else if 400 < size then if negative then Binary.negativeInfinity else Binary.infinity
  else if size < -400 then Binary.ofMagnitude negative 0
  else if 0 <= numeral.exponent then
    Binary.roundOrInfinity negative (numeral.digits * Nat.pow 10 numeral.exponent.toNat) 1
  else Binary.roundOrInfinity negative numeral.digits (Nat.pow 10 (-numeral.exponent).toNat)

def dropUnderscores : Option Char -> List Char -> Option (List Char)
  | _, [] => some []
  | before, '_' :: rest =>
      match before, rest with
      | some b, next :: _ =>
          if isDigit b && isDigit next then dropUnderscores (some '_') rest else none
      | _, _ => none
  | _, c :: rest => (dropUnderscores (some c) rest).map (c :: ·)

def lowerAscii (cs : List Char) : List Char :=
  cs.map Char.toLower

def takeNamed (negative : Bool) (cs : List Char) : Option (Float × List Char) :=
  let low := lowerAscii cs
  let infinite := if negative then Binary.negativeInfinity else Binary.infinity
  if "infinity".toList.isPrefixOf low then some (infinite, cs.drop 8)
  else if "inf".toList.isPrefixOf low then some (infinite, cs.drop 3)
  else if "nan".toList.isPrefixOf low then some (Binary.undefined, cs.drop 3)
  else none

/-- The longest float numeral with an optional sign at the start of a text, and the rest. -/
def takeFloat (cs : List Char) : Option (Float × List Char) :=
  let (negative, rest) := splitSign cs
  match takeDecimal rest with
  | some (numeral, after) => some (numeral.toFloat negative, after)
  | none => takeNamed negative rest

def readFloat? (s : String) : Option Float := do
  let cs <- dropUnderscores none (stripSpaces s.toList)
  match takeFloat cs with
  | some (x, []) => some x
  | _ => none

/-!
# Complex numerals
-/

def isImaginaryMark (c : Char) : Bool :=
  c == 'j' || c == 'J'

def unit (negative : Bool) : Float :=
  Binary.roundOrInfinity negative 1 1

/-- The parts of a complex numeral at the start of a text, and the rest. -/
def takeComplex (cs : List Char) : Option (Float × Float × List Char) :=
  match takeFloat cs with
  | some (x, c :: rest) =>
      if c == '+' || c == '-' then
        match takeFloat (c :: rest) with
        | some (y, mark :: after) => if isImaginaryMark mark then some (x, y, after) else none
        | some (_, []) => none
        | none =>
            match rest with
            | mark :: after =>
                if isImaginaryMark mark then some (x, unit (c == '-'), after) else none
            | [] => none
      else if isImaginaryMark c then some (Binary.ofMagnitude false 0, x, rest)
      else some (x, Binary.ofMagnitude false 0, c :: rest)
  | some (x, []) => some (x, Binary.ofMagnitude false 0, [])
  | none =>
      let (negative, rest) := splitSign cs
      match rest with
      | mark :: after =>
          if isImaginaryMark mark then some (Binary.ofMagnitude false 0, unit negative, after)
          else none
      | [] => none

def readComplex? (s : String) : Option (Float × Float) := do
  let cs <- dropUnderscores none (stripSpaces s.toList)
  let (bracketed, inner) :=
    match cs with
    | '(' :: rest => (true, dropSpaces rest)
    | _ => (false, cs)
  let (re, im, after) <- takeComplex inner
  match bracketed, dropSpaces after with
  | true, ')' :: tail => if (dropSpaces tail).isEmpty then some (re, im) else none
  | false, [] => some (re, im)
  | _, _ => none

end Number
end Wrangle
