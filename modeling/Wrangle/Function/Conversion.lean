import Wrangle.Function.Numeric
import Wrangle.Text.Casing

/-!
# Conversions and single values

Functions of one cell: conversions between kinds, tests of kinds, and elementary
functions of numbers and texts.
-/

namespace Wrangle
namespace Conversion

open Number

/-!
# Kinds
-/

def asFloat (x : Value) : Except Fault Value :=
  match x with
  | .str s =>
      let text := Text.strip s
      if text.isEmpty then .ok .missing else (Value.str text).toFloatValue
  | _ => x.toFloatValue

/-- An integer; a text with a point or an exponent is cut, a float is rounded down. -/
def asInteger (x : Value) : Except Fault Value :=
  match x with
  | .str s =>
      let text := Text.strip s
      if text.isEmpty then .ok .missing
      else if text.toList.any fun c => c == '.' || c == 'e' || c == 'E' then do
        let number <- (Value.str text).toFloatValue
        number.toInteger
      else (Value.str text).toInteger
  | .float _ _ => x.floor
  | _ => x.toInteger

def asString (x : Value) : Except Fault Value :=
  x.text?.map .str

def isFloat : Value -> Bool
  | .float _ _ => true
  | _ => false

def isInteger : Value -> Bool
  | .int _ => true
  | _ => false

def isBool : Value -> Bool
  | .bool _ => true
  | _ => false

/-!
# Elementary functions
-/

/-- Apply a function on floats; a result out of nothing undefined is a fault. -/
def elementary (f : Float -> Float) (limit : Fault) (x : Value) : Except Fault Value := do
  let number <- x.toFloat
  let result := f number
  if Binary.isUndefined result && !Binary.isUndefined number then .error .badValue
  else if Binary.isInfinite result && (Binary.exact number).isSome then .error limit
  else .ok (.ofFloat result)

def squareRoot : Value -> Except Fault Value :=
  elementary Float.sqrt .badValue

def exponential : Value -> Except Fault Value :=
  elementary Float.exp .overflow

def logarithmOfLarge (f : Float -> Float) (n : Nat) : Float :=
  let shift := Nat.log2 n + 1
  let mantissa := (Binary.roundMagnitude false n (Nat.pow 2 shift)).getD Binary.undefined
  f mantissa + f 2 * Float.ofNat shift

def logarithmWith (f : Float -> Float) (x : Value) : Except Fault Value :=
  match x.asInt? with
  | some n =>
      if n <= 0 then .error .badValue
      else
        match Binary.ofInt n with
        | some number => .ok (.ofFloat (f number))
        | none => .ok (.ofFloat (logarithmOfLarge f n.natAbs))
  | none => elementary f .badValue x

def logarithmTen : Value -> Except Fault Value :=
  logarithmWith Float.log10

def logarithm (x base : Value) : Except Fault Value := do
  let number <- x.toNumber
  let natural <- logarithmWith Float.log number
  if base.isMissing then .ok natural
  else do
    let scale <- logarithmWith Float.log base
    natural.divide scale

/-!
# Texts
-/

def lowercase : Value -> Except Fault Value
  | .str s => .ok (.str (Text.lower s))
  | _ => .error .badType

def uppercase : Value -> Except Fault Value
  | .str s => .ok (.str (Text.upper s))
  | _ => .error .badType

def strip (x chars : Value) : Except Fault Value :=
  match x, chars with
  | .str s, .missing => .ok (.str (Text.strip s))
  | .str s, .str cs => .ok (.str (Text.stripWhere (fun c => cs.toList.contains c) s))
  | _, _ => .error .badType

end Conversion
end Wrangle
