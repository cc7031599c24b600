import Wrangle.Number.Binary
import Wrangle.Outcome

/-!
# Complex numbers

A complex number is a pair of floats.  Products and quotients are computed part by
part; powers with a small integral exponent are products, and all others go
through length and angle.
-/

namespace Wrangle
namespace Number

structure ComplexFloat where
  re : Float
  im : Float

namespace ComplexFloat

def one : ComplexFloat := { re := 1, im := 0 }

def isZero (z : ComplexFloat) : Bool :=
  z.re == 0 && z.im == 0

def hasInfinitePart (z : ComplexFloat) : Bool :=
  Binary.isInfinite z.re || Binary.isInfinite z.im

def add (z w : ComplexFloat) : ComplexFloat :=
  { re := z.re + w.re, im := z.im + w.im }

def subtract (z w : ComplexFloat) : ComplexFloat :=
  { re := z.re - w.re, im := z.im - w.im }

def multiply (z w : ComplexFloat) : ComplexFloat :=
  { re := z.re * w.re - z.im * w.im, im := z.re * w.im + z.im * w.re }

def divide (z w : ComplexFloat) : Except Fault ComplexFloat :=
  if w.isZero then .error .divisionByZero
  else if w.im.abs <= w.re.abs then
    let ratio := w.im / w.re
    let denominator := w.re + w.im * ratio
    .ok { re := (z.re + z.im * ratio) / denominator, im := (z.im - z.re * ratio) / denominator }
  else
    let ratio := w.re / w.im
    let denominator := w.re * ratio + w.im
    .ok { re := (z.re * ratio + z.im) / denominator, im := (z.im * ratio - z.re) / denominator }

/-!
# Length
-/

/-- The root of a sum of two squares, larger one first, with a correction of its last bit. -/
def correctedLength (x y : Float) : Float :=
  let h := Float.sqrt (x * x + y * y)
  if h <= 2 * y then
    let delta := h - y
    h - (x * (2 * delta - x) + (delta - 2 * (x - y)) * delta) / (2 * h)
  else
    let delta := h - x
    h - (2 * delta * (x - 2 * y) + ((4 * delta - y) * y + delta * delta)) / (2 * h)

def powerOfTwo (n : Nat) : Float :=
  Binary.roundOrInfinity false (Nat.pow 2 n) 1

/-- The length of a vector whose parts are not negative, larger part first.  Very large and very
small parts are brought near to one. -/
def lengthOf (x y : Float) : Float :=
  let scale := powerOfTwo 600
  let bound := powerOfTwo 54
  if x > powerOfTwo 511 then
    if y <= x / bound then x + y else correctedLength (x / scale) (y / scale) * scale
  else if y < 1 / powerOfTwo 459 then
    if x >= y * bound then x + y else correctedLength (x * scale) (y * scale) / scale
  else if y <= x / bound then x + y
  else correctedLength x y

def length (z : ComplexFloat) : Float :=
  if z.hasInfinitePart then Binary.infinity
  else
    let x := z.re.abs
    let y := z.im.abs
    if x < y then lengthOf y x else lengthOf x y

/-- The length of a number; that of finite parts has to be finite, too. -/
def magnitude (z : ComplexFloat) : Except Fault Float :=
  let length := z.length
  if Binary.isInfinite length && !z.hasInfinitePart then .error .overflow else .ok length

/-!
# Powers
-/

def powerUpward : Nat -> ComplexFloat -> Nat -> ComplexFloat -> ComplexFloat
  | 0, _, _, result => result
  | rounds + 1, square, n, result =>
      if n = 0 then result
      else
        powerUpward rounds (square.multiply square) (n / 2)
          (if n % 2 = 1 then result.multiply square else result)

def powerInt (z : ComplexFloat) (n : Int) : Except Fault ComplexFloat :=
  let product := powerUpward 8 z n.natAbs one
  if 0 < n then .ok product else one.divide product

def powerByAngle (z w : ComplexFloat) : Except Fault ComplexFloat :=
  if z.isZero then
    if w.im != 0 || w.re < 0 then .error .divisionByZero else .ok { re := 0, im := 0 }
  else
    let size := z.length
    let angle := Float.atan2 z.im z.re
    let length := Float.pow size w.re
    let phase := angle * w.re
    let (length, phase) :=
      if w.im != 0 then (length / Float.exp (angle * w.im), phase + w.im * Float.log size)
      else (length, phase)
    if Binary.isInfinite phase then .error .divisionByZero
    else .ok { re := length * Float.cos phase, im := length * Float.sin phase }

def smallExponent : Float := 100

def power (z w : ComplexFloat) : Except Fault ComplexFloat := do
  let result <-
    if w.im == 0 && w.re.abs <= smallExponent && Binary.isIntegral w.re then
      z.powerInt ((Binary.truncate? w.re).getD 0)
    else z.powerByAngle w
  if result.hasInfinitePart then .error .overflow else .ok result

end ComplexFloat
end Number
end Wrangle
