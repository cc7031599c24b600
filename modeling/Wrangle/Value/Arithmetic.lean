import Wrangle.Number.Complex
import Wrangle.Number.DecimalPower
import Wrangle.Number.FloatText
import Wrangle.Value.Order
import Wrangle.Value.Sequence
import Wrangle.Value.Template

/-!
# Arithmetic of values

Integers are exact and have no bounds.  A float beside another number makes the
result a float; a decimal goes together with decimals and integers only.  Texts
and sequences can be joined and repeated.
-/

namespace Wrangle

open Number

/-!
# Floats
-/

namespace FloatArithmetic

def ofInt (n : Int) : Except Fault Float :=
  match Binary.ofInt n with
  | some x => .ok x
  | none => .error .overflow

def truncatedRemainder (x y : Float) : Float :=
  match Binary.exact x, Binary.exact y with
  | some p, some q =>
      if q = 0 then Binary.undefined
      else
        let ratio := p / q
        let whole := if ratio < 0 then -(-ratio).floor else ratio.floor
        let rest := p - q * whole
        if rest = 0 then Binary.ofMagnitude (Binary.isNegative x) 0
        else (Binary.round rest).getD Binary.undefined
  | some _, none => if Binary.isUndefined y then Binary.undefined else x
  | none, _ => Binary.undefined

def modulo (x y : Float) : Except Fault Float :=
  if y == 0 then .error .divisionByZero
  else
    let rest := truncatedRemainder x y
    if rest == 0 then .ok (Binary.ofMagnitude (Binary.isNegative y) 0)
    else if (y < 0) != (rest < 0) then .ok (rest + y)
    else .ok rest

def floorDivide (x y : Float) : Except Fault Float :=
  if y == 0 then .error .divisionByZero
  else
    let rest := truncatedRemainder x y
    let whole := (x - rest) / y
    let ratio := if rest != 0 && (y < 0) != (rest < 0) then whole - 1 else whole
    if ratio == 0 then .ok (Binary.ofMagnitude (Binary.isNegative (x / y)) 0)
    else
      let below := ratio.floor
      .ok (if ratio - below > 0.5 then below + 1 else below)

def divide (x y : Float) : Except Fault Float :=
  if y == 0 then .error .divisionByZero else .ok (x / y)

/-- A power; a negative base with a fractional exponent leads to a complex number. -/
def power (x y : Float) : Except Fault Value :=
  let isFinite := (Binary.exact x).isSome && (Binary.exact y).isSome
  if isFinite && x == 0 && y < 0 then .error .divisionByZero
  else if isFinite && x < 0 && !Binary.isIntegral y then
    (ComplexFloat.power { re := x, im := 0 } { re := y, im := 0 }).map fun z => .ofParts z.re z.im
  else
    let result := Float.pow x y
    if isFinite && Binary.isInfinite result then .error .overflow else .ok (.ofFloat result)

end FloatArithmetic

/-!
# Pairs of numbers
-/

inductive NumberPair where
  | ints (m n : Int)
  | floats (x y : Float)
  | decimals (d e : Decimal)
  | complexes (z w : ComplexFloat)
  | faulty (f : Fault)

namespace Value

def toFloat : Value -> Except Fault Float
  | float x _ => .ok x
  | int n => FloatArithmetic.ofInt n
  | bool b => .ok (if b then 1 else 0)
  | decimal d _ => d.toFloat
  | _ => .error .badType

def asDecimal? : Value -> Option Decimal
  | decimal d _ => some d
  | int n => some (.ofInt n)
  | bool b => some (.ofInt (if b then 1 else 0))
  | _ => none

def asComplex? : Value -> Option (Except Fault ComplexFloat)
  | complex re im _ => some (.ok { re := re, im := im })
  | decimal _ _ => none
  | value =>
      match value.extended? with
      | some _ => some (value.toFloat.map fun x => { re := x, im := 0 })
      | none => none

def ofComplex (z : ComplexFloat) : Value := ofParts z.re z.im

def isComplex : Value -> Bool
  | complex _ _ _ => true
  | _ => false

/-- Bring two numbers to a common kind; none when one of them is no number. -/
def pair? (a b : Value) : Option NumberPair :=
  match a.asInt?, b.asInt? with
  | some m, some n => some (.ints m n)
  | _, _ =>
      if a.isComplex || b.isComplex then
        match a.asComplex?, b.asComplex? with
        | some (.ok z), some (.ok w) => some (.complexes z w)
        | some (.error f), some _ => some (.faulty f)
        | some _, some (.error f) => some (.faulty f)
        | _, _ => none
      else if a.isDecimal || b.isDecimal then
        match a.asDecimal?, b.asDecimal? with
        | some d, some e => some (.decimals d e)
        | _, _ => none
      else
        match a.extended?, b.extended? with
        | some _, some _ =>
            match a.toFloat, b.toFloat with
            | .ok x, .ok y => some (.floats x y)
            | .error f, _ => some (.faulty f)
            | _, .error f => some (.faulty f)
        | _, _ => none

def ofMoment? (result : Option DateTime) : Except Fault Value :=
  match result with
  | some t => .ok (datetime t)
  | none => .error .overflow

def ofDay? (result : Option Date) : Except Fault Value :=
  match result with
  | some d => .ok (date d)
  | none => .error .overflow

def ofSpan (microseconds : Int) : Except Fault Value :=
  match Duration.ofMicroseconds? microseconds with
  | some d => .ok (duration d)
  | none => .error .overflow

/-!
# Sums and differences
-/

def shiftDate (d : Date) (span : Duration) (sign : Int) : Except Fault Value :=
  ofDay? (Date.ofOrdinal? (Int.ofNat d.ordinal + sign * span.days))

def shiftMoment (t : DateTime) (span : Duration) (sign : Int) : Except Fault Value :=
  ofMoment? (DateTime.ofMicroseconds? (Int.ofNat t.toMicroseconds + sign * span.microseconds))

def add (a b : Value) : Except Fault Value :=
  match pair? a b with
  | some (.ints m n) => .ok (int (m + n))
  | some (.floats x y) => .ok (ofFloat (x + y))
  | some (.decimals d e) => (d.add e).map ofDecimal
  | some (.complexes z w) => .ok (ofComplex (z.add w))
  | some (.faulty f) => .error f
  | none =>
      match a, b with
      | str s, str t => .ok (str (s ++ t))
      | tuple as, tuple bs => .ok (tuple (as ++ bs))
      | date d, duration span => shiftDate d span 1
      | duration span, date d => shiftDate d span 1
      | datetime t, duration span => shiftMoment t span 1
      | duration span, datetime t => shiftMoment t span 1
      | duration d, duration e => ofSpan (d.microseconds + e.microseconds)
      | _, _ =>
          match a.asList?, b.asList? with
          | some as, some bs => .ok (list (as ++ bs))
          | _, _ => .error .badType

def subtract (a b : Value) : Except Fault Value :=
  match pair? a b with
  | some (.ints m n) => .ok (int (m - n))
  | some (.floats x y) => .ok (ofFloat (x - y))
  | some (.decimals d e) => (d.subtract e).map ofDecimal
  | some (.complexes z w) => .ok (ofComplex (z.subtract w))
  | some (.faulty f) => .error f
  | none =>
      match a, b with
      | set as, set bs => .ok (setOf (as.filter fun x => !x.memberOf bs))
      | date d, date e =>
          .ok (duration ⟨(Int.ofNat d.ordinal - Int.ofNat e.ordinal) * microsecondsPerDay⟩)
      | datetime t, datetime u =>
          .ok (duration ⟨Int.ofNat t.toMicroseconds - Int.ofNat u.toMicroseconds⟩)
      | date d, duration span => shiftDate d span (-1)
      | datetime t, duration span => shiftMoment t span (-1)
      | duration d, duration e => ofSpan (d.microseconds - e.microseconds)
      | _, _ => .error .badType

/-!
# Products and quotients
-/

def repeatBy (a : Value) (times : Int) : Except Fault Value :=
  match a with
  | str s => (repeatedText s times).map str
  | tuple items => (repeated items times).map tuple
  | duration d => ofSpan (d.microseconds * times)
  | _ =>
      match a.asList? with
      | some items => (repeated items times).map list
      | none => .error .badType

/-- A span times a fraction, rounded to microseconds; halves go to the even neighbour. -/
def scaleSpan (d : Duration) (q : Rat) : Except Fault Value :=
  ofSpan (roundRat (d.microseconds * q))

def scaleOf (x : Float) : Except Fault Rat :=
  match Binary.exact x with
  | some q => .ok q
  | none => .error (if Binary.isUndefined x then .badValue else .overflow)

def multiply (a b : Value) : Except Fault Value :=
  match pair? a b with
  | some (.ints m n) => .ok (int (m * n))
  | some (.floats x y) => .ok (ofFloat (x * y))
  | some (.decimals d e) => (d.multiply e).map ofDecimal
  | some (.complexes z w) => .ok (ofComplex (z.multiply w))
  | some (.faulty f) => .error f
  | none =>
      match a, b with
      | duration d, float x _ => do scaleSpan d (<- scaleOf x)
      | float x _, duration d => do scaleSpan d (<- scaleOf x)
      | _, _ =>
          match a.asInt?, b.asInt? with
          | some times, none => repeatBy b times
          | none, some times => repeatBy a times
          | _, _ => .error .badType

def divideInts (m n : Int) : Except Fault Value :=
  if n = 0 then .error .divisionByZero
  else
    match Binary.roundMagnitude (decide (m < 0) != decide (n < 0)) m.natAbs n.natAbs with
    | some x => .ok (ofFloat x)
    | none => .error .overflow

def divide (a b : Value) : Except Fault Value :=
  match pair? a b with
  | some (.ints m n) => divideInts m n
  | some (.floats x y) => (FloatArithmetic.divide x y).map ofFloat
  | some (.decimals d e) => (d.divide e).map ofDecimal
  | some (.complexes z w) => (z.divide w).map ofComplex
  | some (.faulty f) => .error f
  | none =>
      match a, b with
      | duration d, duration e => divideInts d.microseconds e.microseconds
      | duration d, float x _ => do
          let q <- scaleOf x
          if q = 0 then .error .divisionByZero else scaleSpan d q.inv
      | duration d, _ =>
          match b.asInt? with
          | some n => if n = 0 then .error .divisionByZero else scaleSpan d (n : Rat).inv
          | none => .error .badType
      | _, _ => .error .badType

def modulo (a b : Value) : Except Fault Value :=
  match a with
  | str s => (Template.fill s b).map str
  | _ =>
      match pair? a b with
      | some (.ints m n) =>
          if n = 0 then .error .divisionByZero else .ok (int (m.fmod n))
      | some (.floats x y) => (FloatArithmetic.modulo x y).map ofFloat
      | some (.decimals d e) => (d.remainder e).map ofDecimal
      | some (.complexes _ _) => .error .badType
      | some (.faulty f) => .error f
      | none =>
          match a, b with
          | duration d, duration e =>
              if e.microseconds = 0 then .error .divisionByZero
              else .ok (duration { microseconds := d.microseconds.fmod e.microseconds })
          | _, _ => .error .badType

def floorDivide (a b : Value) : Except Fault Value :=
  match pair? a b with
  | some (.ints m n) => if n = 0 then .error .divisionByZero else .ok (int (m.fdiv n))
  | some (.floats x y) => (FloatArithmetic.floorDivide x y).map ofFloat
  | some (.decimals d e) => (d.wholeQuotient e).map ofDecimal
  | some (.complexes _ _) => .error .badType
  | some (.faulty f) => .error f
  | none =>
      match a, b with
      | duration d, duration e =>
          if e.microseconds = 0 then .error .divisionByZero
          else .ok (int (d.microseconds.fdiv e.microseconds))
      | duration d, _ =>
          match b.asInt? with
          | some n =>
              if n = 0 then .error .divisionByZero else ofSpan (d.microseconds.fdiv n)
          | none => .error .badType
      | _, _ => .error .badType

/-!
# Powers
-/

/-- A power of an integer; zero and the units have theirs for exponents of any size. -/
def wholePower (m : Int) (n : Nat) : Int :=
  if n = 0 then 1
  else if m.natAbs <= 1 then if n % 2 = 0 then m * m else m
  else Int.pow m n

def powerInts (m n : Int) : Except Fault Value :=
  if 0 <= n then .ok (int (wholePower m n.toNat))
  else if m = 0 then .error .divisionByZero
  else
    match FloatArithmetic.ofInt m, FloatArithmetic.ofInt n with
    | .ok x, .ok y => FloatArithmetic.power x y
    | .error f, _ => .error f
    | _, .error f => .error f

def power (a b : Value) : Except Fault Value :=
  match pair? a b with
  | some (.ints m n) => powerInts m n
  | some (.floats x y) => FloatArithmetic.power x y
  | some (.decimals d e) => (d.power e).map ofDecimal
  | some (.complexes z w) => (z.power w).map ofComplex
  | some (.faulty f) => .error f
  | none => .error .badType

/-!
# Single numbers
-/

def negate : Value -> Except Fault Value
  | float x _ => .ok (ofFloat (-x))
  | decimal d _ => d.negate.map ofDecimal
  | complex re im _ => .ok (ofParts (-re) (-im))
  | duration d => ofSpan (-d.microseconds)
  | value =>
      match value.asInt? with
      | some n => .ok (int (-n))
      | none => .error .badType

def magnitude : Value -> Except Fault Value
  | float x _ => .ok (ofFloat x.abs)
  | decimal d _ => d.magnitude.map ofDecimal
  | complex re im _ => (ComplexFloat.magnitude { re := re, im := im }).map ofFloat
  | duration d => ofSpan d.microseconds.natAbs
  | value =>
      match value.asInt? with
      | some n => .ok (int n.natAbs)
      | none => .error .badType

def integerOf (convert : Float -> Option Int) (x : Float) : Except Fault Value :=
  match convert x with
  | some n => .ok (int n)
  | none => .error (if Binary.isUndefined x then .badValue else .overflow)

def integerOfDecimal (convert : Rat -> Int) (d : Decimal) : Except Fault Value :=
  match d.exact with
  | some q => .ok (int (convert q))
  | none =>
      match d with
      | .undefined _ _ _ => .error .badValue
      | _ => .error .overflow

def truncateRat (q : Rat) : Int :=
  if q < 0 then -(-q).floor else q.floor

def floor : Value -> Except Fault Value
  | float x _ => integerOf Binary.floor? x
  | decimal d _ => integerOfDecimal Rat.floor d
  | value =>
      match value.asInt? with
      | some n => .ok (int n)
      | none => .error .badType

def ceiling : Value -> Except Fault Value
  | float x _ => integerOf Binary.ceil? x
  | decimal d _ => integerOfDecimal (fun q => -(-q).floor) d
  | value =>
      match value.asInt? with
      | some n => .ok (int n)
      | none => .error .badType

/-- The integer part of a number; a text is read as an integer numeral. -/
def toInteger : Value -> Except Fault Value
  | float x _ => integerOf Binary.truncate? x
  | decimal d _ => integerOfDecimal truncateRat d
  | str s =>
      match readInt? s with
      | some n => .ok (int n)
      | none => .error .badValue
  | value =>
      match value.asInt? with
      | some n => .ok (int n)
      | none => .error .badType

/-- A float; a text is read as a float numeral.  A float stays the one it is. -/
def toFloatValue : Value -> Except Fault Value
  | str s =>
      match readFloat? s with
      | some x => .ok (ofFloat x)
      | none => .error .badValue
  | float x origin => .ok (float x origin)
  | value => value.toFloat.map ofFloat

end Value
end Wrangle
