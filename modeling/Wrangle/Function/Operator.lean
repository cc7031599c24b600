import Wrangle.Function.Numeric

/-!
# Operators

Arithmetic and comparison treat a text beside a number as a number.  Division by
zero gives an infinity or an undefined number.  The logical operators know three
truth values, the third being a missing one.
-/

namespace Wrangle

open Number

namespace Value

def infinityLike : Value -> Except Fault Value
  | float x _ =>
      .ok (ofFloat (if Binary.isNegative x then Binary.negativeInfinity else Binary.infinity))
  | value =>
      match value.asInt? with
      | some n =>
          (FloatArithmetic.ofInt n).map fun _ =>
            ofFloat (if n < 0 then Binary.negativeInfinity else Binary.infinity)
      | none => .ok (ofFloat Binary.infinity)

def isZero? (value : Value) : Except Fault Bool :=
  value.equals? (int 0)

def quotient (a b : Value) : Except Fault Value := do
  if <- b.isZero? then
    if <- a.isZero? then .ok undefinedNumber else a.infinityLike
  else a.divide b

/-!
# Logic
-/

def isFalse : Value -> Bool
  | bool false => true
  | _ => false

def isTrue : Value -> Bool
  | bool true => true
  | _ => false

def conjunction (a b : Value) : Value :=
  if a.isFalse || b.isFalse then bool false
  else if a.isMissing || b.isMissing then missing
  else bool (a.isTruthy && b.isTruthy)

def disjunction (a b : Value) : Value :=
  if a.isTrue || b.isTrue then bool true
  else if a.isMissing || b.isMissing then missing
  else bool (a.isTruthy || b.isTruthy)

def membership (a b : Value) : Except Fault Bool :=
  match b with
  | list items => a.memberOf? items
  | column items => a.memberOf? items
  | tuple items => a.memberOf? items
  | set _ => a.isIn b
  | _ => a.equals? b

end Value

/-!
# Application
-/

def BinaryOperator.applyCoerced (op : BinaryOperator) (a b : Value) : Except Fault Value :=
  match op with
  | add => a.add b
  | subtract => a.subtract b
  | multiply => a.multiply b
  | divide => a.quotient b
  | modulo => a.modulo b
  | power => a.power b
  | equal => (a.equals? b).map .bool
  | notEqual => (a.equals? b).map fun same => .bool (!same)
  | conjunction => .ok (a.conjunction b)
  | disjunction => .ok (a.disjunction b)
  | membership => (a.membership b).map .bool
  | less => (a.compareWith .less b).map .bool
  | lessEqual => (a.compareWith .lessEqual b).map .bool
  | greater => (a.compareWith .greater b).map .bool
  | greaterEqual => (a.compareWith .greaterEqual b).map .bool

def BinaryOperator.keepsKinds : BinaryOperator -> Bool
  | conjunction | disjunction | membership => true
  | _ => false

def BinaryOperator.apply (op : BinaryOperator) (a b : Value) : Except Fault Value :=
  if op.keepsKinds then op.applyCoerced a b
  else
    match a.coercePair b with
    | .ok (x, y) => op.applyCoerced x y
    | .error f => .error f

def UnaryOperator.apply (op : UnaryOperator) (a : Value) : Except Fault Value :=
  match op with
  | negate => do
      let x <- a.toNumber
      x.negate
  | invert => .ok (.bool (!a.isTruthy))

end Wrangle
