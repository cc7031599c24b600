import Wrangle.Outcome
import Wrangle.Value.Basic

/-!
# Equality of values

Numbers are equal when their exact values are, whatever their kind; truth values
count as zero and one.  Other values are equal only to values of their own kind,
and a list is equal to a column with equal values.

An undefined number is not equal to itself.  Inside containers, and as a key, it
is the same as itself; `same` is the relation used there.

To ask a signaling number whether it is equal to a number is a fault; `equals?`
and its like tell so.
-/

namespace Wrangle

open Number

/-!
# Extended numbers
-/

inductive Extended where
  | finite (q : Rat)
  | infinite (negative : Bool)
  | undefined
  deriving DecidableEq, Repr

namespace Extended

def ofFloat (x : Float) : Extended :=
  match Binary.parts x, Binary.exact x with
  | _, some q => finite q
  | .infinite negative, none => infinite negative
  | _, none => undefined

def ofDecimal : Decimal -> Extended
  | .infinite negative => infinite negative
  | .undefined _ _ _ => undefined
  | d =>
      match d.exact with
      | some q => finite q
      | none => undefined

def compare? : Extended -> Extended -> Option Ordering
  | undefined, _ => none
  | _, undefined => none
  | finite p, finite q => some (if p < q then .lt else if p = q then .eq else .gt)
  | infinite true, infinite true => some .eq
  | infinite false, infinite false => some .eq
  | infinite true, _ => some .lt
  | _, infinite false => some .lt
  | infinite false, _ => some .gt
  | _, infinite true => some .gt

end Extended

namespace Value

def extended? : Value -> Option Extended
  | bool b => some (.finite (if b then 1 else 0))
  | int n => some (.finite (n : Rat))
  | float x _ => some (.ofFloat x)
  | decimal d _ => some (.ofDecimal d)
  | _ => none

def isDecimal : Value -> Bool
  | decimal _ _ => true
  | _ => false

def isSignaling : Value -> Bool
  | decimal d _ => d.isSignaling
  | _ => false

def identical : Value -> Value -> Bool
  | float x origin, float y origin' =>
      Binary.isUndefined x && Binary.isUndefined y && origin.isShared origin'
  | decimal d origin, decimal e origin' =>
      d.isUndefined && e.isUndefined && origin.isShared origin'
  | complex re im origin, complex re' im' origin' =>
      (Binary.isUndefined re || Binary.isUndefined im) &&
        (Binary.isUndefined re' || Binary.isUndefined im') && origin.isShared origin'
  | iterator _ _ _ origin, iterator _ _ _ origin' => origin.isShared origin'
  | other kind origin, other kind' origin' => kind == kind' && origin.isShared origin'
  | _, _ => false

/-!
# Simple values
-/

def numbersEqual (a b : Value) : Option Bool :=
  match a.asInt?, b.asInt? with
  | some m, some n => some (m == n)
  | _, _ =>
      match a.extended?, b.extended? with
      | some x, some y => some (x.compare? y == some .eq)
      | _, _ => none

def rangesEqual (start stop step start' stop' step' : Int) : Bool :=
  let size := rangeSize start stop step
  size == rangeSize start' stop' step' &&
    (size == 0 || (start == start' && (size == 1 || step == step')))

def equalsSimple (a b : Value) : Bool :=
  match numbersEqual a b with
  | some result => result
  | none =>
      match a, b with
      | missing, missing => true
      | str s, str t => s == t
      | date d, date e => d == e
      | datetime t, datetime u => t == u
      | time t, time u => t == u
      | duration d, duration e => d == e
      | complex re im _, complex re' im' _ => re == re' && im == im'
      | complex re im _, number =>
          match number.extended? with
          | some y => im == 0 && (Extended.ofFloat re).compare? y == some .eq
          | none => false
      | number, complex re im _ =>
          match number.extended? with
          | some y => im == 0 && (Extended.ofFloat re).compare? y == some .eq
          | none => false
      | range start stop step, range start' stop' step' =>
          rangesEqual start stop step start' stop' step'
      | function f, function g => f == g
      | sym name, sym name' => name == name'
      | quoted source, quoted source' => source == source'
      | iterator _ _ _ _, iterator _ _ _ _ => identical a b
      | other _ _, other _ _ => identical a b
      | _, _ => false

/-!
# All values
-/

mutual

def equals : Value -> Value -> Bool
  | list items, b =>
      match b.asList? with
      | some others => sameAll items others
      | none => false
  | column items, b =>
      match b.asList? with
      | some others => sameAll items others
      | none => false
  | tuple items, tuple others => sameAll items others
  | set items, set others => items.length == others.length && allWithin items others
  | dict entries, dict others => entries.length == others.length && entriesWithin entries others
  | a, b => equalsSimple a b

def sameAll : List Value -> List Value -> Bool
  | [], [] => true
  | a :: as, b :: bs => (identical a b || equals a b) && sameAll as bs
  | _, _ => false

def allWithin : List Value -> List Value -> Bool
  | [], _ => true
  | a :: as, bs =>
      bs.any (fun b => identical a b || equals a b) && allWithin as bs

def entriesWithin : List (Value × Value) -> List (Value × Value) -> Bool
  | [], _ => true
  | (k, v) :: rest, others =>
      others.any (fun other =>
        (identical k other.1 || equals k other.1) &&
          (identical v other.2 || equals v other.2)) &&
        entriesWithin rest others

end

def same (a b : Value) : Bool :=
  identical a b || equals a b

def memberOf (a : Value) (items : List Value) : Bool :=
  items.any (same a)

/-!
# Signaling numbers
-/

def isComparedAsNumber : Value -> Bool
  | complex _ im _ => im == 0
  | value => value.extended?.isSome

def signalsSimple (a b : Value) : Bool :=
  (a.isSignaling && b.isComparedAsNumber) || (b.isSignaling && a.isComparedAsNumber)

mutual

def signals : Value -> Value -> Bool
  | list items, b =>
      match b.asList? with
      | some others => items.length == others.length && signalsWithin items others
      | none => false
  | column items, b =>
      match b.asList? with
      | some others => items.length == others.length && signalsWithin items others
      | none => false
  | tuple items, tuple others => signalsWithin items others
  | dict entries, dict others =>
      entries.length == others.length && signalsAmong entries others
  | a, b => signalsSimple a b

def signalsWithin : List Value -> List Value -> Bool
  | a :: as, b :: bs =>
      if identical a b then signalsWithin as bs
      else signals a b || (equals a b && signalsWithin as bs)
  | _, _ => false

def signalsAmong : List (Value × Value) -> List (Value × Value) -> Bool
  | [], _ => false
  | (k, v) :: rest, others =>
      match others.find? fun entry => same k entry.1 with
      | none => false
      | some found =>
          if identical v found.2 then signalsAmong rest others
          else signals v found.2 || (equals v found.2 && signalsAmong rest others)

end

def equals? (a b : Value) : Except Fault Bool :=
  if signals a b then .error .invalidDecimal else .ok (equals a b)

def same? (a b : Value) : Except Fault Bool :=
  if identical a b then .ok true else equals? a b

/-- Whether a value is the same as one of some items, which are asked in order. -/
def memberOf? (a : Value) : List Value -> Except Fault Bool
  | [] => .ok false
  | b :: rest =>
      match same? a b with
      | .ok false => memberOf? a rest
      | answer => answer

/-!
# Keys

Only values that cannot change may be keys: a tuple when all of its items may.  A
signaling number is no key.
-/

mutual

def canBeKey : Value -> Bool
  | list _ => false
  | column _ => false
  | set _ => false
  | dict _ => false
  | tuple items => allCanBeKeys items
  | decimal d _ => !d.isSignaling
  | _ => true

def allCanBeKeys : List Value -> Bool
  | [] => true
  | value :: rest => canBeKey value && allCanBeKeys rest

end

/-- Whether a value may be looked for in a set; beside keys, sets may. -/
def canBeSought : Value -> Bool
  | set _ => true
  | value => value.canBeKey

def distinct (items : List Value) : List Value :=
  items.foldl (fun seen value => if memberOf value seen then seen else seen ++ [value]) []

end Value
end Wrangle
