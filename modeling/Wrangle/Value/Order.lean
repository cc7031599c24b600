import Wrangle.Outcome
import Wrangle.Value.Equality
import Wrangle.Value.Runs

/-!
# Order of values

Numbers, texts, dates and times are ordered among values of their own kind, and
sequences by their first difference.  All other comparisons are type faults.

Sorting is stable and only asks whether one value is less than another.  Values
without a place among the others, such as undefined numbers, are sorted by runs.
-/

namespace Wrangle

open Number

/-!
# Comparisons
-/

inductive Comparison where
  | less
  | lessEqual
  | greater
  | greaterEqual
  deriving DecidableEq, Repr

def Comparison.holds : Comparison -> Ordering -> Bool
  | less, order => order == .lt
  | lessEqual, order => order != .gt
  | greater, order => order == .gt
  | greaterEqual, order => order != .lt

namespace Value

def compareNumbers (c : Comparison) (a b : Value) (x y : Extended) : Except Fault Bool :=
  match x.compare? y with
  | some order => .ok (c.holds order)
  | none => if a.isDecimal || b.isDecimal then .error .invalidDecimal else .ok false

def compareSets (c : Comparison) (as bs : List Value) : Bool :=
  match c with
  | .lessEqual => allWithin as bs
  | .less => allWithin as bs && decide (as.length < bs.length)
  | .greaterEqual => allWithin bs as
  | .greater => allWithin bs as && decide (bs.length < as.length)

def compareDates (c : Comparison) (d e : Date) : Bool :=
  c.holds (compare d.ordinal e.ordinal)

def compareSimple (c : Comparison) (a b : Value) : Except Fault Bool :=
  match a.asInt?, b.asInt? with
  | some m, some n => .ok (c.holds (compare m n))
  | _, _ =>
      match a.extended?, b.extended? with
      | some x, some y => compareNumbers c a b x y
      | _, _ =>
          match a, b with
          | str s, str t => .ok (c.holds (compare s t))
          | date d, date e => .ok (compareDates c d e)
          | datetime t, datetime u =>
              .ok (c.holds (compare t.toMicroseconds u.toMicroseconds))
          | time t, time u => .ok (c.holds (compare t.toMicroseconds u.toMicroseconds))
          | duration d, duration e => .ok (c.holds (compare d.microseconds e.microseconds))
          | set as, set bs => .ok (compareSets c as bs)
          | _, _ => .error .badType

mutual

def compareWith (c : Comparison) : Value -> Value -> Except Fault Bool
  | list items, b =>
      match b.asList? with
      | some others => compareItems c items others
      | none => .error .badType
  | column items, b =>
      match b.asList? with
      | some others => compareItems c items others
      | none => .error .badType
  | tuple items, tuple others => compareItems c items others
  | a, b => compareSimple c a b

def compareItems (c : Comparison) : List Value -> List Value -> Except Fault Bool
  | a :: as, b :: bs =>
      match same? a b with
      | .error f => .error f
      | .ok true => compareItems c as bs
      | .ok false => compareWith c a b
  | as, bs => .ok (c.holds (compare as.length bs.length))

end

def lessThan (a b : Value) : Except Fault Bool :=
  compareWith .less a b

end Value

/-!
# Sorting
-/

def insertSorted (less : alpha -> alpha -> Except Fault Bool) (x : alpha) :
    List alpha -> Except Fault (List alpha)
  | [] => .ok [x]
  | y :: rest =>
      match less y x with
      | .error f => .error f
      | .ok true => (insertSorted less x rest).map (y :: ·)
      | .ok false => .ok (x :: y :: rest)

def sortWith (less : alpha -> alpha -> Except Fault Bool) : List alpha -> Except Fault (List alpha)
  | [] => .ok []
  | x :: rest =>
      match sortWith less rest with
      | .error f => .error f
      | .ok sorted => insertSorted less x sorted

namespace Value

mutual

def isOrdered : Value -> Bool
  | float x _ => !Binary.isUndefined x
  | decimal d _ => !d.isUndefined
  | set _ => false
  | list items => areOrdered items
  | column items => areOrdered items
  | tuple items => areOrdered items
  | _ => true

def areOrdered : List Value -> Bool
  | [] => true
  | value :: rest => isOrdered value && areOrdered rest

end

def sortOn (key : alpha -> Value) (items : List alpha) : Except Fault (List alpha) :=
  let less (a b : alpha) := lessThan (key a) (key b)
  if items.all fun item => (key item).isOrdered then sortWith less items
  else Runs.sort less items

def sort : List Value -> Except Fault (List Value) :=
  sortOn id

def leastFrom (best : Value) : List Value -> Except Fault Value
  | [] => .ok best
  | value :: rest =>
      match lessThan value best with
      | .error f => .error f
      | .ok smaller => leastFrom (if smaller then value else best) rest

def greatestFrom (best : Value) : List Value -> Except Fault Value
  | [] => .ok best
  | value :: rest =>
      match compareWith .greater value best with
      | .error f => .error f
      | .ok larger => greatestFrom (if larger then value else best) rest

end Value
end Wrangle
