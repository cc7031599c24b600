import Wrangle.Function.Numeric
import Wrangle.Number.Statistics

/-!
# Aggregates

Functions that make one value of a whole column.  Most of them give a missing
value as soon as one value of the column is missing.
-/

namespace Wrangle
namespace Aggregate

open Number

def overNumbers (x : Value) (f : List Value -> Except Fault Value) : Except Fault Value := do
  match <- x.numbers? with
  | none => .ok .missing
  | some items => f items

/-!
# Centre
-/

def pushValue (sum : RunningSum) (value : Value) : Except Fault RunningSum := do
  let x <- value.toFloat
  sum.push x

def mean (x : Value) : Except Fault Value :=
  overNumbers x fun items =>
    if items.isEmpty then .ok .undefinedNumber
    else do
      let sum <- items.foldlM pushValue RunningSum.empty
      let total <- sum.total
      let count <- FloatArithmetic.ofInt (Int.ofNat items.length)
      .ok (.ofFloat (total / count))

def middle (sorted : List Value) : Except Fault Value :=
  let half := sorted.length / 2
  let upper := (sorted[half]?).getD .missing
  if sorted.length % 2 = 1 then .ok upper
  else do
    let total <- ((sorted[half - 1]?).getD .missing).add upper
    total.divide (.int 2)

def median (x : Value) : Except Fault Value :=
  overNumbers x fun items =>
    if items.isEmpty then .ok .undefinedNumber
    else do
      let sorted <- Value.sort items
      middle sorted

/-!
# Spread
-/

inductive NumberKind where
  | whole
  | float
  | decimal
  deriving DecidableEq, Repr

/-- The kind of a result from numbers of two kinds; floats and decimals do not mix. -/
def NumberKind.join : NumberKind -> NumberKind -> Except Fault NumberKind
  | whole, kind => .ok kind
  | kind, whole => .ok kind
  | float, float => .ok float
  | decimal, decimal => .ok decimal
  | _, _ => .error .badType

def kindOf : Value -> Except Fault NumberKind
  | .bool _ => .ok .whole
  | .int _ => .ok .whole
  | .float _ _ => .ok .float
  | .decimal _ _ => .ok .decimal
  | _ => .error .badType

def commonKind (kinds : List NumberKind) : Except Fault NumberKind :=
  kinds.foldlM NumberKind.join .whole

def exactOf (value : Value) : Option Rat :=
  match value.extended? with
  | some (.finite q) => some q
  | _ => none

/-- The sum of the squared distances from the mean over one less than the count. -/
def exactVariance (qs : List Rat) : Rat :=
  let count : Rat := (qs.length : Int)
  let total := qs.foldl (fun sum q => sum + q) 0
  let squares := qs.foldl (fun sum q => sum + q * q) 0
  (count * squares - total * total) / count / (count - 1)

def ofExact (kind : NumberKind) (q : Rat) : Except Fault Value :=
  match kind with
  | .decimal => ((Decimal.ofInt q.num).divide (Decimal.ofInt q.den)).map Value.ofDecimal
  | .whole => if q.den = 1 then .ok (.int q.num) else rounded q
  | .float => rounded q
where
  rounded (q : Rat) : Except Fault Value :=
    match Binary.round q with
    | some x => .ok (.ofFloat x)
    | none => .error .overflow

/-- The kinds of numbers, latest first, and the sum of those that are not finite. -/
def survey (seen : List NumberKind × Value) (value : Value) :
    Except Fault (List NumberKind × Value) := do
  let kind <- kindOf value
  if (exactOf value).isSome then .ok (kind :: seen.1, seen.2)
  else do
    let sum <- seen.2.add value
    .ok (kind :: seen.1, sum)

/-- The exact spread of numbers, or the sum of those that are not finite. -/
def spread (items : List Value) : Except Fault (NumberKind × (Rat ⊕ Value)) := do
  let (kinds, sum) <- items.foldlM survey ([], .int 0)
  let kind <- commonKind kinds
  if items.all fun value => (exactOf value).isSome then
    .ok (kind, .inl (exactVariance (items.filterMap exactOf)))
  else do
    let share <- sum.divide (.int (Int.ofNat items.length - 1))
    .ok (kind, .inr share)

def variance (x : Value) : Except Fault Value :=
  overNumbers x fun items =>
    if items.length < 2 then .ok .undefinedNumber
    else do
      match <- spread items with
      | (kind, .inl q) => ofExact kind q
      | (_, .inr share) => .ok share

def deviation (x : Value) : Except Fault Value :=
  overNumbers x fun items =>
    if items.length < 2 then .ok .undefinedNumber
    else do
      match <- spread items with
      | (.decimal, .inl q) =>
          (Decimal.squareRootOf q.num.natAbs q.den).map Value.ofDecimal
      | (_, .inl q) =>
          match rootOfQuotient q.num.natAbs q.den with
          | some root => .ok (.ofFloat root)
          | none => .error .overflow
      | (_, .inr _) => .error .missingAttribute

/-!
# Quantiles
-/

/-- The value at a share of the way through sorted numbers, between the closest two. -/
def quantileAt (sorted : List Value) (q : Value) : Except Fault Value := do
  let greatest := Int.ofNat sorted.length - 1
  let place <- (Value.int greatest).multiply q
  let below <- place.floor
  let low := below.asInt?.getD 0
  let lower <- Value.itemAt sorted low
  let rest <- place.subtract below
  let upper <- Value.itemAt sorted (min (low + 1) greatest)
  let gap <- upper.subtract lower
  let step <- rest.multiply gap
  lower.add step

def quantile (x p : Value) : Except Fault Value :=
  overNumbers x fun items => do
    let sorted <- Value.sort items
    match p.asItems? with
    | some shares => (shares.mapM (quantileAt sorted)).map Value.list
    | none => quantileAt sorted p

/-!
# Sums and extremes
-/

def total (x : Value) : Except Fault Value :=
  overNumbers x fun items => items.foldlM Value.add (.int 0)

/-- The best value of a sequence; none when the sequence is empty or a value is missing. -/
def extreme (best : Value -> List Value -> Except Fault Value) (x : Value) : Except Fault Value :=
  if !x.isTruthy then .ok .missing
  else do
    let items <- x.iterate
    if items.any Value.isMissing then .ok .missing
    else
      match items with
      | [] => .ok .missing
      | first :: rest => best first rest

def minimum : Value -> Except Fault Value :=
  extreme Value.leastFrom

def maximum : Value -> Except Fault Value :=
  extreme Value.greatestFrom

/-!
# Counts and positions
-/

def length (x : Value) : Except Fault Value :=
  x.size.map fun n => .int (Int.ofNat n)

/-- The value at an end of a sequence; missing when the sequence is empty. -/
def atEnd (position : Int) (x : Value) : Except Fault Value := do
  let size <- x.size
  if size = 0 then .ok .missing else x.valueAt (.int position)

def first : Value -> Except Fault Value := atEnd 0

def last : Value -> Except Fault Value := atEnd (-1)

/-- The value at a position counted from one, or from the end when it is negative. -/
def nth (x i : Value) : Except Fault Value := do
  let zero := Value.int 0
  if <- i.compareWith .greater zero then do
    let size <- x.size
    if <- i.compareWith .lessEqual (.int (Int.ofNat size)) then do
      let position <- i.subtract (.int 1)
      x.valueAt position
    else .ok .missing
  else if <- i.compareWith .less zero then do
    let size <- x.size
    let distance <- i.negate
    if <- distance.compareWith .lessEqual (.int (Int.ofNat size)) then x.valueAt i
    else .ok .missing
  else .ok .missing

def distinctCount (x : Value) : Except Fault Value := do
  let items <- x.iterate
  let kept <- Value.differing items
  .ok (.int (Int.ofNat kept.length))

/-!
# Lists
-/

def skipMissing (x : Value) : Except Fault Value :=
  x.iterate.map fun items => .list (items.filter fun value => !value.isMissing)

def combine (values : List Value) : Value :=
  .list (values.flatMap fun value => value.asItems?.getD [value])

def replicate (x times : Value) : Except Fault Value :=
  match times.asInt? with
  | some n => (Value.repeated (x.asItems?.getD [x]) n).map .list
  | none => .error .badType

def coalesce (values : List Value) : Value :=
  (values.find? fun value => !value.isMissing).getD .missing

end Aggregate
end Wrangle
