import Wrangle.Function.Numeric

/-!
# Window functions

Functions that make a column of a column: shifts, running totals and ranks.
Missing values have no rank.
-/

namespace Wrangle
namespace Window

open Number

/-!
# Shifts
-/

/-- The number of places to fill; a count beyond the column fills all of it. -/
def filledPlaces (k : Value) (size : Nat) : Except Fault Nat := do
  if <- (Value.int (Int.ofNat size)).compareWith .less k then .ok size
  else
    match k.asInt? with
    | some n => .ok n.toNat
    | none => .error .badType

def lag (x k blank : Value) : Except Fault Value := do
  let items <- x.iterate
  if <- k.compareWith .lessEqual (.int 0) then .ok (.list items)
  else do
    let places <- filledPlaces k items.length
    .ok (.list (List.replicate places blank ++ items.take (items.length - places)))

def lead (x k blank : Value) : Except Fault Value := do
  let items <- x.iterate
  if <- k.compareWith .lessEqual (.int 0) then .ok (.list items)
  else
    match k.asInt? with
    | some n =>
        .ok (.list (items.drop n.toNat ++
          List.replicate (min n.toNat items.length) blank))
    | none => .error .badType

/-!
# Running totals
-/

def running (combine : Value -> Value -> Except Fault Value) (total : Value) :
    List Value -> Except Fault (List Value)
  | [] => .ok []
  | value :: rest =>
      if value.isMissing || total.isMissing then
        (running combine .missing rest).map (.missing :: ·)
      else do
        let number <- value.toNumber
        let next <- combine total number
        let results <- running combine next rest
        .ok (next :: results)

def cumulativeSum (x : Value) : Except Fault Value := do
  let items <- x.iterate
  (running Value.add (.int 0) items).map .list

def cumulativeProduct (x : Value) : Except Fault Value := do
  let items <- x.iterate
  (running Value.multiply (.int 1) items).map .list

/-!
# Ranks
-/

def present (items : List Value) : List (Nat × Value) :=
  items.zipIdx.filterMap fun entry =>
    if entry.1.isMissing then none else some (entry.2, entry.1)

/-- The positions of the values that are not missing, with what is found at them.  This need not be
the value: a mapping goes through its keys. -/
def positioned (x : Value) (items : List Value) : Except Fault (List (Nat × Value)) :=
  (present items).mapM fun entry =>
    (x.valueAt (.int (Int.ofNat entry.1))).map fun value => (entry.1, value)

def scatter (size : Nat) (results : List (Nat × Value)) : List Value :=
  (List.range size).map fun i => (results.lookup i).getD .missing

/-- Whether a value is equal to the one before it, if there is one. -/
def repeats (last : Option Value) (value : Value) : Except Fault Bool :=
  match last with
  | some previous => value.equals? previous
  | none => .ok false

/-- Ranks of ordered values: equal ones share the rank of the first of them. -/
def minRanksFrom (position rank : Nat) (last : Option Value) :
    List (Nat × Value) -> Except Fault (List (Nat × Nat))
  | [] => .ok []
  | (i, value) :: rest =>
      match repeats last value with
      | .error f => .error f
      | .ok same =>
          let rank := if same then rank else position
          (minRanksFrom (position + 1) rank (some value) rest).map ((i, rank) :: ·)

def denseRanksFrom (rank : Nat) (last : Option Value) :
    List (Nat × Value) -> Except Fault (List (Nat × Nat))
  | [] => .ok []
  | (i, value) :: rest =>
      match repeats last value with
      | .error f => .error f
      | .ok true => (denseRanksFrom rank last rest).map ((i, rank) :: ·)
      | .ok false => (denseRanksFrom (rank + 1) (some value) rest).map ((i, rank + 1) :: ·)

def rankValues (ranks : List (Nat × Nat)) : List (Nat × Value) :=
  ranks.map fun entry => (entry.1, .int (Int.ofNat entry.2))

/-- Give results to the values that are not missing, which are taken from the least up. -/
def ranked (x : Value) (results : List (Nat × Value) -> Except Fault (List (Nat × Value))) :
    Except Fault Value := do
  let _ <- x.size
  let items <- x.iterate
  let found <- positioned x items
  let order <- Value.sortOn Prod.snd found
  let placed <- results order
  .ok (.list (scatter items.length placed))

def minRank (x : Value) : Except Fault Value :=
  ranked x fun order => (minRanksFrom 1 1 none order).map rankValues

def denseRank (x : Value) : Except Fault Value :=
  ranked x fun order => (denseRanksFrom 0 none order).map rankValues

def share (count rank : Nat) : Except Fault Value :=
  if count <= 1 then .ok (.ofFloat 0)
  else Value.divideInts (Int.ofNat rank - 1) (Int.ofNat count - 1)

def percentRank (x : Value) : Except Fault Value :=
  ranked x fun order => do
    let ranks <- minRanksFrom 1 1 none order
    ranks.mapM fun entry =>
      (share order.length entry.2).map fun value => (entry.1, value)

def bucket (count place : Nat) (n : Value) : Except Fault Value := do
  let scaled <- (Value.int (Int.ofNat place)).multiply n
  let below <- scaled.floorDivide (.int (Int.ofNat count))
  below.add (.int 1)

def ntile (x n : Value) : Except Fault Value :=
  ranked x fun order =>
    order.zipIdx.mapM fun entry =>
      (bucket order.length entry.2 n).map fun value => (entry.1.1, value)

end Window
end Wrangle
