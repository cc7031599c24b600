import Wrangle.Outcome

/-!
# Sorting by runs

A stable sort that looks for runs which are in order already, makes short ones
longer by insertion, and merges neighbours.  When one run of a merge wins often in
a row, the merge looks ahead for the place where the other one goes on.

For a consistent order this gives what every stable sort gives.  Values that
cannot be told apart by the order, such as an undefined number beside all other
numbers, end up where these steps leave them.
-/

namespace Wrangle
namespace Runs

/-- A test whether one item comes before another. -/
abbrev Less (alpha : Type) := alpha -> alpha -> Except Fault Bool

/-!
# Runs
-/

/-- The items that go on in the same direction after `last`, in reverse order after `run`. -/
def extend (less : Less alpha) (descending : Bool) (last : alpha) (run : List alpha) :
    List alpha -> Except Fault (List alpha × List alpha)
  | [] => .ok (run, [])
  | x :: rest => do
      if (<- less x last) == descending then extend less descending x (x :: run) rest
      else .ok (run, x :: rest)

def take (less : Less alpha) : List alpha -> Except Fault (List alpha × List alpha)
  | x :: y :: rest => do
      let descending <- less y x
      let (run, after) <- extend less descending y [y, x] rest
      .ok (if descending then run else run.reverse, after)
  | items => .ok (items, [])

/-!
# Insertion
-/

/-- The place of an item between two places of a sorted list, after its equals. -/
def placeBetween (less : Less alpha) (x : alpha) (items : Array alpha) :
    Nat -> Nat -> Nat -> Except Fault Nat
  | 0, low, _ => .ok low
  | rounds + 1, low, high =>
      if low < high then
        let middle := low + (high - low) / 2
        match items[middle]? with
        | none => .ok low
        | some y => do
            if <- less x y then placeBetween less x items rounds low middle
            else placeBetween less x items rounds (middle + 1) high
      else .ok low

def insertAll (less : Less alpha) : List alpha -> List alpha -> Except Fault (List alpha)
  | sorted, [] => .ok sorted
  | sorted, x :: rest => do
      let place <- placeBetween less x sorted.toArray (sorted.length + 1) 0 sorted.length
      insertAll less (sorted.take place ++ x :: sorted.drop place) rest

/-!
# Looking ahead
-/

/-- Steps that double while a test holds: the last one at which it held, and the next one. -/
def stride (holds : Nat -> Except Fault Bool) (limit : Nat) :
    Nat -> Nat -> Nat -> Except Fault (Nat × Nat)
  | 0, last, step => .ok (last, min step limit)
  | rounds + 1, last, step => do
      if step < limit then
        if <- holds step then stride holds limit rounds step (2 * step + 1)
        else .ok (last, step)
      else .ok (last, limit)

def firstFailure (holds : Nat -> Except Fault Bool) : Nat -> Nat -> Nat -> Except Fault Nat
  | 0, low, _ => .ok low
  | rounds + 1, low, high => do
      if low < high then
        let middle := low + (high - low) / 2
        if <- holds middle then firstFailure holds rounds (middle + 1) high
        else firstFailure holds rounds low middle
      else .ok low

/-- The number of leading places at which a test holds, found from a place nearby. -/
def gallop (holds : Nat -> Except Fault Bool) (size hint : Nat) : Except Fault Nat := do
  if <- holds hint then
    let (last, step) <- stride (fun k => holds (hint + k)) (size - hint) (size + 1) 0 1
    firstFailure holds (size + 1) (hint + last + 1) (hint + step)
  else
    let (last, step) <-
      stride (fun k => (holds (hint - k)).map not) (hint + 1) (size + 1) 0 1
    firstFailure holds (size + 1) (hint + 1 - step) (hint - last)

def countBefore (less : Less alpha) (x : alpha) (items : List alpha) (hint : Nat) :
    Except Fault Nat :=
  let array := items.toArray
  gallop (fun i => match array[i]? with | some y => less y x | none => .ok false)
    items.length hint

def countUpTo (less : Less alpha) (x : alpha) (items : List alpha) (hint : Nat) :
    Except Fault Nat :=
  let array := items.toArray
  gallop (fun i => match array[i]? with | some y => (less x y).map not | none => .ok false)
    items.length hint

/-!
# Merging
-/

def leastGallop : Nat := 7

/-- How a merge goes on: item by item with the wins of either side in a row, or looking ahead. -/
inductive Mode where
  | single (left right : Nat)
  | ahead

/-- Merge from the front; the left run keeps its last item for the end.  The number of wins after
which to look ahead is adapted on the way. -/
def mergeFront (less : Less alpha) : Nat -> Mode -> Nat -> List alpha -> List alpha -> List alpha ->
    Except Fault (List alpha × Nat)
  | rounds + 1, mode, pace, merged, x :: y :: left, z :: right =>
      match mode with
      | .single wins losses => do
          if <- less z x then
            let next := if pace <= losses + 1 then .ahead else .single 0 (losses + 1)
            mergeFront less rounds next pace (z :: merged) (x :: y :: left) right
          else
            let next := if pace <= wins + 1 then .ahead else .single (wins + 1) 0
            mergeFront less rounds next pace (x :: merged) (y :: left) (z :: right)
      | .ahead => do
          let count <- countUpTo less z (x :: y :: left) 0
          let merged := ((x :: y :: left).take count).reverse ++ merged
          match (x :: y :: left).drop count with
          | [] => .ok (merged.reverse ++ z :: right, pace)
          | [last] => .ok (merged.reverse ++ z :: right ++ [last], pace)
          | first :: left =>
              if right.isEmpty then .ok ((z :: merged).reverse ++ first :: left, pace)
              else
                let others <- countBefore less first right 0
                let merged := (right.take others).reverse ++ z :: merged
                match right.drop others with
                | [] => .ok (merged.reverse ++ first :: left, pace)
                | right =>
                    if left.length = 1 then
                      .ok ((first :: merged).reverse ++ right ++ left, pace)
                    else if leastGallop <= count || leastGallop <= others then
                      mergeFront less rounds .ahead (max 1 (pace - 1)) (first :: merged) left right
                    else
                      mergeFront less rounds (.single 0 0) (pace + 1) (first :: merged) left right
  | _, _, pace, merged, [last], right => .ok (merged.reverse ++ right ++ [last], pace)
  | _, _, pace, merged, left, right => .ok (merged.reverse ++ left ++ right, pace)

/-- Merge from the back; both runs are given from their ends.  The right run keeps its first item
for the end. -/
def mergeBack (less : Less alpha) : Nat -> Mode -> Nat -> List alpha -> List alpha -> List alpha ->
    Except Fault (List alpha × Nat)
  | rounds + 1, mode, pace, merged, x :: left, y :: z :: right =>
      match mode with
      | .single wins losses => do
          if <- less y x then
            let next := if pace <= wins + 1 then .ahead else .single (wins + 1) 0
            mergeBack less rounds next pace (x :: merged) left (y :: z :: right)
          else
            let next := if pace <= losses + 1 then .ahead else .single 0 (losses + 1)
            mergeBack less rounds next pace (y :: merged) (x :: left) (z :: right)
      | .ahead => do
          let size := left.length + 1
          let place <- countUpTo less y (x :: left).reverse (size - 1)
          let count := size - place
          let merged := ((x :: left).take count).reverse ++ merged
          match (x :: left).drop count with
          | [] => .ok ((y :: z :: right).reverse ++ merged, pace)
          | last :: left =>
              if right.isEmpty then .ok (z :: (last :: left).reverse ++ y :: merged, pace)
              else
                let size := right.length + 1
                let place <- countBefore less last (z :: right).reverse (size - 1)
                let others := size - place
                let merged := ((z :: right).take others).reverse ++ y :: merged
                match (z :: right).drop others with
                | [] => .ok ((last :: left).reverse ++ merged, pace)
                | [first] => .ok (first :: (last :: left).reverse ++ merged, pace)
                | right =>
                    if left.isEmpty then .ok (right.reverse ++ last :: merged, pace)
                    else if leastGallop <= count || leastGallop <= others then
                      mergeBack less rounds .ahead (max 1 (pace - 1)) (last :: merged) left right
                    else
                      mergeBack less rounds (.single 0 0) (pace + 1) (last :: merged) left right
  | _, _, pace, merged, left, [first] => .ok (first :: left.reverse ++ merged, pace)
  | _, _, pace, merged, left, right => .ok (right.reverse ++ left.reverse ++ merged, pace)

/-- Merge two neighbours; what is in its place on either side is left alone. -/
def merge (less : Less alpha) (pace : Nat) (left right : List alpha) :
    Except Fault (List alpha × Nat) :=
  match right with
  | [] => .ok (left, pace)
  | y :: others => do
      let start <- countUpTo less y left 0
      let head := left.take start
      let left := left.drop start
      match left.getLast? with
      | none => .ok (head ++ right, pace)
      | some x => do
          let stop <- countBefore less x right others.length
          let tail := right.drop stop
          let right := right.take stop
          let rounds := left.length + right.length
          let (merged, pace) <-
            match right, left.reverse with
            | y :: right, x :: before =>
                if left.length <= right.length + 1 then
                  mergeFront less rounds (.single 0 0) pace [y] left right
                else mergeBack less rounds (.single 0 0) pace [x] before (y :: right).reverse
            | _, _ => .ok (left, pace)
          .ok (head ++ merged ++ tail, pace)

/-!
# Sorting
-/

/-- A sorted run: where it starts, its items, and the power of the boundary behind it. -/
structure Run (alpha : Type) where
  start : Nat
  items : List alpha
  power : Nat

def boundaryPower (size : Nat) : Nat -> Nat -> Nat -> Nat -> Nat
  | 0, _, _, power => power
  | rounds + 1, a, b, power =>
      if size <= a then boundaryPower size rounds (2 * (a - size)) (2 * (b - size)) (power + 1)
      else if size <= b then power + 1
      else boundaryPower size rounds (2 * a) (2 * b) (power + 1)

/-- Merge the topmost runs while the boundary below them is deeper than a new one. -/
def collapse (less : Less alpha) (power : Nat) :
    Nat -> Nat -> List (Run alpha) -> Except Fault (List (Run alpha) × Nat)
  | rounds + 1, pace, top :: below :: rest => do
      if power < below.power then
        let (items, pace) <- merge less pace below.items top.items
        collapse less power rounds pace ({ below with items := items } :: rest)
      else .ok (top :: below :: rest, pace)
  | _, pace, runs => .ok (runs, pace)

def mergeAll (less : Less alpha) : Nat -> Nat -> List (Run alpha) -> Except Fault (List alpha)
  | rounds + 1, pace, top :: middle :: below :: rest => do
      if below.items.length < top.items.length then
        let (items, pace) <- merge less pace below.items middle.items
        mergeAll less rounds pace (top :: { below with items := items } :: rest)
      else
        let (items, pace) <- merge less pace middle.items top.items
        mergeAll less rounds pace ({ middle with items := items } :: below :: rest)
  | _ + 1, pace, [top, below] => (merge less pace below.items top.items).map Prod.fst
  | _, _, runs => .ok (runs.reverse.flatMap Run.items)

/-- The least length of runs: about the size of the list halved until it is short. -/
def leastLength : Nat -> Nat -> Nat -> Nat
  | 0, n, odd => n + odd
  | rounds + 1, n, odd => if n < 64 then n + odd else leastLength rounds (n / 2) (max odd (n % 2))

/-- Take runs from a list, and merge those that have to be merged before the next one. -/
def gather (less : Less alpha) (size least : Nat) :
    Nat -> Nat -> Nat -> List (Run alpha) -> List alpha -> Except Fault (List alpha)
  | 0, _, pace, runs, _ => mergeAll less runs.length pace runs
  | _, _, pace, runs, [] => mergeAll less runs.length pace runs
  | rounds + 1, start, pace, runs, items => do
      let (run, rest) <- take less items
      let missing := least - run.length
      let run <- insertAll less run (rest.take missing)
      let rest := rest.drop missing
      let (runs, pace) <-
        match runs with
        | [] => .ok ([], pace)
        | top :: below => do
            let a := 2 * top.start + top.items.length
            let b := a + top.items.length + run.length
            let power := boundaryPower size (size + 1) a b 0
            match <- collapse less power runs.length pace (top :: below) with
            | (top :: below, pace) => .ok ({ top with power := power } :: below, pace)
            | ([], pace) => .ok ([], pace)
      let next : Run alpha := { start := start, items := run, power := 0 }
      gather less size least rounds (start + run.length) pace (next :: runs) rest

def sort (less : Less alpha) (items : List alpha) : Except Fault (List alpha) :=
  let size := items.length
  gather less size (leastLength size size 0) size 0 leastGallop [] items

end Runs
end Wrangle
