import Wrangle.Outcome
import Wrangle.Text.Layout
import Wrangle.Value.Placement

/-!
# Values as sequences

Lists, tuples, sets, texts, ranges, iterators and the keys of mappings can be
walked through.
-/

namespace Wrangle
namespace Value

def countLimit : Nat := Nat.pow 2 63

def roomLimit : Nat := Nat.pow 2 33

def rangeItems (start stop step : Int) : List Value :=
  (List.range (rangeSize start stop step)).map fun i => int (start + step * Int.ofNat i)

def checkedRangeSize (start stop step : Int) : Except Fault Nat :=
  let size := rangeSize start stop step
  if size < countLimit then .ok size else .error .overflow

def checkedRangeItems (start stop step : Int) : Except Fault (List Value) := do
  let size <- checkedRangeSize start stop step
  if size < roomLimit then .ok (rangeItems start stop step) else .error .outOfMemory

/-- The integers from one to another, both included, where there is room for them. -/
def spanOf (first last : Int) : Except Fault (List Int) := do
  let size <- checkedRangeSize first (last + 1) 1
  if size < roomLimit then .ok ((List.range size).map fun i => first + Int.ofNat i)
  else .error .outOfMemory

def characters (s : String) : List Value :=
  s.toList.map fun c => str (String.ofList [c])

def iterate : Value -> Except Fault (List Value)
  | list items => .ok items
  | column items => .ok items
  | tuple items => .ok items
  | set items => .ok items
  | dict entries => .ok (entries.map Prod.fst)
  | str s => .ok (characters s)
  | range start stop step => checkedRangeItems start stop step
  | iterator _ items none _ => .ok items
  | iterator _ _ (some f) _ => .error f
  | _ => .error .badType

def size : Value -> Except Fault Nat
  | list items => .ok items.length
  | column items => .ok items.length
  | tuple items => .ok items.length
  | set items => .ok items.length
  | dict entries => .ok entries.length
  | str s => .ok s.length
  | range start stop step => checkedRangeSize start stop step
  | _ => .error .badType

def indexable : Value -> Except Fault (List Value)
  | list items => .ok items
  | column items => .ok items
  | tuple items => .ok items
  | str s => .ok (characters s)
  | range start stop step => checkedRangeItems start stop step
  | _ => .error .badType

def itemAt (items : List Value) (position : Int) : Except Fault Value :=
  let index := if position < 0 then position + Int.ofNat items.length else position
  if index < 0 then .error .badIndex
  else
    match items[index.toNat]? with
    | some value => .ok value
    | none => .error .badIndex

/-- The value of a sequence at a position, or of a mapping at a key. -/
def valueAt (x position : Value) : Except Fault Value :=
  match x with
  | dict entries =>
      if position.canBeKey then
        match entries.find? fun entry => position.same entry.1 with
        | some entry => .ok entry.2
        | none => .error .missingKey
      else .error .badType
  | _ =>
      match x.indexable, position.asInt? with
      | .ok items, some n => itemAt items n
      | .ok _, none => .error .badType
      | .error f, _ => .error f

def repeated (items : List alpha) (times : Int) : Except Fault (List alpha) :=
  if times < -(countLimit : Int) || (countLimit : Int) <= times then .error .overflow
  else if items.isEmpty then .ok []
  else if roomLimit <= items.length * times.toNat then .error .outOfMemory
  else .ok (List.replicate times.toNat items).flatten

def repeatedText (s : String) (times : Int) : Except Fault String :=
  if countLimit <= s.length * times.toNat then .error .overflow
  else (repeated s.toList times).map String.ofList

/-- The different values among those given; all of them have to be fit for keys. -/
def differing (items : List Value) : Except Fault (List Value) :=
  if allCanBeKeys items then .ok (distinct items) else .error .badType

def toSet (items : List Value) : Except Fault Value :=
  (differing items).map fun members => set (inPlace members)

def isInRange (n start stop step : Int) : Bool :=
  let within :=
    if 0 < step then decide (start <= n) && decide (n < stop)
    else decide (n <= start) && decide (stop < n)
  within && (n - start) % step == 0

def isIn (a container : Value) : Except Fault Bool :=
  match container with
  | set items => if a.canBeSought then .ok (a.memberOf items) else .error .badType
  | dict entries =>
      if a.canBeKey then .ok (a.memberOf (entries.map Prod.fst)) else .error .badType
  | str s =>
      match a with
      | str part => .ok (Text.occursIn part.toList s.toList)
      | _ => .error .badType
  | iterator _ items stop _ =>
      match a.memberOf? items, stop with
      | .ok false, some f => .error f
      | answer, _ => answer
  | sequence =>
      match sequence, a.asInt? with
      | range start stop step, some n => .ok (isInRange n start stop step)
      | _, _ =>
          match iterate sequence with
          | .ok items => a.memberOf? items
          | .error f => .error f

end Value
end Wrangle
