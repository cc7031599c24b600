import Wrangle.Function.Signature
import Wrangle.Value.Sequence

/-!
# Iterators

An iterator gives its values one after another and may end early with a fault.  A
fault counts only when the values before it have been taken, so that a function
that needs the first few of them never meets it.
-/

namespace Wrangle

/-- How a function is called while another one runs. -/
abbrev Caller := Function -> List Value -> Outcome Value

/-- Values that come one after another, and the fault that ends them early. -/
structure Stream where
  items : List Value
  stop : Option Fault

namespace Stream

def ofList (items : List Value) : Stream :=
  { items := items, stop := none }

def ofValue (x : Value) : Except Fault Stream :=
  match x with
  | .iterator _ items stop _ => .ok { items := items, stop := stop }
  | _ => x.iterate.map ofList

def ended (stream : Stream) (value : alpha) : Except Fault alpha :=
  match stream.stop with
  | none => .ok value
  | some f => .error f

def toIterator (kind : String) (stream : Stream) : Value :=
  .iterator kind stream.items stream.stop .fresh

/-!
# Several streams at once
-/

/-- The next value of each stream, or the way in which one of them has ended. -/
def nextRow : List Stream -> Except (Option Fault) (List Value × List Stream)
  | [] => .ok ([], [])
  | stream :: others =>
      match stream.items with
      | [] => .error stream.stop
      | value :: left => do
          let (values, rest) <- nextRow others
          .ok (value :: values, { stream with items := left } :: rest)

/-- Rows of values as long as every stream has one more, at most `count` of them. -/
def rows : Nat -> List Stream -> List (List Value) × Option Fault × List Stream
  | 0, streams => ([], none, streams)
  | count + 1, streams =>
      match nextRow streams with
      | .error stop => ([], stop, streams)
      | .ok (row, rest) =>
          let (others, stop, left) := rows count rest
          (row :: others, stop, left)

def rowsOf (streams : List Stream) : List (List Value) × Option Fault × List Stream :=
  match streams with
  | [] => ([], none, [])
  | stream :: _ => rows (stream.items.length + 1) streams

end Stream

/-!
# Functions on iterators
-/

namespace Iteration

def kindOf (x : Value) : String :=
  match x with
  | .list _ | .column _ => "list_iterator"
  | .tuple _ => "tuple_iterator"
  | .set _ => "set_iterator"
  | .dict _ => "dict_keyiterator"
  | .str s => if s.toList.all fun c => c.toNat < 128 then "str_ascii_iterator" else "str_iterator"
  | _ => "range_iterator"

def iterator (x : Value) : Except Fault Value :=
  match x with
  | .iterator kind items stop origin => .ok (.iterator kind items stop origin)
  | _ => (Stream.ofValue x).map (Stream.toIterator (kindOf x))

/-- The next value of an iterator; at its end, another value if one is given. -/
def next (x : Value) (fallback : Option Value) : Except Fault Value :=
  match x with
  | .iterator _ (value :: _) _ _ => .ok value
  | .iterator _ [] (some f) _ => .error f
  | .iterator _ [] none _ =>
      match fallback with
      | some value => .ok value
      | none => .error .exhausted
  | _ => .error .badType

def reversed (x : Value) : Except Fault Value :=
  let backward (kind : String) : Except Fault Value :=
    x.iterate.map fun items => (Stream.ofList items.reverse).toIterator kind
  match x with
  | .list _ | .column _ => backward "list_reverseiterator"
  | .tuple _ | .str _ => backward "reversed"
  | .range _ _ _ => backward "range_iterator"
  | .dict _ => backward "dict_reversekeyiterator"
  | _ => .error .badType

def enumerate (x start : Value) : Except Fault Value := do
  let stream <- Stream.ofValue x
  match start.asInt? with
  | none => .error .badType
  | some n =>
      let pairs := stream.items.zipIdx.map fun entry =>
        Value.tuple [.int (n + Int.ofNat entry.2), entry.1]
      .ok ({ stream with items := pairs }.toIterator "enumerate")

/-- Whether streams of which one has ended have not all ended with the same row. -/
def isUneven (left : List Stream) : Bool :=
  left.any fun stream => !stream.items.isEmpty

def zip (xs : List Value) (strict : Bool) : Except Fault Value := do
  let streams <- xs.mapM Stream.ofValue
  let (rows, stop, left) := Stream.rowsOf streams
  let stop := if stop.isNone && strict && isUneven left then some .badValue else stop
  .ok ({ items := rows.map Value.tuple, stop := stop : Stream }.toIterator "zip")

def results (call : Caller) (f : Value) (stop : Option Fault) :
    List (List Value) -> Outcome Stream
  | [] => .ok { items := [], stop := stop }
  | row :: rest =>
      let answer :=
        match f with
        | .function g => call g row
        | _ => .error (.fault Fault.badType)
      match answer with
      | .ok value => do
          let others <- results call f stop rest
          .ok { others with items := value :: others.items }
      | .error (.fault (.raised f)) => .ok { items := [], stop := some f }
      | .error e => .error e

def map (call : Caller) (f : Value) (xs : List Value) : Outcome Value := do
  let streams <- Outcome.ofFault (xs.mapM Stream.ofValue)
  let (rows, stop, _) := Stream.rowsOf streams
  let stream <- results call f stop rows
  .ok (stream.toIterator "map")

/-- The values that a test holds for; without a test, those that count as true. -/
def filter (call : Caller) (test x : Value) : Outcome Value := do
  let stream <- Outcome.ofFault (Stream.ofValue x)
  let answers <-
    if test.isMissing then .ok stream
    else results call test stream.stop (stream.items.map fun value => [value])
  let kept := (stream.items.zip answers.items).filter fun entry => entry.2.isTruthy
  .ok ({ answers with items := kept.map Prod.fst }.toIterator "filter")

/-!
# Summaries
-/

def anyTrue (x : Value) : Except Fault Value := do
  let stream <- Stream.ofValue x
  if stream.items.any Value.isTruthy then .ok (.bool true) else stream.ended (.bool false)

def allTrue (x : Value) : Except Fault Value := do
  let stream <- Stream.ofValue x
  if stream.items.all Value.isTruthy then stream.ended (.bool true) else .ok (.bool false)

def sum (add : Value -> Value -> Except Fault Value) (x start : Value) : Except Fault Value := do
  let stream <- Stream.ofValue x
  if start.isStr then .error .badType
  else do
    let total <- stream.items.foldlM add start
    stream.ended total

end Iteration
end Wrangle
