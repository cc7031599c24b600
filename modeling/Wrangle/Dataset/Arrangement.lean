import Wrangle.Dataset.Partition
import Wrangle.Expr.Basic
import Wrangle.Positions

/-!
# Choosing and ordering rows
-/

namespace Wrangle
namespace Dataset

/-!
# Rows by position
-/

def rowsAt (data : Dataset) (positions : List Nat) : List (List Value) :=
  positions.filterMap fun i => data.rows[i]?

def pickedRows (positions : Positions) (group : Partition) : Outcome (List Nat) :=
  (positions.offsets group.size).map fun offsets => offsets.filterMap fun k => group.rows[k]?

def slice (positions : Positions) (data : Dataset) : Outcome Dataset := do
  let groups <- Outcome.ofFault data.partitions
  let picked <- groups.mapM (pickedRows positions)
  .ok { data with rows := data.rowsAt picked.flatten }

/-!
# Sorting
-/

/-- A row and its cell at a position; the cell has to be there. -/
def keyedRow (i : Nat) (row : List Value) : Except Fault (Value × List Value) :=
  match row[i]? with
  | some value => .ok (value, row)
  | none => .error .badIndex

def keyRank (keyed : Value × List Value) : Value :=
  keyed.1.rank

/-- Sort rows that have a cell; in reverse, rows of equal cells still keep their order. -/
def sortKeyed (reverse : Bool) (rows : List (Value × List Value)) :
    Except Fault (List (Value × List Value)) :=
  if reverse then (Value.sortOn keyRank rows.reverse).map List.reverse
  else Value.sortOn keyRank rows

def unorderable (column : String) : Outcome alpha :=
  Outcome.reject
    (UserError.coded "E_SORT_TYPES"
      ("Column " ++ Text.quoted column ++ " mixes values that cannot be ordered")
      (some "Convert the column to one type first, e.g. mutate(x = as_float(x)).") none)

def sortBy (header : List String) (key : SortKey) (rows : List (List Value)) :
    Outcome (List (List Value)) := do
  if header.contains key.column then
    let keyed <- Outcome.ofFault (rows.mapM (keyedRow (header.idxOf key.column)))
    let present := keyed.filter fun entry => !entry.1.isMissing
    let absent := keyed.filter fun entry => entry.1.isMissing
    match sortKeyed key.reverse present with
    | .ok sorted => .ok ((sorted ++ absent).map Prod.snd)
    | .error .badType => unorderable key.column
    | .error f => .error (.fault f)
  else .error (.fault Fault.badValue)

def sortRows (header : List String) (rows : List (List Value)) :
    List SortKey -> Outcome (List (List Value))
  | [] => .ok rows
  | key :: rest => do
      let sorted <- sortRows header rows rest
      sortBy header key sorted

def sort (keys : List SortKey) (data : Dataset) : Outcome Dataset :=
  (sortRows data.header data.rows keys).map fun rows => { data with rows := rows }

/-!
# Repeated and missing rows
-/

mutual

/-- A cell as it is compared with others: lists as tuples, mappings as ordered pairs. -/
def comparable : Value -> Except Fault Value
  | .list items => (comparableAll items).map .tuple
  | .column items => (comparableAll items).map .tuple
  | .dict entries =>
      match comparableEntries entries with
      | .error f => .error f
      | .ok pairs => (Value.sort pairs).map .tuple
  | value => .ok value

def comparableAll : List Value -> Except Fault (List Value)
  | [] => .ok []
  | value :: rest =>
      match comparable value with
      | .error f => .error f
      | .ok first => (comparableAll rest).map (first :: ·)

def comparableEntries : List (Value × Value) -> Except Fault (List Value)
  | [] => .ok []
  | (key, value) :: rest =>
      match comparable value with
      | .error f => .error f
      | .ok first => (comparableEntries rest).map (.tuple [key, first] :: ·)

end

def distinctKey (indices : List Nat) (row : List Value) : Except Fault (List Value) :=
  match keyCells row indices with
  | .error f => .error f
  | .ok cells =>
      match comparableAll cells with
      | .error f => .error f
      | .ok key => if Value.allCanBeKeys key then .ok key else .error .badType

def firstRows (indices : List Nat) (seen : List (List Value)) :
    List (List Value) -> Except Fault (List (List Value))
  | [] => .ok []
  | row :: rest =>
      match distinctKey indices row with
      | .error f => .error f
      | .ok key =>
          if seen.any (Value.sameAll key) then firstRows indices seen rest
          else (firstRows indices (key :: seen) rest).map (row :: ·)

def orAll (data : Dataset) (columns : List String) : List String :=
  if columns.isEmpty then data.header else columns

def unique (columns : List String) (data : Dataset) : Outcome Dataset :=
  let names := data.orAll columns
  if names.all fun name => data.header.contains name then
    (Outcome.ofFault
      (firstRows (names.map fun name => data.header.idxOf name) [] data.rows)).map
      fun rows => { data with rows := rows }
  else .error (.fault Fault.badValue)

/-- The cell of a row that a value asks for; negative positions count from the end. -/
def askedCell (header : List String) (row : List Value) (asked : Value) : Except Fault Value :=
  match ColumnRef.ofValue? asked with
  | some (.name s) =>
      if header.contains s then .ok (cellAt (header.idxOf s) row) else .error .missingKey
  | some (.position i) =>
      let i := if i < 0 then i + row.length else i
      .ok (if i < 0 then .missing else cellAt i.toNat row)
  | none => .error .missingKey

/-- Whether a row has all of the cells that are asked for; after a missing one the others do
not matter. -/
def isComplete (header : List String) (row : List Value) : List Value -> Except Fault Bool
  | [] => .ok true
  | asked :: rest =>
      match askedCell header row asked with
      | .error f => .error f
      | .ok cell => if cell.isMissing then .ok false else isComplete header row rest

def completeRows (header : List String) (asked : List Value) :
    List (List Value) -> Except Fault (List (List Value))
  | [] => .ok []
  | row :: rest =>
      match isComplete header row asked with
      | .error f => .error f
      | .ok true => (completeRows header asked rest).map (row :: ·)
      | .ok false => completeRows header asked rest

/-- Drop the rows that lack one of the cells that are asked for, by default of all columns. -/
def dropMissing (asked : List Value) (data : Dataset) : Outcome Dataset :=
  let asked := if asked.isEmpty then data.header.map Value.str else asked
  (Outcome.ofFault (completeRows data.header asked data.rows)).map
    fun rows => { data with rows := rows }

end Dataset
end Wrangle
