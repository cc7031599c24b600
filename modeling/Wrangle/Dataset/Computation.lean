import Wrangle.Dataset.Partition
import Wrangle.Expr.Evaluate

/-!
# Computed columns

Assignments, summaries and conditions are computed for one group after another.
The values of an assignment are put back at the positions of the rows they belong
to.
-/

namespace Wrangle
namespace Dataset

/-!
# Frames
-/

def restricted (columns : List (String × List Value)) (rows : List Nat) :
    List (String × List Value) :=
  columns.map fun column => (column.1, cellsAt rows column.2)

def frame (columns : List (String × List Value)) (rows : List Nat) : Frame :=
  { columns := restricted columns rows, nrows := rows.length }

/-- One value for each row of a group: those of a column, or a single value repeated. -/
def spread (name : String) (size : Nat) (value : Value) : Outcome (List Value) :=
  match value with
  | .column items =>
      if items.length = size then .ok items
      else
        Outcome.reject
          (UserError.coded "E_LENGTH_MISMATCH"
            ("Column " ++ Text.quoted name ++ " received " ++ toString items.length ++
              " values for a group of " ++ toString size ++ " rows.")
            (some ("Expressions must produce one value per row, " ++
              "or a single value to repeat."))
            none)
  | _ => .ok (List.replicate size value)

def groupValues (callers : CallerFunctions) (columns : List (String × List Value))
    (assign : Assign) (rows : List Nat) : Outcome (List Value) :=
  Outcome.inFragment assign.fragment do
    let value <- assign.expr.evaluate callers (frame columns rows)
    spread assign.name rows.length value

/-!
# Assignments
-/

def placedValues (callers : CallerFunctions) (columns : List (String × List Value))
    (assign : Assign) : List Partition -> Outcome (List (Nat × Value))
  | [] => .ok []
  | group :: rest => do
      let values <- groupValues callers columns assign group.rows
      let others <- placedValues callers columns assign rest
      .ok (group.rows.zip values ++ others)

def computed (callers : CallerFunctions) (data : Dataset) (assign : Assign) :
    Outcome (List Value) := do
  let groups <- Outcome.ofFault data.partitions
  let placed <- placedValues callers data.columns assign groups
  .ok (scattered data.nrows placed)

def transform (callers : CallerFunctions) : List Assign -> Dataset -> Outcome Dataset
  | [], data => .ok data
  | assign :: rest, data => do
      let values <- data.computed callers assign
      transform callers rest (data.setColumn assign.name values)

def groupSizes (groups : List Partition) (nrows : Nat) : List Value :=
  scattered nrows (groups.flatMap fun group =>
    group.rows.map fun i => (i, .int (Int.ofNat group.size)))

def rowNumbers (groups : List Partition) (nrows : Nat) : List Value :=
  scattered nrows (groups.flatMap fun group =>
    group.rows.zipIdx.map fun entry => (entry.1, .int (Int.ofNat (entry.2 + 1))))

/-!
# Summaries
-/

/-- The single value of a summary; a column counts when it has just one. -/
def summaryValue (name : String) (value : Value) : Outcome Value :=
  match value with
  | .column [single] => .ok single
  | .column items =>
      Outcome.reject
        (UserError.coded "E_SUMMARIZE_NOT_SCALAR"
          ("Summary " ++ Text.quoted name ++ " produced " ++ toString items.length ++
            " values for one group.")
          (some ("Wrap the column in an aggregate such as mean(), sum(), first() " ++
            "or n_distinct()."))
          none)
  | _ => .ok value

def summaries (callers : CallerFunctions) (nrows : Nat) :
    List (String × List Value) -> List Assign -> Outcome (List (String × Value))
  | _, [] => .ok []
  | columns, assign :: rest => do
      let value <- Outcome.inFragment assign.fragment do
        let result <- assign.expr.evaluate callers { columns := columns, nrows := nrows }
        summaryValue assign.name result
      let others <-
        summaries callers nrows (putEntry columns (assign.name, List.replicate nrows value)) rest
      .ok ((assign.name, value) :: others)

/-- The row of a group: the values of its key, followed by its summaries. -/
def groupRow (callers : CallerFunctions) (data : Dataset) (assigns : List Assign)
    (group : Partition) : Outcome (List (String × Value)) := do
  let found <- summaries callers group.size (restricted data.columns group.rows) assigns
  .ok (data.groups.zip group.key ++ found)

def entriesNamed (rows : List (List (String × Value))) (name : String) : List Value :=
  rows.flatMap fun entries => (entries.filter fun entry => entry.1 == name).map Prod.snd

def summarize (callers : CallerFunctions) (assigns : List Assign) (data : Dataset) :
    Outcome Dataset := do
  let groups <- Outcome.ofFault data.partitions
  let rows <- groups.mapM (groupRow callers data assigns)
  let names := (data.groups ++ assigns.map Assign.name).eraseDups
  ofColumns (names.map fun name => (name, entriesNamed rows name))

/-!
# Conditions
-/

def truthFlags (condition : Assign) : List Value -> Outcome (List Bool)
  | [] => .ok []
  | value :: rest =>
      if value.isTruthValue then
        (truthFlags condition rest).map fun flags => (value.asBool? == some true) :: flags
      else
        Outcome.reject
          (UserError.ofKind .nonBoolean
            ("Condition " ++ Text.quoted condition.name ++ " produced " ++ value.render ++
              " (" ++ value.kindName ++ "), not true/false.")
            (some "Compare the value explicitly, e.g. x > 0 or is_missing(x).")
            (some condition.fragment))

def passingRows (callers : CallerFunctions) (columns : List (String × List Value))
    (rows : List Nat) : List Assign -> Outcome (List Nat)
  | [] => .ok rows
  | condition :: rest => do
      let values <- groupValues callers columns condition rows
      let flags <- truthFlags condition values
      let others <- passingRows callers columns rows rest
      let passing := ((rows.zip flags).filter Prod.snd).map Prod.fst
      .ok (others.filter fun i => passing.contains i)

def subset (callers : CallerFunctions) (conditions : List Assign) (data : Dataset) :
    Outcome Dataset := do
  let groups <- Outcome.ofFault data.partitions
  let kept <- groups.mapM fun group => passingRows callers data.columns group.rows conditions
  let positions := kept.flatten
  let rows := (data.rows.zipIdx.filter fun entry => positions.contains entry.2).map Prod.fst
  .ok { data with rows := rows.map (fitted data.width) }

/-!
# Choosing columns

A selection keeps, renames and computes columns.  The grouping columns of a
dataset are kept in any case: those that the selection does not name come first.
-/

def missingKeys (data : Dataset) (items : List SelectionItem) : List String :=
  data.groups.filter fun key => !(items.map SelectionItem.name).contains key

/-- The items of a selection, and before them the grouping columns that it lacks. -/
def completed (data : Dataset) (items : List SelectionItem) : List SelectionItem :=
  (data.missingKeys items).map SelectionItem.keep ++ items

def picks? : List SelectionItem -> Option (List Pick)
  | [] => some []
  | .picked pick :: rest => (picks? rest).map (pick :: ·)
  | .computed _ :: _ => none

def sourcesDiffer (picks : List Pick) : Bool :=
  (picks.map Pick.source).eraseDups.length == picks.length

def project (data : Dataset) (picks : List Pick) : Outcome Dataset :=
  if picks.all fun pick => data.header.contains pick.source then
    let cut := data.takeColumns (picks.map fun pick => data.header.idxOf pick.source)
    checked { cut with header := picks.map Pick.name }
  else .error (.fault Fault.unknownField)

def itemValues (callers : CallerFunctions) (data : Dataset) :
    SelectionItem -> Outcome (List Value)
  | .computed assign => data.computed callers assign
  | .picked pick =>
      match data.columns.lookup pick.source with
      | some values => .ok values
      | none => .error (.fault Fault.missingKey)

/-- Output columns by name; of two with the same name the later one counts. -/
def outputColumns (callers : CallerFunctions) (data : Dataset)
    (columns : List (String × List Value)) :
    List SelectionItem -> Outcome (List (String × List Value))
  | [] => .ok columns
  | item :: rest => do
      let values <- itemValues callers data item
      outputColumns callers data (putEntry columns (item.name, values)) rest

def select (callers : CallerFunctions) (items : List SelectionItem) (data : Dataset) :
    Outcome Dataset := do
  let items := data.completed items
  if items.isEmpty then .ok (flat [] [])
  else
    match picks? items with
    | some picks =>
        if sourcesDiffer picks then data.project picks else general items
    | none => general items
where
  general (items : List SelectionItem) : Outcome Dataset := do
    let columns <- outputColumns callers data [] items
    let result <- ofColumns columns
    checked { result with groups := data.groups }

end Dataset
end Wrangle
