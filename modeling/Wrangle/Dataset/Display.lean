import Wrangle.Dataset.Partition
import Wrangle.Text.Layout

/-!
# Datasets as text

A grid of the first rows, a summary of the size, and an overview with one line
for each column.
-/

namespace Wrangle

open Text

/-!
# Grids
-/

namespace Grid

/-- A cell of a grid: its text, and whether it stands at the right. -/
structure Cell where
  text : String
  right : Bool

def nameCell (name : String) : Cell := { text := name, right := false }

def isNumber : Value -> Bool
  | .int _ => true
  | .float _ _ => true
  | .decimal _ _ => true
  | _ => false

def valueCell (value : Value) : Cell :=
  { text := value.printed, right := isNumber value }

def filled (width : Nat) (cells : List Cell) : List Cell :=
  cells ++ List.replicate (width - cells.length) (nameCell "")

def widths (lines : List (List Cell)) : List Nat :=
  lines.foldl (fun sizes cells => List.zipWith (fun n cell => max n cell.text.length) sizes cells)
    ((lines.head?.getD []).map fun _ => 0)

def cellText (width : Nat) (cell : Cell) : String :=
  if cell.right then " " ++ padLeft width cell.text ++ " |"
  else " " ++ padRight width cell.text ++ " |"

def line (sizes : List Nat) (cells : List Cell) : String :=
  "|" ++ joined "" (List.zipWith cellText sizes cells) ++ "\n"

def rule (mark : Char) (sizes : List Nat) : String :=
  "+" ++ joined "" (sizes.map fun n => String.ofList (List.replicate (n + 2) mark) ++ "+") ++ "\n"

def render (header : List String) (rows : List (List Value)) : String :=
  let width := rows.foldl (fun n row => max n row.length) header.length
  let names := filled width (header.map nameCell)
  let cells := rows.map fun row => filled width (row.map valueCell)
  let sizes := widths (names :: cells)
  let separator := rule '-' sizes
  separator ++ line sizes names ++ rule '=' sizes ++
    joined "" (cells.map fun row => line sizes row ++ separator)

end Grid

namespace Dataset

def shownRows : Nat := 5

/-- A grid of the first rows; a limit of zero stands for the default.  With the header and the
row that tells whether there are more, the number of lines to look at has to be a count. -/
def look (data : Dataset) (limit : Int) : Except Fault String :=
  let shown := if limit = 0 then Int.ofNat shownRows else limit
  if shown + 2 < 0 || Value.countLimit <= shown + 2 then .error .badValue
  else if shown < 0 then .ok "...\n"
  else
    let rows := data.rows.take shown.toNat
    .ok (Grid.render data.header rows ++
      (if rows.length < data.nrows then "...\n" else ""))

def describe (data : Dataset) : Except Fault String := do
  let size := toString data.nrows ++ " rows x " ++ toString data.width ++ " columns"
  let grid <- data.look (Int.ofNat shownRows)
  if data.isGrouped then
    let groups <- data.partitions
    .ok ("GroupedTable(" ++ size ++ "; groups: " ++ joined ", " data.groups ++
      " [" ++ toString groups.length ++ "])\n" ++ grid)
  else .ok ("Table(" ++ size ++ ")\n" ++ grid)

/-!
# Overviews
-/

def kindsLabel (values : List Value) : String :=
  let kinds := ((values.filter fun v => !v.isMissing).map Value.kindName).eraseDups
  if kinds.isEmpty then "None"
  else
    joined "|" (kinds.mergeSort fun a b => decide (a <= b)) ++
      (if values.any Value.isMissing then "|None" else "")

def nameWidth : Nat := 15

def overviewLine (width : Int) (column : String × List Value) : String :=
  cutTo width
    (padRight nameWidth ("." ++ column.1) ++ padRight nameWidth (kindsLabel column.2) ++
      joined ", " (column.2.map Value.text))

def glimpse (data : Dataset) (width : Int) : Except Fault String := do
  let groupLines <-
    if data.isGrouped then do
      let groups <- data.partitions
      .ok ["Groups: " ++ joined ", " data.groups ++ " [" ++ toString groups.length ++ "]"]
    else .ok []
  .ok (joined "\n"
    (["Rows: " ++ toString data.nrows, "Columns: " ++ toString data.width] ++ groupLines ++
      data.columns.map (overviewLine width)))

end Dataset
end Wrangle
