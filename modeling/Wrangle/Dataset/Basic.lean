import Wrangle.Value.Render
import Wrangle.Value.Sequence

/-!
# Datasets

A dataset has named columns and rows of cells.  A grouped dataset also names the
columns whose values divide its rows into groups; a dataset without such columns
is flat.

Rows that come from files may be shorter or longer than the header.  Whatever
looks at rows by column takes the cells that a short row lacks for missing, and
leaves out the cells beyond the header.
-/

namespace Wrangle

structure Dataset where
  header : List String
  rows : List (List Value)
  groups : List String
  deriving Repr

/-- How a column is asked for: by its name or by its position. -/
inductive ColumnRef where
  | name (s : String)
  | position (i : Int)
  deriving DecidableEq, Repr

namespace ColumnRef

def value : ColumnRef -> Value
  | name s => .str s
  | position i => .int i

def ofValue? (v : Value) : Option ColumnRef :=
  match v with
  | .str s => some (name s)
  | _ => v.asInt?.map position

def isIn (header : List String) : ColumnRef -> Bool
  | name s => header.contains s
  | position i => 0 <= i && i < header.length

/-- The new name of a column at a position; what is said of a name goes before what is said of a
position. -/
def newName (mapping : List (ColumnRef × String)) (entry : String × Nat) : String :=
  ((mapping.lookup (.name entry.1)).or (mapping.lookup (.position entry.2))).getD entry.1

end ColumnRef

namespace Dataset

instance : Inhabited Dataset := ⟨{ header := [], rows := [], groups := [] }⟩

def flat (header : List String) (rows : List (List Value)) : Dataset :=
  { header := header, rows := rows, groups := [] }

def nrows (data : Dataset) : Nat :=
  data.rows.length

def width (data : Dataset) : Nat :=
  data.header.length

def isGrouped (data : Dataset) : Bool :=
  !data.groups.isEmpty

def ungroup (data : Dataset) : Dataset :=
  { data with groups := [] }

/-!
# Grouping
-/

def unknownKeys (data : Dataset) (keys : List Value) : Outcome alpha :=
  Outcome.reject
    (UserError.coded "E_UNKNOWN_COLUMN"
      ("Grouping column(s) not present in the data: " ++ (Value.list keys).render ++ ".")
      (some ("Available columns: " ++ Text.joined ", " data.header)) none)

def groupBy (data : Dataset) (keys : List String) : Outcome Dataset :=
  if keys.isEmpty then
    Outcome.reject
      (UserError.coded "E_GROUP_KEYS" "A grouped dataset needs at least one key column."
        (some "Use ungroup() for a flat dataset.") none)
  else
    match keys.filter fun key => !data.header.contains key with
    | [] => .ok { data with groups := keys }
    | unknown => unknownKeys data (unknown.map .str)

def regroup (data : Dataset) (keys : List String) : Outcome Dataset :=
  if keys.isEmpty then .ok data.ungroup else data.groupBy keys

def hasColumn (data : Dataset) (column : ColumnRef) : Bool :=
  column.isIn data.header

def checked (data : Dataset) : Outcome Dataset :=
  data.regroup data.groups

/-!
# Cells
-/

def fitted (width : Nat) (row : List Value) : List Value :=
  row.take width ++ List.replicate (width - row.length) .missing

def cellAt (i : Nat) (row : List Value) : Value :=
  row[i]?.getD .missing

def cellsAt (indices : List Nat) (row : List Value) : List Value :=
  indices.map fun i => cellAt i row

def rowOf (columns : List (List Value)) (i : Nat) : List Value :=
  columns.map (cellAt i)

def cellsNamed (header : List String) (name : String) (row : List Value) : List Value :=
  ((header.zip (fitted header.length row)).filter fun entry => entry.1 == name).map Prod.snd

/-- Put an entry in the place of one of the same name, or at the end. -/
def putEntry (entries : List (String × alpha)) (entry : String × alpha) :
    List (String × alpha) :=
  if entries.any fun old => old.1 == entry.1 then
    entries.map fun old => if old.1 == entry.1 then entry else old
  else entries ++ [entry]

def record (header : List String) (row : List Value) : List (String × Value) :=
  (header.zip (fitted header.length row)).foldl putEntry []

theorem fitted_length (width : Nat) (row : List Value) : (fitted width row).length = width := by
  simp [fitted]
  omega

theorem fitted_of_length (row : List Value) : fitted row.length row = row := by
  simp [fitted]

end Dataset

/-!
# Tables

The table of a dataset is what it holds beside its groups.  What is done with the
columns of a whole table is left to a library of tables, and its laws are all
that is relied on.
-/

structure Table where
  header : List String
  rows : List (List Value)

open Dataset in
/-- The operations of a library of tables, with what is relied on of them.  Columns can be cut only
where there are some, and the columns that make up a table have to be of equal length. -/
structure TableLibrary where
  columns : Table -> List (String × List Value)
  records : Table -> List (List (String × Value))
  ofColumns : List String -> List (List Value) -> Table
  cut : Table -> List Nat -> Table
  cutOut : Table -> (String -> Bool) -> Table
  rename : Table -> List (ColumnRef × String) -> Table
  columns_eq : forall table, columns table =
    table.header.eraseDups.map fun name =>
      (name, table.rows.flatMap (cellsNamed table.header name))
  records_eq : forall table, records table = table.rows.map (record table.header)
  ofColumns_nil : ofColumns [] [] = ⟨[], []⟩
  ofColumns_eq : forall header columns n, columns ≠ [] ->
    (forall cells, cells ∈ columns -> cells.length = n) ->
      ofColumns header columns = ⟨header, (List.range n).map (rowOf columns)⟩
  cut_eq : forall table indices, (forall i, i ∈ indices -> i < table.header.length) ->
    cut table indices =
      ⟨indices.filterMap fun i => table.header[i]?, table.rows.map (cellsAt indices)⟩
  cutOut_eq : forall table test, cutOut table test =
    cut table ((table.header.zipIdx.filter fun entry => !test entry.1).map Prod.snd)
  rename_eq : forall table mapping,
    (forall entry, entry ∈ mapping -> entry.1.isIn table.header = true) ->
      rename table mapping = ⟨table.header.zipIdx.map (ColumnRef.newName mapping), table.rows⟩

def longest (columns : List (List Value)) : Nat :=
  (columns.map List.length).foldl max 0

theorem longest_of_lengths {columns : List (List Value)} {n : Nat} (hsome : columns ≠ [])
    (h : forall cells, cells ∈ columns -> cells.length = n) : longest columns = n := by
  have hstays : forall rest : List (List Value), (forall cells, cells ∈ rest -> cells.length = n) ->
      (rest.map List.length).foldl max n = n := by
    intro rest hrest
    induction rest with
    | nil => rfl
    | cons cells more ih =>
        rcases List.forall_mem_cons.1 hrest with ⟨hcells, hmore⟩
        rw [List.map_cons, List.foldl_cons, hcells, Nat.max_self]
        exact ih hmore
  cases columns with
  | nil => exact absurd rfl hsome
  | cons first rest =>
      rcases List.forall_mem_cons.1 h with ⟨hfirst, hrest⟩
      rw [longest, List.map_cons, List.foldl_cons, hfirst, Nat.max_eq_right (Nat.zero_le n)]
      exact hstays rest hrest

open Dataset in
def tables : TableLibrary where
  columns table :=
    table.header.eraseDups.map fun name =>
      (name, table.rows.flatMap (cellsNamed table.header name))
  records table := table.rows.map (record table.header)
  ofColumns header columns :=
    ⟨header, (List.range (longest columns)).map (rowOf columns)⟩
  cut table indices :=
    ⟨indices.filterMap fun i => table.header[i]?, table.rows.map (cellsAt indices)⟩
  cutOut table test :=
    let kept := (table.header.zipIdx.filter fun entry => !test entry.1).map Prod.snd
    ⟨kept.filterMap fun i => table.header[i]?, table.rows.map (cellsAt kept)⟩
  rename table mapping := ⟨table.header.zipIdx.map (ColumnRef.newName mapping), table.rows⟩
  columns_eq _ := rfl
  records_eq _ := rfl
  ofColumns_nil := rfl
  ofColumns_eq _ _ _ hsome hlengths := by rw [longest_of_lengths hsome hlengths]
  cut_eq _ _ _ := rfl
  cutOut_eq _ _ := rfl
  rename_eq _ _ _ := rfl

namespace Dataset

def table (data : Dataset) : Table where
  header := data.header
  rows := data.rows

def withTable (data : Dataset) (table : Table) : Dataset where
  header := table.header
  rows := table.rows
  groups := data.groups

/-!
# Columns
-/

def columns (data : Dataset) : List (String × List Value) :=
  tables.columns data.table

def records (data : Dataset) : List (List (String × Value)) :=
  tables.records data.table

/-- The values of a column; a name that occurs more than once has all of their cells. -/
def valuesNamed (data : Dataset) (name : String) : List Value :=
  data.rows.flatMap (cellsNamed data.header name)

def firstColumn (data : Dataset) (name : String) : List Value :=
  data.rows.map (cellAt (data.header.idxOf name))

theorem columns_eq_valuesNamed (data : Dataset) :
    data.columns = data.header.eraseDups.map fun name => (name, data.valuesNamed name) :=
  tables.columns_eq data.table

theorem records_eq (data : Dataset) : data.records = data.rows.map (record data.header) :=
  tables.records_eq data.table

/-!
# Construction
-/

def ofColumns (columns : List (String × List Value)) : Outcome Dataset :=
  let values := columns.map Prod.snd
  match (values.map List.length).eraseDups with
  | [] | [_] =>
      let table := tables.ofColumns (columns.map Prod.fst) values
      .ok (flat table.header table.rows)
  | lengths =>
      Outcome.reject
        (UserError.coded "E_LENGTH_MISMATCH"
          ("Columns have different lengths: " ++ Text.lengthsText lengths ++ ".")
          (some "Every column must hold one value per row.") none)

def namesOf (records : List (List (String × Value))) : List String :=
  (records.flatMap fun entries => entries.map Prod.fst).eraseDups

/-- A flat dataset of records; a record without an entry has a missing value. -/
def ofRecords (records : List (List (String × Value))) (header : Option (List String)) :
    Outcome Dataset :=
  let names := (header.getD (namesOf records)).eraseDups
  ofColumns (names.map fun name =>
    (name, records.map fun entries => (entries.lookup name).getD .missing))

/-- What a value has to be to serve as a dataset: rows of cells, of which the first one names
the columns. -/
def ofValue (value : Value) : Outcome Dataset :=
  let refused : Outcome Dataset :=
    Outcome.reject
      (UserError.coded "E_DATASET_TYPE"
        ("Expected a Table, GroupedTable or petl table, got " ++ value.kindName ++ ".")
        (some "Wrap rows with petl, e.g. Table(petl.wrap([('a',), (1,)])).") none)
  match value.iterate with
  | .error _ => refused
  | .ok [] => refused
  | .ok (first :: rest) =>
      match first.iterate with
      | .error _ => refused
      | .ok names => do
          let rows <- Outcome.ofFault (rest.mapM Value.iterate)
          .ok (flat (names.map Value.text) rows)

/-!
# Changes
-/

/-- Put a cell at a position of a row, or at the end of a shorter one. -/
def insertCell (i : Nat) (value : Value) (row : List Value) : List Value :=
  row.take i ++ value :: row.drop i

/-- Set a column: in its place when there is one of the name, else at the end. -/
def setColumn (data : Dataset) (name : String) (values : List Value) : Dataset :=
  if data.header.contains name then
    let i := data.header.idxOf name
    { data with
      rows := List.zipWith (fun row value => (fitted data.width row).set i value)
        data.rows values }
  else
    { data with
      header := data.header ++ [name]
      rows := List.zipWith (fun row value => insertCell data.width value row)
        data.rows values }

def takeColumns (data : Dataset) (indices : List Nat) : Dataset :=
  data.withTable (tables.cut data.table indices)

def dropColumns (data : Dataset) (drop : String -> Bool) : Dataset :=
  data.withTable (tables.cutOut data.table drop)

def renameColumns (data : Dataset) (mapping : List (ColumnRef × String)) : Dataset :=
  { data.withTable (tables.rename data.table mapping) with
    groups := data.groups.map fun name => (mapping.lookup (.name name)).getD name }

theorem setColumn_nrows (data : Dataset) (name : String) (values : List Value)
    (h : values.length = data.nrows) : (data.setColumn name values).nrows = data.nrows := by
  unfold setColumn
  split <;> simp [nrows] at * <;> omega

end Dataset
end Wrangle
