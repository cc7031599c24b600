import Wrangle.Dataset.Basic
import Wrangle.Delimited.Reader
import Wrangle.Delimited.Writer
import Wrangle.Folder
import Wrangle.Number.Binary
import Wrangle.Number.Numeral
import Wrangle.Text.Casing
import Wrangle.Text.Encoding
import Wrangle.Value.Equality
import Wrangle.Value.Render

/-!
# Conversion of cells

Cells are read as texts.  Those that stand for a missing value are replaced by
one, and those that look like numbers become numbers.  Cells beyond the header,
and those of a column whose name another one before it has, stay as they are.
-/

namespace Wrangle
namespace Delimited

/-!
# Cells
-/

def replaceMarker (markers : List Value) (cell : Value) : Value :=
  if markers.any cell.equals then .missing else cell

def numberOrText (s : String) : Value :=
  match Number.readInt? s with
  | some n => .int n
  | none =>
      match Number.readFloat? s with
      | some x => .ofFloat x
      | none =>
          match Number.readComplex? s with
          | some (re, im) => .ofParts re im
          | none => .str s

/-- Numbers that are read as such lose their fraction; an infinite one is lost as a whole. -/
def wholeNumber (x : Float) : Value :=
  match Number.Binary.truncate? x with
  | some n => .int n
  | none => if x.isNaN then .ofFloat x else .missing

def toNumber : Value -> Value
  | .str s => numberOrText s
  | .float x _ => wholeNumber x
  | cell => cell

/-!
# Rows
-/

/-- The position that a name of the header stands for: the first one that has the name.  An
integer is taken for a position. -/
def positionOf (header : List String) : Value -> Except Fault Int
  | .str name => .ok (Int.ofNat (header.idxOf name))
  | name =>
      if !name.canBeKey then .error .badType
      else
        match name.asInt? with
        | some n => .ok n
        | none => .error .unknownField

def convertRow (convert : Value -> Value) (positions : List Int) (row : List Value) :
    List Value :=
  row.zipIdx.map fun entry =>
    if positions.contains (Int.ofNat entry.2) then convert entry.1 else entry.1

def convertRows (convert : Value -> Value) (names : List Value) (rows : List (List Value)) :
    Except Fault (List (List Value)) := do
  let positions <- names.mapM (positionOf (names.map Value.text))
  .ok (rows.map (convertRow convert positions))

def positionsOf (header : List String) : List Int :=
  header.map fun name => Int.ofNat (header.idxOf name)

theorem convertRows_names (convert : Value -> Value) (header : List String)
    (rows : List (List Value)) :
    convertRows convert (header.map .str) rows =
      .ok (rows.map (convertRow convert (positionsOf header))) := by
  have htexts : (header.map Value.str).map Value.text = header := by
    rw [List.map_map]
    exact List.map_id header
  have hpositions : forall names : List String,
      (names.map Value.str).mapM (positionOf header) =
        .ok (names.map fun name => Int.ofNat (header.idxOf name)) := by
    intro names
    induction names with
    | nil => rfl
    | cons name rest ih =>
        rw [List.map_cons, List.mapM_cons, ih]
        rfl
  rw [convertRows, htexts, hpositions]
  rfl

theorem toNumber_ne_str {cell : Value} (h : forall s, cell ≠ .str s) (s : String) :
    toNumber cell ≠ .str s := by
  unfold toNumber
  split
  · exact absurd rfl (h _)
  · unfold wholeNumber
    split
    · exact Value.noConfusion
    · split <;> exact Value.noConfusion
  · exact h s

/-!
# Delimited files

Datasets are read from files and written to them.  The kind of a file is given,
or known from the end of its name.  What goes wrong with a file is reported with
its path and the kind of the fault.
-/

/-!
# Kinds of files
-/

inductive FileKind where
  | commas
  | tabs
  deriving DecidableEq, Repr

def FileKind.ofName? (name : String) : Option FileKind :=
  match name with
  | "csv" => some .commas
  | "tsv" => some .tabs
  | _ => none

def FileKind.complete (kind : FileKind) (options : List (String × Value)) :
    List (String × Value) :=
  match kind with
  | .commas => options
  | .tabs =>
      if (options.lookup "delimiter").isSome then options
      else options ++ [("delimiter", .str "\t")]

/-- A file is where a dataset comes from, or where it goes to. -/
inductive Role where
  | source
  | sink
  deriving DecidableEq, Repr

def Role.code (role : Role) (code : String) : String :=
  match role with
  | .source => "E_SOURCE_" ++ code
  | .sink => "E_SINK_" ++ code

def reject (role : Role) (code message hint : String) : Outcome alpha :=
  Outcome.reject (UserError.coded (role.code code) message (some hint) none)

def kindNameOf (path : String) : Option String :=
  match Text.lower (String.ofList (suffixOf (fileName path))) with
  | ".csv" => some "csv"
  | ".tsv" => some "tsv"
  | _ => none

/-- The kind of a file by its given name, or by its path when none is given. -/
def kindOf (role : Role) (path : String) (type : Option String) : Outcome FileKind :=
  let given := type.filter fun name => !name.isEmpty
  match given.orElse fun _ => kindNameOf path with
  | none =>
      reject role "TYPE_INFER" ("Could not infer file type from uri='" ++ path ++ "'.")
        "Provide type explicitly, e.g. read_csv('file.txt', type='csv')."
  | some name =>
      match FileKind.ofName? name with
      | some kind => .ok kind
      | none =>
          reject role "TYPE_UNSUPPORTED" ("File type '" ++ name ++ "' is not supported.")
            "Currently supported types: csv, tsv."

/-!
# Options
-/

/-- How the text of a file is encoded, and what the options ask for besides. -/
structure Format where
  encoding : Text.Encoding
  remedy : Text.Remedy
  dialect : Dialect
  deriving Repr

namespace Format

def remedyOf : Option Value -> Except Fault Text.Remedy
  | none => .ok .refuse
  | some .missing => .ok .refuse
  | some (.str name) => .ok (Text.Remedy.ofName name)
  | some _ => .error .badType

def encodingOf : Option Value -> Except Fault Text.Encoding
  | none => .ok .utf8
  | some .missing => .ok .utf8
  | some (.str name) =>
      match Text.Encoding.ofName? name with
      | some encoding => .ok encoding
      | none => .error .unknownName
  | some _ => .error .badType

/-- The format that options ask for; some of them have nothing to do with it. -/
def ofOptions (others : List String) (options : List (String × Value)) : Except Fault Format := do
  let encoding := encodingOf (options.lookup "encoding")
  if encoding matches .error .badType then .error .badType
  let remedy <- remedyOf (options.lookup "errors")
  let encoding <- encoding
  let rest := options.filter fun option => !("encoding" :: "errors" :: others).contains option.1
  let dialect <- Dialect.ofOptions rest
  .ok { encoding := encoding, remedy := remedy, dialect := dialect }

end Format

/-!
# A library for files

Files are read and written by a library, which also converts the cells of whole
columns.  Its laws are all that is relied on.
-/

def headerOf (options : List (String × Value)) : Except Fault (Option (List Value)) :=
  match options.lookup "header" with
  | none => .ok none
  | some .missing => .ok none
  | some names => names.iterate.map some

def writesHeader (options : List (String × Value)) : Bool :=
  ((options.lookup "write_header").map Value.isTruthy).getD true

/-- The records of a table: its header, if that is written, and its rows. -/
def recordsFor (table : Table) (options : List (String × Value)) : List (List Value) :=
  if writesHeader options then table.header.map .str :: table.rows else table.rows

/-- What a library does with files, and what is relied on of it: a file is decoded and then read in
its dialect, or written in its dialect and then encoded, and of columns with the same name only the
first one is converted. -/
structure FileLibrary where
  read : List (String × Value) -> ByteArray -> Except Fault (List (List Value))
  write : Table -> List (String × Value) -> Except Fault ByteArray
  convert : (Value -> Value) -> List Value -> List (List Value) ->
    Except Fault (List (List Value))
  number : Value -> Value
  read_eq : forall {options bytes format},
    Format.ofOptions ["header"] options = .ok format -> headerOf options = .ok none ->
      read options bytes =
        format.encoding.decode format.remedy bytes >>= Delimited.read format.dialect
  write_eq_ok_iff : forall {table options bytes}, write table options = .ok bytes <->
    exists format text, Format.ofOptions ["write_header"] options = .ok format ∧
      Delimited.write format.dialect (recordsFor table options) = .ok text ∧
      format.encoding.encode format.remedy text = .ok bytes
  convert_eq : forall (change : Value -> Value) (header : List String) rows,
    convert change (header.map .str) rows =
      .ok (rows.map (convertRow change (positionsOf header)))
  number_missing : number .missing = .missing
  number_str : forall s, number (.str s) = numberOrText s
  number_ne_str : forall {cell}, (forall s, cell ≠ .str s) -> forall s, number cell ≠ .str s

/-- A library that opens, converts and writes the whole of a file.  Of a record that cannot be
written and an earlier one that cannot be encoded, the earlier one is reported. -/
def files : FileLibrary where
  read options bytes := do
    let format <- Format.ofOptions ["header"] options
    let header <- headerOf options
    let text <- format.encoding.decode format.remedy bytes
    let records <- Delimited.read format.dialect text
    .ok (header.toList ++ records)
  write table options := do
    let format <- Format.ofOptions ["write_header"] options
    let records := recordsFor table options
    match Delimited.write format.dialect records with
    | .ok text => format.encoding.encode format.remedy text
    | .error f => do
        let before := String.ofList (writtenBefore format.dialect records)
        let _ <- format.encoding.encode format.remedy before
        .error f
  convert := convertRows
  number := toNumber
  read_eq hformat hheader := by
    rename_i bytes format
    rw [hformat, hheader]
    cases htext : format.encoding.decode format.remedy bytes with
    | error f => simp [bind, Except.bind, htext]
    | ok text =>
        cases hread : Delimited.read format.dialect text <;>
          simp [bind, Except.bind, htext, hread]
  write_eq_ok_iff := by
    intro table options bytes
    cases hformat : Format.ofOptions ["write_header"] options with
    | error f => simp [bind, Except.bind]
    | ok format =>
        cases hwrite : Delimited.write format.dialect (recordsFor table options) with
        | ok text => simp [bind, Except.bind, hwrite]
        | error f =>
            cases hbefore : format.encoding.encode format.remedy
                (String.ofList (writtenBefore format.dialect (recordsFor table options))) <;>
              simp [bind, Except.bind, hwrite, hbefore]
  convert_eq := convertRows_names
  number_missing := rfl
  number_str _ := rfl
  number_ne_str := toNumber_ne_str

/-!
# Reading
-/

/-- How a file is read: its kind, the values that stand for missing ones, and whether texts are
read as numbers. -/
structure Reading where
  type : Option String
  numbers : Bool
  markers : Value
  options : List (String × Value)

def Reading.standard : Reading :=
  { type := none, numbers := true, markers := .list [.str "", .str "NA"], options := [] }

def recordsOf (options : List (String × Value)) : Entry -> Except Fault (List (List Value))
  | .directory => .error .directoryInPlace
  | .file bytes => files.read options bytes

def Reading.markerList (reading : Reading) : Except Fault (List Value) := do
  let markers <- reading.markers.iterate
  if markers.all Value.canBeKey then .ok markers else .error .badType

def convertCell (markers : List Value) (numbers : Bool) (cell : Value) : Value :=
  let cell := replaceMarker markers cell
  if numbers then files.number cell else cell

/-- A dataset of the records of a file, or nothing when there are none and none are asked for. -/
def datasetOf (reading : Reading) (options : List (String × Value)) (entry : Entry) :
    Except Fault (Option Dataset) := do
  let markers <- reading.markerList
  let records <- recordsOf options entry
  let plain := markers.isEmpty && !reading.numbers
  match records with
  | [] => if plain then .ok none else .error .exhausted
  | names :: rows => do
      let rows <-
        if plain then .ok rows
        else files.convert (convertCell markers reading.numbers) names rows
      .ok (some (Dataset.flat (names.map Value.text) rows))

def load (folder : Folder) (path : String) (reading : Reading) : Outcome Dataset := do
  let kind <- kindOf .source path reading.type
  match folder.find path with
  | none =>
      reject .source "NOT_FOUND" ("File not found: '" ++ path ++ "'.")
        "Check the path, or pass an absolute path."
  | some entry =>
      match datasetOf reading (kind.complete reading.options) entry with
      | .ok (some data) => .ok data
      | .ok none => .error (.fault Fault.exhausted)
      | .error f =>
          reject .source "READ" ("Could not read '" ++ path ++ "': " ++ f.kind)
            "Check the file encoding and delimiter options."

/-!
# Writing
-/

/-- Put a dataset into a file; what stands in the way of a file is found first. -/
def store (folder : Folder) (path : String) (data : Dataset) (options : List (String × Value)) :
    Except Fault Folder := do
  let _ <- folder.write path ByteArray.empty
  let bytes <- files.write data.table options
  folder.write path bytes

/-- Write a dataset to a file of a folder; its groups are not stored. -/
def save (folder : Folder) (data : Dataset) (path : String) (type : Option String)
    (options : List (String × Value)) : Outcome Folder := do
  let kind <- kindOf .sink path type
  let parent := parentPath path
  let parent := if parent.isEmpty then "." else parent
  if !folder.isDirectory parent then
    reject .sink "DIR_NOT_FOUND" ("Output directory does not exist: '" ++ parent ++ "'.")
      "Create the directory or choose a different output path."
  match store folder path data (kind.complete options) with
  | .ok after => .ok after
  | .error f =>
      reject .sink "WRITE" ("Could not write '" ++ path ++ "': " ++ f.kind)
        "Check file permissions and options (delimiter/encoding)."

end Delimited
end Wrangle
