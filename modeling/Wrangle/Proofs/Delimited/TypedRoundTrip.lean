import Wrangle.Proofs.Delimited.RoundTrip
import Wrangle.Proofs.Number.Numeral

/-!
# What can be read and what can be written

Unless numbers are told apart by being left unquoted, all that is read are texts
within the limit of a field: no character that is read adds anything else to a
record.  All that is written are values that have a text.
-/

namespace Wrangle
namespace Delimited

/-!
# Reading
-/

def IsTextRecord (cells : List Value) : Prop :=
  exists texts, IsReadable texts ∧ texts.map Value.str = cells

theorem isTextRecord_nil : IsTextRecord [] :=
  ⟨[], List.forall_mem_nil _, rfl⟩

theorem IsTextRecord.cons {s : String} {cells : List Value} (h : IsTextRecord cells)
    (hs : s.length <= Progress.fieldLimit) : IsTextRecord (.str s :: cells) := by
  rcases h with ⟨texts, hreadable, rfl⟩
  exact ⟨s :: texts, List.forall_mem_cons.mpr ⟨hs, hreadable⟩, rfl⟩

theorem IsTextRecord.reverse {cells : List Value} (h : IsTextRecord cells) :
    IsTextRecord cells.reverse := by
  rcases h with ⟨texts, hreadable, rfl⟩
  exact ⟨texts.reverse, fun s hs => hreadable s (List.mem_reverse.mp hs), List.map_reverse⟩

/-- Progress through fields that are no numbers, all of which have been texts so far. -/
structure Progress.IsTextual (progress : Progress) : Prop where
  isNumber : progress.isNumber = false
  fields : IsTextRecord progress.fields

abbrev GivesTextual (outcome : Except Fault Progress) : Prop :=
  Ends (fun _ => True) Progress.IsTextual outcome

namespace Progress.IsTextual

variable {dialect : Dialect} {progress : Progress}

theorem start : Progress.start.IsTextual :=
  ⟨rfl, isTextRecord_nil⟩

theorem move (h : progress.IsTextual) (place : Place) : (progress.move place).IsTextual :=
  ⟨h.isNumber, h.fields⟩

theorem add (h : progress.IsTextual) (c : Char) (place : Place) :
    (progress.add c place).IsTextual :=
  ⟨h.isNumber, h.fields⟩

theorem save (h : progress.IsTextual) (place : Place) : GivesTextual (progress.save place) := by
  unfold Progress.save
  dsimp only
  split
  · trivial
  · rename_i hlimit
    rw [h.isNumber, if_neg Bool.false_ne_true]
    refine ⟨rfl, h.fields.cons ?_⟩
    simpa using hlimit

theorem readStart (h : progress.IsTextual) (hquoting : dialect.quoting ≠ .exceptNumbers)
    (c : Char) : GivesTextual (readStart dialect progress c) := by
  unfold Delimited.readStart
  split
  · exact h.move _
  · split
    · exact h.move _
    · split
      · exact h.move _
      · split
        · exact h.save _
        · exact ⟨by simp [h.isNumber, hquoting], h.fields⟩

theorem readPlain (h : progress.IsTextual) (c : Char) :
    GivesTextual (readPlain dialect progress c) := by
  unfold Delimited.readPlain
  split
  · exact h.move _
  · split
    · exact h.save _
    · exact h.add _ _

theorem readQuoted (h : progress.IsTextual) (c : Char) :
    (readQuoted dialect progress c).IsTextual := by
  unfold Delimited.readQuoted
  split
  · exact h.move _
  · split
    · exact h.move _
    · exact h.add _ _

theorem readAfterQuote (h : progress.IsTextual) (c : Char) :
    GivesTextual (readAfterQuote dialect progress c) := by
  unfold Delimited.readAfterQuote
  split
  · exact h.add _ _
  · split
    · exact h.save _
    · split
      · trivial
      · exact h.add _ _

theorem step (h : progress.IsTextual) (hquoting : dialect.quoting ≠ .exceptNumbers)
    (c : Option Char) : GivesTextual (step dialect progress c) := by
  unfold Delimited.step
  split
  · exact h
  · split
    · exact h.move _
    · exact h.readStart hquoting _
  · split
    · exact h.save _
    · exact h.readStart hquoting _
  · split
    · exact h.save _
    · exact h.readPlain _
  · exact h
  · split
    · exact h.save _
    · exact h.readPlain _
  · exact h
  · exact h.readQuoted _
  · exact h.save _
  · split
    · exact h.readAfterQuote _
    · exact h.save _
  · exact h.add _ _
  · exact h.add _ _
  · exact h.add _ _
  · exact h.add _ _
  · exact h.move _
  · split
    · exact h
    · trivial

theorem readLine (h : progress.IsTextual) (hquoting : dialect.quoting ≠ .exceptNumbers)
    (line : List Char) : GivesTextual (readLine dialect progress line) :=
  Ends.foldlM h fun _ c hnext _ => hnext.step hquoting c

end Progress.IsTextual

abbrev GivesTexts (outcome : Except Fault (List (List Value))) : Prop :=
  Ends (fun _ => True) (fun records => forall cells, cells ∈ records -> IsTextRecord cells) outcome

section Reading

variable {dialect : Dialect} (hquoting : dialect.quoting ≠ .exceptNumbers)

include hquoting

theorem readLines_texts {progress : Progress} (h : progress.IsTextual)
    (lines : List (List Char)) : GivesTexts (readLines dialect progress lines) := by
  induction lines generalizing progress with
  | nil =>
      rw [readLines, readEnd]
      split
      · exact List.forall_mem_nil _
      · split
        · trivial
        · refine (h.save _).map fun done hdone => ?_
          exact List.forall_mem_cons.mpr ⟨hdone.fields.reverse, List.forall_mem_nil _⟩
  | cons line rest ih =>
      rw [readLines]
      refine (h.readLine hquoting line).bind fun next hnext => ?_
      split
      · refine (ih Progress.IsTextual.start).bind fun others hothers => ?_
        exact List.forall_mem_cons.mpr ⟨hnext.fields.reverse, hothers⟩
      · exact ih hnext

theorem read_texts (text : String) : GivesTexts (read dialect text) :=
  readLines_texts hquoting Progress.IsTextual.start _

end Reading

theorem recordsOf_texts (kind : FileKind) (entry : Entry) :
    GivesTexts (recordsOf (kind.complete []) entry) := by
  cases entry with
  | directory => trivial
  | file bytes =>
      rw [recordsOf, files.read_eq kind.format_reading kind.headerOf_complete]
      cases kind.format.encoding.decode kind.format.remedy bytes with
      | error f => trivial
      | ok text =>
          rw [ok_bind]
          exact read_texts kind.isFaithful_dialect.quoting_ne_exceptNumbers text

theorem eq_str_of_numberOrText {s t : String} (h : numberOrText t = .str s) : t = s := by
  unfold numberOrText at h
  split at h
  · cases h
  · split at h
    · cases h
    · split at h
      · cases h
      · exact Value.str.inj h

theorem eq_str_of_convertCell {markers : List Value} {numbers : Bool} {cell : Value} {s : String}
    (h : convertCell markers numbers cell = .str s) : cell = .str s := by
  have hmarker : replaceMarker markers cell = .str s := by
    unfold convertCell at h
    dsimp only at h
    split at h
    · by_cases htext : exists t, replaceMarker markers cell = .str t
      · rcases htext with ⟨t, ht⟩
        rw [ht, files.number_str] at h
        rw [ht, eq_str_of_numberOrText h]
      · exact absurd h (files.number_ne_str (fun t ht => htext ⟨t, ht⟩) s)
    · exact h
  unfold replaceMarker at hmarker
  split at hmarker
  · cases hmarker
  · exact hmarker

theorem eq_str_of_convertRow {convert : Value -> Value}
    (hconvert : forall cell s, convert cell = .str s -> cell = .str s) {positions : List Int}
    {row : List Value} {s : String} (h : Value.str s ∈ convertRow convert positions row) :
    Value.str s ∈ row := by
  rcases List.mem_map.mp h with ⟨entry, hentry, hcell⟩
  have hmem := List.fst_mem_of_mem_zipIdx hentry
  split at hcell
  · rwa [hconvert _ _ hcell] at hmem
  · rwa [hcell] at hmem

def HaveShortTexts (rows : List (List Value)) : Prop :=
  forall row, row ∈ rows -> forall s, Value.str s ∈ row -> s.length <= Progress.fieldLimit

structure IsLimited (data : Dataset) : Prop where
  header : IsReadable data.header
  rows : HaveShortTexts data.rows

theorem IsTextRecord.length_le {cells : List Value} (h : IsTextRecord cells) {s : String}
    (hs : Value.str s ∈ cells) : s.length <= Progress.fieldLimit := by
  rcases h with ⟨texts, hreadable, rfl⟩
  rcases List.mem_map.mp hs with ⟨t, ht, heq⟩
  cases heq
  exact hreadable s ht

theorem IsTextRecord.isReadable_names {cells : List Value} (h : IsTextRecord cells) :
    IsReadable (cells.map Value.text) := by
  rcases h with ⟨texts, hreadable, rfl⟩
  rwa [map_text_str]

theorem datasetOf_isLimited (reading : Reading) (kind : FileKind) (entry : Entry) :
    Ends (fun _ => True) (fun found : Option Dataset => forall data, found = some data ->
      IsLimited data) (datasetOf reading (kind.complete []) entry) := by
  unfold datasetOf
  cases reading.markerList with
  | error f => trivial
  | ok markers =>
      rw [ok_bind]
      refine (recordsOf_texts kind entry).bind fun records hrecords => ?_
      dsimp only
      cases records with
      | nil =>
          dsimp only
          split
          · intro data hdata
            cases hdata
          · trivial
      | cons names rows =>
          rcases List.forall_mem_cons.mp hrecords with ⟨hnames, hrows⟩
          have hlimited : forall {converted : List (List Value)}, HaveShortTexts converted ->
              forall data, some (Dataset.flat (names.map Value.text) converted) = some data ->
                IsLimited data := by
            intro converted htexts data hdata
            cases hdata
            exact ⟨hnames.isReadable_names, htexts⟩
          dsimp only
          split
          · exact hlimited fun row hrow s hs => (hrows row hrow).length_le hs
          · have hconverted : Ends (fun _ => True) HaveShortTexts
                (files.convert (convertCell markers reading.numbers) names rows) := by
              rcases hnames with ⟨texts, _, rfl⟩
              rw [files.convert_eq]
              intro row hrow s hs
              rcases List.mem_map.mp hrow with ⟨source, hsource, rfl⟩
              exact (hrows source hsource).length_le
                (eq_str_of_convertRow (fun _ _ => eq_str_of_convertCell) hs)
            exact hconverted.bind fun converted htexts => hlimited htexts

theorem isLimited_of_load {folder : Folder} {path : String} {reading : Reading} {data : Dataset}
    (hoptions : reading.options = []) (h : load folder path reading = .ok data) :
    IsLimited data := by
  rcases bind_eq_ok_iff.mp h with ⟨kind, _, h⟩
  split at h
  · cases h
  · rename_i entry _
    have hends := datasetOf_isLimited reading kind entry
    rw [hoptions] at h
    split at h
    · rename_i found hfound
      cases h
      rw [hfound] at hends
      exact hends data rfl
    · cases h
    · cases h

/-!
# Writing
-/

theorem isWritable_of_writeValue {dialect : Dialect} {cell : Value} {field : List Char}
    (h : writeValue dialect cell = .ok field) : cell.isWritable = true := by
  rcases bind_eq_ok_iff.mp h with ⟨text, htext, _⟩
  unfold fieldText at htext
  split at htext
  · rfl
  · rcases map_eq_ok_iff.mp htext with ⟨s, hs, _⟩
    unfold Value.text? at hs
    split at hs
    · assumption
    · cases hs

theorem isWritable_of_writeRecord {dialect : Dialect} {cells : List Value} {line : List Char}
    (h : writeRecord dialect cells = .ok line) {cell : Value} (hcell : cell ∈ cells) :
    cell.isWritable = true := by
  rcases bind_eq_ok_iff.mp h with ⟨fields, hfields, _⟩
  rcases exists_of_mapM_eq_ok hfields hcell with ⟨field, hfield⟩
  exact isWritable_of_writeValue hfield

theorem isWritable_of_written {data : Dataset} {options : List (String × Value)}
    {bytes : ByteArray} (h : files.write data.table options = .ok bytes) {row : List Value}
    (hrow : row ∈ data.rows) {cell : Value} (hcell : cell ∈ row) : cell.isWritable = true := by
  rcases files.write_eq_ok_iff.1 h with ⟨format, text, _, htext, _⟩
  have hrecord : row ∈ recordsFor data.table options := by
    unfold recordsFor
    split
    · exact List.mem_cons_of_mem _ hrow
    · exact hrow
  rcases map_eq_ok_iff.mp htext with ⟨lines, hlines, _⟩
  rcases exists_of_mapM_eq_ok hlines hrecord with ⟨line, hline⟩
  exact isWritable_of_writeRecord hline hcell

theorem isWritable_of_save {folder after : Folder} {data : Dataset} {path : String}
    {type : Option String} {options : List (String × Value)}
    (h : save folder data path type options = .ok after) {row : List Value}
    (hrow : row ∈ data.rows) {cell : Value} (hcell : cell ∈ row) : cell.isWritable = true := by
  rcases bind_eq_ok_iff.mp h with ⟨kind, _, h⟩
  dsimp only at h
  generalize (if (parentPath path).isEmpty then "." else parentPath path) = parent at h
  cases hparent : folder.isDirectory parent with
  | false =>
      rw [hparent] at h
      cases h
  | true =>
      rw [hparent] at h
      cases hstore : store folder path data (kind.complete options) with
      | error f =>
          rw [hstore] at h
          cases h
      | ok stored =>
          rcases bind_eq_ok_iff.mp hstore with ⟨_, _, hstore⟩
          rcases bind_eq_ok_iff.mp hstore with ⟨bytes, hbytes, _⟩
          exact isWritable_of_written hbytes hrow hcell

/-!
# Written cells are read with their types

By default, texts of files are read as numbers where they are numerals, and two
texts stand for missing values.  Cells that are missing, integers, or texts of
neither kind are told apart by what is written of them.  Only the first of
several columns with one name is looked at, so in the others cells stay texts.
-/

/-!
# Cells
-/

/-- A text that is read as it is: it is no numeral and stands for no missing value. -/
structure IsPlainText (s : String) : Prop where
  ne_empty : s ≠ ""
  ne_mark : s ≠ "NA"
  readInt? : Number.readInt? s = none
  readFloat? : Number.readFloat? s = none
  readComplex? : Number.readComplex? s = none

/-- A cell that is told by its text from the cells of other types. -/
inductive IsTold : Value -> Prop
  | missing : IsTold .missing
  | int {n : Int} (h : Number.isTooLong n = false) : IsTold (.int n)
  | str {s : String} (h : IsPlainText s) (hlength : s.length <= Progress.fieldLimit) :
      IsTold (.str s)

theorem length_toString_int (n : Int) :
    (toString n).length <= (Nat.toDigits 10 n.natAbs).length + 1 := by
  cases n with
  | ofNat n =>
      have htext : (toString (Int.ofNat n)).length = (Nat.toDigits 10 n).length := by
        rw [← String.length_toList]
        exact congrArg List.length Nat.toList_repr
      rw [htext]
      exact Nat.le_succ _
  | negSucc n =>
      have htext : toString (Int.negSucc n) = "-" ++ (n + 1).repr := rfl
      rw [htext, String.length_append, ← String.length_toList, ← String.length_toList,
        Nat.toList_repr, Nat.add_comm]
      rfl

theorem IsTold.fitsField {cell : Value} (h : IsTold cell) : FitsField cell := by
  cases h with
  | missing => exact ⟨rfl, Nat.zero_le _⟩
  | int h =>
      refine ⟨by simp [Value.isWritable, h], ?_⟩
      have hdigits := Number.length_toDigits_of_not_isTooLong h
      exact (length_toString_int _).trans ((Nat.succ_le_succ hdigits).trans (by decide))
  | str _ hlength => exact fitsField_str hlength

def standardMarkers : List Value :=
  [.str "", .str "NA"]

theorem replaceMarker_str {s : String} (hempty : s ≠ "") (hmark : s ≠ "NA") :
    replaceMarker standardMarkers (.str s) = .str s := by
  have hequals : forall t, (Value.str s).equals (.str t) = (s == t) := fun t => by
    simp [Value.equals, Value.equalsSimple, Value.numbersEqual, Value.asInt?, Value.extended?]
  simp [replaceMarker, standardMarkers, hequals, hempty, hmark]

theorem IsTold.convertCell_textOf {cell : Value} (h : IsTold cell) :
    convertCell standardMarkers true (.str (textOf cell)) = cell := by
  cases h with
  | missing =>
      have hmarker : replaceMarker standardMarkers (.str "") = .missing := by
        simp [replaceMarker, standardMarkers, Value.equals, Value.equalsSimple,
          Value.numbersEqual, Value.asInt?, Value.extended?]
      rw [textOf, convertCell, hmarker]
      exact files.number_missing
  | @int n h =>
      have hread : Number.readInt? (toString n) = some n := Number.readInt?_toString h
      have hempty : toString n ≠ "" := by
        intro heq
        rw [heq] at hread
        cases hread
      have hmark : toString n ≠ "NA" := by
        intro heq
        rw [heq] at hread
        cases hread
      have htext : textOf (.int n) = toString n := rfl
      rw [htext, convertCell, replaceMarker_str hempty hmark]
      simp only [if_true, files.number_str, numberOrText, hread]
  | @str s h _ =>
      have htext : textOf (.str s) = s := rfl
      rw [htext, convertCell, replaceMarker_str h.ne_empty h.ne_mark]
      simp [files.number_str, numberOrText, h.readInt?, h.readFloat?, h.readComplex?]

/-!
# Columns
-/

def isRepeated (header : List String) (i : Nat) : Bool :=
  (header[i]?).any (header.take i).contains

theorem isRepeated_iff {header : List String} {i : Nat} (hi : i < header.length) :
    isRepeated header i = true <-> header.idxOf header[i] < i := by
  rw [isRepeated, List.getElem?_eq_getElem hi, Option.any_some, List.contains_iff_mem,
    List.mem_take_iff_idxOf_lt (List.getElem_mem hi)]

theorem contains_positionsOf {header : List String} {i : Nat} (hi : i < header.length) :
    (positionsOf header).contains (Int.ofNat i) = !isRepeated header i := by
  rw [Bool.eq_iff_iff, List.contains_iff_mem, Bool.not_eq_true', Bool.eq_false_iff, Ne,
    isRepeated_iff hi, positionsOf, List.mem_map]
  constructor
  · rintro ⟨name, hname, hposition⟩
    have hfirst : header.idxOf name = i := Int.ofNat.inj hposition
    subst hfirst
    rw [List.getElem_idxOf]
    exact Nat.lt_irrefl _
  · intro hfirst
    have hle : header.idxOf header[i] < i + 1 := by
      rw [← List.mem_take_iff_idxOf_lt (List.getElem_mem hi)]
      exact List.mem_take_iff_getElem.mpr ⟨i, by omega, rfl⟩
    exact ⟨header[i], List.getElem_mem hi, congrArg Int.ofNat (by omega)⟩

/-- A row as it is read again: where the name of a column is repeated, its cell is a text. -/
def restored (header : List String) (row : List Value) : List Value :=
  row.zipIdx.map fun entry =>
    if isRepeated header entry.2 then .str (textOf entry.1) else entry.1

theorem convertRow_textOf {header : List String} {row : List Value}
    (hwidth : row.length = header.length) (htold : forall cell, cell ∈ row -> IsTold cell) :
    convertRow (convertCell standardMarkers true) (positionsOf header)
        ((row.map textOf).map .str) = restored header row := by
  rw [convertRow, restored, List.map_map, List.zipIdx_map, List.map_map]
  refine List.map_congr_left fun entry hentry => ?_
  rcases entry with ⟨cell, i⟩
  have hi : i < header.length := hwidth ▸ List.snd_lt_of_mem_zipIdx hentry
  have hcell := (htold cell (List.fst_mem_of_mem_zipIdx hentry)).convertCell_textOf
  simp only [Function.comp_apply, Prod.map, id, contains_positionsOf hi, hcell]
  cases isRepeated header i with
  | true => rfl
  | false => rfl

/-- Two rows with the same cells in all columns that do not repeat the name of another. -/
structure Agree (header : List String) (row other : List Value) : Prop where
  length : other.length = row.length
  cells : forall i, isRepeated header i = false -> other[i]? = row[i]?

theorem agree_restored (header : List String) (row : List Value) :
    Agree header row (restored header row) := by
  constructor
  · simp [restored]
  · intro i hi
    rw [restored, List.getElem?_map, List.getElem?_zipIdx]
    cases row[i]? with
    | none => rfl
    | some cell => simp [hi]

theorem Agree.eq {header : List String} {row other : List Value} (h : Agree header row other)
    (hnodup : header.Nodup) (hwidth : row.length = header.length) : other = row := by
  apply List.ext_getElem?
  intro i
  by_cases hi : i < header.length
  · refine h.cells i (Bool.eq_false_iff.mpr ?_)
    rw [Ne, isRepeated_iff hi, hnodup.idxOf_getElem]
    exact Nat.lt_irrefl i
  · have hwidths := h.length
    rw [List.getElem?_eq_none (by omega), List.getElem?_eq_none (by omega)]

/-!
# Datasets
-/

/-- A dataset whose cells can be told apart, with a header that can be read. -/
structure IsTyped (data : Dataset) : Prop where
  header : IsReadable data.header
  width : forall row, row ∈ data.rows -> row.length = data.header.length
  cells : forall row, row ∈ data.rows -> forall cell, cell ∈ row -> IsTold cell

theorem datasetOf_standard {options : List (String × Value)} {entry : Entry}
    {header : List String} {rows : List (List Value)}
    (h : recordsOf options entry = .ok (header.map .str :: rows)) :
    datasetOf Reading.standard options entry =
      .ok (some (Dataset.flat header
        (rows.map (convertRow (convertCell standardMarkers true) (positionsOf header))))) := by
  have hmarkers : Reading.standard.markerList = .ok standardMarkers := rfl
  have hplain : (standardMarkers.isEmpty && !Reading.standard.numbers) = false := rfl
  have hnumbers : Reading.standard.numbers = true := rfl
  unfold datasetOf
  rw [hmarkers, ok_bind, h, ok_bind]
  dsimp only
  rw [hplain, hnumbers, files.convert_eq, map_text_str]
  rfl

theorem datasetOf_written_standard {data : Dataset} (h : IsTyped data) (kind : FileKind) :
    exists bytes, files.write data.table (kind.complete []) = .ok bytes ∧
      datasetOf Reading.standard (kind.complete []) (.file bytes) =
        .ok (some (Dataset.flat data.header (data.rows.map (restored data.header)))) := by
  have hfits : forall row, row ∈ data.rows -> forall cell, cell ∈ row -> FitsField cell :=
    fun row hrow cell hcell => (h.cells row hrow cell hcell).fitsField
  rcases recordsOf_written h.header hfits kind with ⟨bytes, hbytes, hrecords⟩
  refine ⟨bytes, hbytes, ?_⟩
  rw [datasetOf_standard hrecords, List.map_map]
  have hrows : data.rows.map (convertRow (convertCell standardMarkers true)
      (positionsOf data.header) ∘ fun row => (row.map textOf).map .str) =
      data.rows.map (restored data.header) :=
    List.map_congr_left fun row hrow => convertRow_textOf (h.width row hrow) (h.cells row hrow)
  rw [hrows]

/-!
# Saving and loading
-/

/-- A dataset of cells that can be told apart is loaded as it was saved, in all columns that do not
repeat the name of another. -/
theorem load_save_typed {folder : Folder} {data : Dataset} {path : String} (htyped : IsTyped data)
    (hwritable : IsWritable folder path) (hkind : (kindNameOf path).isSome = true) :
    exists after rows, save folder data path none [] = .ok after ∧
      load after path Reading.standard = .ok (Dataset.flat data.header rows) ∧
      List.Forall₂ (Agree data.header) data.rows rows ∧
      (data.header.Nodup -> rows = data.rows) := by
  rcases load_save_of_bytes rfl rfl (datasetOf_written_standard htyped) hwritable hkind
    with ⟨after, hsaved, hloaded⟩
  refine ⟨after, data.rows.map (restored data.header), hsaved, hloaded, ?_, ?_⟩
  · exact List.forall₂_map_right_iff.mpr (List.forall₂_same.mpr fun row _ =>
      agree_restored data.header row)
  · intro hnodup
    refine (List.map_congr_left fun row hrow => ?_).trans (List.map_id' data.rows)
    exact (agree_restored data.header row).eq hnodup (htyped.width row hrow)

/-- Missing cells, integers and texts, of which some have to be quoted. -/
def mixed : Dataset :=
  { header := ["n", "NA"]
    rows := [[.int (-7), .missing], [.missing, .str "x,\n\"1\""], [.int 0, .str " "]]
    groups := ["n"] }

theorem isTyped_mixed : IsTyped mixed := by
  have hquoted : IsPlainText "x,\n\"1\"" := by
    constructor
    · decide
    · decide
    · rfl
    · rfl
    · rfl
  have hblank : IsPlainText " " := by
    constructor
    · decide
    · decide
    · rfl
    · rfl
    · rfl
  constructor
  · decide
  · decide
  · simp only [mixed, List.forall_mem_cons, List.not_mem_nil, false_imp_iff,
      implies_true, and_true]
    exact ⟨⟨.int rfl, .missing⟩, ⟨.missing, .str hquoted (by decide)⟩,
      .int rfl, .str hblank (by decide)⟩

theorem load_save_mixed :
    exists after, save Folder.empty mixed "mixed.csv" none [] = .ok after ∧
      load after "mixed.csv" Reading.standard = .ok (Dataset.flat mixed.header mixed.rows) := by
  have hwritable : IsWritable Folder.empty "mixed.csv" :=
    isWritable_empty (by decide +kernel) (by decide +kernel)
  rcases load_save_typed isTyped_mixed hwritable rfl with ⟨after, rows, hsaved, hloaded, _, hsame⟩
  rw [hsame (by decide)] at hloaded
  exact ⟨after, hsaved, hloaded⟩

/-- Two columns of one name. -/
def repeated : Dataset :=
  { header := ["a", "a"]
    rows := [[.int 1, .int 2]]
    groups := [] }

/-- A text that is too long for a field. -/
def overlong : String :=
  String.ofList (List.replicate (Progress.fieldLimit + 1) 'x')

/-- An integer that has too many digits to be written. -/
def oversized : Dataset :=
  { header := ["n"]
    rows := [[.int (10 ^ Number.digitLimit)]]
    groups := [] }

/-- In the second column of a name integers are loaded as texts, no text beyond the limit of a
field is loaded, and no integer with too many digits is saved. -/
theorem not_load_save :
    (exists after, save Folder.empty repeated "repeated.csv" none [] = .ok after ∧
      load after "repeated.csv" Reading.standard =
        .ok (Dataset.flat repeated.header [[.int 1, .str "2"]]) ∧
      repeated.rows ≠ [[.int 1, .str "2"]]) ∧
    (forall after, load after "overlong.csv" Reading.standard ≠ .ok (Dataset.flat [overlong] [])) ∧
    forall after, save Folder.empty oversized "oversized.csv" none [] ≠ .ok after := by
  refine ⟨?_, ?_, ?_⟩
  · have htyped : IsTyped repeated := by
      constructor
      · decide
      · decide
      · simp only [repeated, List.forall_mem_cons, List.not_mem_nil, false_imp_iff,
          implies_true, and_true]
        exact ⟨.int rfl, .int rfl⟩
    have hwritable : IsWritable Folder.empty "repeated.csv" :=
      isWritable_empty (by decide +kernel) (by decide +kernel)
    rcases load_save_of_bytes rfl rfl (datasetOf_written_standard htyped) hwritable rfl
      with ⟨after, hsaved, hloaded⟩
    exact ⟨after, hsaved, hloaded, by simp [repeated]⟩
  · intro after hloaded
    have hlimit := (isLimited_of_load rfl hloaded).header overlong List.mem_cons_self
    rw [overlong, String.length_ofList, List.length_replicate] at hlimit
    exact Nat.not_succ_le_self _ hlimit
  · intro after hsaved
    have hwritable := isWritable_of_save hsaved List.mem_cons_self List.mem_cons_self
    have hlong : Number.isTooLong (10 ^ Number.digitLimit) = true := by
      decide +kernel
    rw [Value.isWritable, hlong] at hwritable
    cases hwritable

end Delimited
end Wrangle
