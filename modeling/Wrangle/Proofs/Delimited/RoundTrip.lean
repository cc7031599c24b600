import Wrangle.Delimited.File
import Wrangle.Proofs.Delimited.Resuming

/-!
# Written texts are read again

What is written of some records of texts is read as the same records, whatever
characters the texts are made of.  The same holds of files: a dataset of texts
that is saved is loaded as it was, but for its groups.
-/

namespace Wrangle
namespace Delimited

section Faithful

variable {dialect : Dialect} {mark : Char}

/-!
# Fields
-/

theorem isEscaped_eq_false (h : dialect.IsFaithful mark) (c : Char) :
    isEscaped dialect c = false := by
  simp [isEscaped, h.quoting_ne_never, h.doubles, h.escape]

theorem isSpecial_mark (h : dialect.IsFaithful mark) : isSpecial dialect mark = true := by
  simp [isSpecial, h.quote]

theorem isOrdinary_of_not_isSpecial (h : dialect.IsFaithful mark) {c : Char}
    (hc : isSpecial dialect c = false) : IsOrdinary dialect mark c := by
  simp only [isSpecial, h.quote, Bool.or_eq_false_iff, beq_eq_false_iff_ne] at hc
  rcases hc with ⟨⟨⟨⟨⟨hdelimiter, _⟩, hmark⟩, hfeed⟩, hreturn⟩, _⟩
  constructor
  · exact fun heq => hmark (congrArg some heq)
  · exact hdelimiter
  · simp [isBreak, hfeed, hreturn]

theorem writeChar_eq (h : dialect.IsFaithful mark) (c : Char) :
    writeChar dialect c = .ok (if c == mark then [mark, mark] else [c]) := by
  by_cases hc : c = mark
  · subst hc
    simp [writeChar, isSpecial_mark h, isEscaped_eq_false h, h.quote]
  · by_cases hspecial : isSpecial dialect c = true
    · simp [writeChar, hspecial, isEscaped_eq_false h, h.quote, hc]
    · simp [writeChar, hspecial, hc]

def written (dialect : Dialect) (mark : Char) (quoted : Bool) (field : List Char) : List Char :=
  if quoted || needsQuotes dialect field then mark :: doubled mark field ++ [mark] else field

theorem writeField_eq (h : dialect.IsFaithful mark) (quoted : Bool) (field : List Char) :
    writeField dialect quoted field = .ok (written dialect mark quoted field) := by
  have hchars : field.mapM (writeChar dialect) =
      .ok (field.map fun c => if c == mark then [mark, mark] else [c]) :=
    mapM_eq_ok fun c _ => writeChar_eq h c
  unfold writeField written
  rw [hchars, ok_bind, List.flatten_eq_flatMap, List.flatMap_map]
  by_cases hquotes : (quoted || needsQuotes dialect field) = true
  · simp [hquotes, quoteMark, h.quote, doubled]
  · have hmark : mark ∉ field := by
      intro hmem
      refine hquotes (Bool.or_eq_true_iff.mpr (.inr (List.any_eq_true.mpr ⟨mark, hmem, ?_⟩)))
      simp [isSpecial_mark h, isEscaped_eq_false h]
    simpa [hquotes, doubled] using doubled_eq_self hmark

theorem eq_nil_of_written_eq_nil {quoted : Bool} {field : List Char}
    (h : written dialect mark quoted field = []) : field = [] := by
  unfold written at h
  split at h
  · exact absurd h (by simp)
  · exact h

theorem resume_written (h : dialect.IsFaithful mark) {place : Place} (hplace : IsFieldStart place)
    (quoted : Bool) (field : List Char) (fields : List Value) :
    exists next,
      (IsFieldEnd next ∨ next = place ∧ written dialect mark quoted field = []) ∧
      forall {rest}, rest ≠ [] ->
        resume dialect (Progress.within place [] fields)
            (written dialect mark quoted field ++ rest) =
          resume dialect (Progress.within next field.reverse fields) rest := by
  by_cases hquotes : (quoted || needsQuotes dialect field) = true
  · have hopen : step dialect (Progress.within place [] fields) (some mark) =
        .ok (Progress.within .inQuotes [] fields) := by
      rcases hplace with rfl | rfl
      · rw [step_within_recordStart]
        simp [Progress.within, h.mark_isBreak, readStart, h.opensQuotes_eq, Progress.move]
      · rw [step_within_fieldStart]
        simp [Progress.within, h.mark_isBreak, readStart, h.opensQuotes_eq, Progress.move]
    refine ⟨.afterQuote, .inl (.inr (.inr rfl)), ?_⟩
    intro rest hrest
    rw [written, if_pos hquotes, List.cons_append, List.cons_append, List.append_assoc,
      resume_cons _ _ h.mark_isBreak (by simp), hopen, ok_bind, List.singleton_append,
      resume_doubled h, List.append_nil, resume_cons _ _ h.mark_isBreak hrest, step_mark h,
      ok_bind]
  · have hordinary : forall c, c ∈ field -> IsOrdinary dialect mark c := by
      intro c hc
      refine isOrdinary_of_not_isSpecial h (Bool.eq_false_iff.mpr fun hspecial => hquotes ?_)
      refine Bool.or_eq_true_iff.mpr (.inr (List.any_eq_true.mpr ⟨c, hc, ?_⟩))
      simp [hspecial, isEscaped_eq_false h]
    have hwritten : written dialect mark quoted field = field := if_neg hquotes
    cases field with
    | nil => exact ⟨place, .inr ⟨rfl, hwritten⟩, fun _ => by rw [hwritten]; rfl⟩
    | cons c content =>
        refine ⟨.inField, .inl (.inr (.inl rfl)), ?_⟩
        intro rest hrest
        have hc := hordinary c List.mem_cons_self
        rw [hwritten, List.cons_append, resume_cons _ _ hc.isBreak (by simp [hrest]),
          step_ordinary h hc (.inl hplace), ok_bind,
          resume_inField h (fun d hd => hordinary d (List.mem_cons_of_mem c hd)) _ _ hrest,
          List.reverse_cons]

/-!
# Records
-/

/-- A record of texts that can be read: none of them is longer than a field may be. -/
def IsReadable (texts : List String) : Prop :=
  forall s, s ∈ texts -> s.length <= Progress.fieldLimit

instance (texts : List String) : Decidable (IsReadable texts) :=
  inferInstanceAs (Decidable (forall s, s ∈ texts -> s.length <= Progress.fieldLimit))

/-- The characters that a text is written as where it is the cell of a record. -/
def cellText (dialect : Dialect) (mark : Char) (s : String) : List Char :=
  written dialect mark (alwaysQuoted dialect (.str s)) s.toList

theorem writeValue_eq (h : dialect.IsFaithful mark) (s : String) :
    writeValue dialect (.str s) = .ok (cellText dialect mark s) := by
  have hfield : fieldText (.str s) = .ok s.toList := rfl
  simp [writeValue, hfield, isLost, h.keepsBlanks, writeField_eq h, cellText]

theorem delimited_singleton (field : List Char) : delimited dialect [field] = field :=
  List.intercalate_singleton

theorem delimited_cons_cons (field next : List Char) (others : List (List Char)) :
    delimited dialect (field :: next :: others) =
      field ++ dialect.delimiter :: delimited dialect (next :: others) := by
  rw [delimited, List.intercalate_cons_cons, List.append_assoc]
  rfl

theorem terminator_ne_nil (h : dialect.IsFaithful mark) (rest : List Char) :
    dialect.terminator.toList ++ rest ≠ [] := by
  rcases h.terminator with hends | hends
  · rw [hends]
    exact List.cons_ne_nil '\r' ('\n' :: rest)
  · rw [hends]
    exact List.cons_ne_nil '\n' rest

theorem resume_lastField (h : dialect.IsFaithful mark) {place : Place} (hplace : IsFieldStart place)
    (quoted : Bool) (s : String) (hs : s.length <= Progress.fieldLimit)
    (hfull : place = .fieldStart ∨ written dialect mark quoted s.toList ≠ [])
    (fields : List Value) (rest : List Char) :
    resume dialect (Progress.within place [] fields)
        (written dialect mark quoted s.toList ++ (dialect.terminator.toList ++ rest)) =
      (resume dialect Progress.start rest).map fun others =>
        (fields.reverse ++ [.str s]) :: others := by
  rcases resume_written h hplace quoted s.toList fields with ⟨next, hnext, hread⟩
  have hend : IsFieldEnd next := by
    rcases hnext with hend | ⟨rfl, hempty⟩
    · exact hend
    · rcases hfull with rfl | hfull
      · exact .inl rfl
      · exact absurd hempty hfull
  have hlimit : s.toList.reverse.length <= Progress.fieldLimit := by
    simpa [String.length_toList] using hs
  rw [hread (terminator_ne_nil h rest),
    resume_terminator h (fun c hc => step_fieldEnd h hc hend hlimit fields) rest]
  simp

theorem resume_delimited (h : dialect.IsFaithful mark) {texts : List String} (hne : texts ≠ [])
    (hreadable : IsReadable texts) {place : Place} (hplace : IsFieldStart place)
    (hfull : place = .fieldStart ∨ delimited dialect (texts.map (cellText dialect mark)) ≠ [])
    (fields : List Value) (rest : List Char) :
    resume dialect (Progress.within place [] fields)
        (delimited dialect (texts.map (cellText dialect mark)) ++
          (dialect.terminator.toList ++ rest)) =
      (resume dialect Progress.start rest).map fun others =>
        (fields.reverse ++ texts.map .str) :: others := by
  induction texts generalizing place fields with
  | nil => exact absurd rfl hne
  | cons s texts ih =>
      have hs := hreadable s List.mem_cons_self
      cases texts with
      | nil =>
          rw [List.map_singleton, delimited_singleton] at hfull ⊢
          exact resume_lastField h hplace _ s hs hfull fields rest
      | cons t texts =>
          rcases resume_written h hplace (alwaysQuoted dialect (.str s)) s.toList fields with
            ⟨next, hnext, hread⟩
          have hend : next = .recordStart ∨ IsFieldEnd next := by
            rcases hnext with hend | ⟨rfl, _⟩
            · exact .inr hend
            · exact hplace.imp id .inl
          have hlimit : s.toList.reverse.length <= Progress.fieldLimit := by
            simpa [String.length_toList] using hs
          have hothers := ih (List.cons_ne_nil t texts)
            (fun u hu => hreadable u (List.mem_cons_of_mem s hu)) (.inr rfl) (.inl rfl)
            (.str (String.ofList s.toList.reverse.reverse) :: fields)
          rw [List.map_cons, List.map_cons, delimited_cons_cons, List.append_assoc,
            List.cons_append, cellText, hread (List.cons_ne_nil _ _),
            resume_delimiter h hend hlimit fields (by simp [terminator_ne_nil h rest]),
            ← List.map_cons, hothers]
          simp

theorem eq_singleton_of_delimited_eq_nil {texts : List String} (hne : texts ≠ [])
    (h : delimited dialect (texts.map (cellText dialect mark)) = []) : texts = [""] := by
  match texts with
  | [] => exact absurd rfl hne
  | [s] =>
      rw [List.map_singleton, delimited_singleton] at h
      rw [String.toList_eq_nil_iff.mp (eq_nil_of_written_eq_nil h)]
  | s :: t :: texts =>
      rw [List.map_cons, List.map_cons, delimited_cons_cons] at h
      exact absurd h (by simp)

theorem resume_writeRecord (h : dialect.IsFaithful mark) {texts : List String}
    (hreadable : IsReadable texts) :
    exists line, writeRecord dialect (texts.map .str) = .ok line ∧
      forall rest, resume dialect Progress.start (line ++ rest) =
        (resume dialect Progress.start rest).map fun others => texts.map .str :: others := by
  have hcells : (texts.map Value.str).mapM (writeValue dialect) =
      .ok (texts.map (cellText dialect mark)) := by
    rw [List.mapM_map]
    exact mapM_eq_ok fun s _ => writeValue_eq h s
  have hline : writeRecord dialect (texts.map .str) =
      if (delimited dialect (texts.map (cellText dialect mark))).isEmpty && !texts.isEmpty then
        .ok (mark :: mark :: dialect.terminator.toList)
      else .ok (delimited dialect (texts.map (cellText dialect mark)) ++
        dialect.terminator.toList) := by
    simp [writeRecord, hcells, h.quoting_ne_never, quoteMark, h.quote]
  by_cases hne : texts = []
  · subst hne
    refine ⟨dialect.terminator.toList, ?_, ?_⟩
    · rw [hline]
      rfl
    · have hstep : forall c, isBreak (some c) = true ->
          step dialect Progress.start (some c) = .ok (Progress.within .lineEnd [] []) := by
        intro c hc
        exact (step_within_recordStart dialect [] [] c).trans (if_pos hc)
      exact resume_terminator h hstep
  · by_cases hempty : delimited dialect (texts.map (cellText dialect mark)) = []
    · -- a lone empty field is quoted, so that its line is not an empty record
      have hsingle := eq_singleton_of_delimited_eq_nil hne hempty
      subst hsingle
      refine ⟨mark :: mark :: dialect.terminator.toList, ?_, ?_⟩
      · rw [hline, hempty]
        rfl
      · exact resume_lastField h (.inl rfl) true "" (by decide) (.inr (by simp [written])) []
    · refine ⟨delimited dialect (texts.map (cellText dialect mark)) ++
        dialect.terminator.toList, ?_, ?_⟩
      · rw [hline, if_neg (by simp [hempty])]
      · intro rest
        rw [List.append_assoc]
        exact resume_delimited h hne hreadable (.inl rfl) (.inr hempty) [] rest

/-!
# Texts
-/

theorem resume_writeRecords (h : dialect.IsFaithful mark) {records : List (List String)}
    (hreadable : forall texts, texts ∈ records -> IsReadable texts) :
    exists lines, (records.map (List.map Value.str)).mapM (writeRecord dialect) = .ok lines ∧
      resume dialect Progress.start lines.flatten = .ok (records.map (List.map Value.str)) := by
  induction records with
  | nil => exact ⟨[], rfl, rfl⟩
  | cons texts records ih =>
      rcases resume_writeRecord h (hreadable texts List.mem_cons_self) with ⟨line, hline, hread⟩
      rcases ih (fun other hother => hreadable other (List.mem_cons_of_mem texts hother)) with
        ⟨lines, hlines, hreads⟩
      refine ⟨line :: lines, ?_, ?_⟩
      · rw [List.map_cons, List.mapM_cons, hline, ok_bind, hlines, ok_bind]
        rfl
      · rw [List.flatten_cons, hread, hreads]
        rfl

theorem read_write (h : dialect.IsFaithful mark) {records : List (List String)}
    (hreadable : forall texts, texts ∈ records -> IsReadable texts) :
    exists text, write dialect (records.map (List.map .str)) = .ok text ∧
      read dialect text = .ok (records.map (List.map .str)) := by
  rcases resume_writeRecords h hreadable with ⟨lines, hlines, hread⟩
  refine ⟨String.ofList lines.flatten, ?_, ?_⟩
  · rw [write, hlines]
    rfl
  · rw [read_eq_resume, String.toList_ofList, hread]

/-!
# Cells
-/

def textOf : Value -> String
  | .missing => ""
  | cell => cell.text

/-- A cell that can be written, and whose text is short enough to be read. -/
structure FitsField (cell : Value) : Prop where
  isWritable : cell.isWritable = true
  length : (textOf cell).length <= Progress.fieldLimit

theorem fieldText_eq {cell : Value} (h : cell.isWritable = true) :
    fieldText cell = .ok (textOf cell).toList := by
  have htext : cell.text? = .ok cell.text := by rw [Value.text?, if_pos h]
  unfold fieldText
  split
  · rfl
  · rename_i hpresent
    rw [htext, textOf]
    · rfl
    · exact hpresent

/-- Cells are written as their texts are, unless numbers are told apart by being left unquoted. -/
theorem writeValue_textOf (h : dialect.quoting ≠ .exceptNumbers) {cell : Value}
    (hcell : cell.isWritable = true) :
    writeValue dialect cell = writeValue dialect (.str (textOf cell)) := by
  have hquoted : alwaysQuoted dialect cell = alwaysQuoted dialect (.str (textOf cell)) := by
    unfold alwaysQuoted
    split
    · rfl
    · rename_i hnumbers
      exact absurd hnumbers h
    · rfl
  have hfield : fieldText (.str (textOf cell)) = .ok (textOf cell).toList := rfl
  rw [writeValue, writeValue, fieldText_eq hcell, hfield, hquoted]

theorem writeRecord_textOf (h : dialect.quoting ≠ .exceptNumbers) {cells : List Value}
    (hcells : forall cell, cell ∈ cells -> cell.isWritable = true) :
    writeRecord dialect cells = writeRecord dialect ((cells.map textOf).map .str) := by
  have hfields : cells.mapM (writeValue dialect) =
      ((cells.map textOf).map Value.str).mapM (writeValue dialect) := by
    rw [List.mapM_map, List.mapM_map]
    exact mapM_congr fun cell hcell => writeValue_textOf h (hcells cell hcell)
  rw [writeRecord, writeRecord, hfields, List.isEmpty_map, List.isEmpty_map]

theorem read_write_cells (h : dialect.IsFaithful mark) {records : List (List Value)}
    (hfits : forall cells, cells ∈ records -> forall cell, cell ∈ cells -> FitsField cell) :
    exists text, write dialect records = .ok text ∧
      read dialect text = .ok (records.map fun cells => (cells.map textOf).map .str) := by
  have hreadable : forall texts, texts ∈ records.map (List.map textOf) -> IsReadable texts := by
    intro texts htexts s hs
    rcases List.mem_map.mp htexts with ⟨cells, hcells, rfl⟩
    rcases List.mem_map.mp hs with ⟨cell, hcell, rfl⟩
    exact (hfits cells hcells cell hcell).length
  have hlines : records.mapM (writeRecord dialect) =
      ((records.map (List.map textOf)).map (List.map Value.str)).mapM (writeRecord dialect) := by
    rw [List.mapM_map, List.mapM_map]
    exact mapM_congr fun cells hcells => writeRecord_textOf h.quoting_ne_exceptNumbers
      fun cell hcell => (hfits cells hcells cell hcell).isWritable
  rcases read_write h hreadable with ⟨text, hwrite, hread⟩
  refine ⟨text, ?_, ?_⟩
  · rw [write, hlines]
    exact hwrite
  · rw [hread, List.map_map]
    rfl

end Faithful

/-!
# Files
-/

def FileKind.dialect : FileKind -> Dialect
  | .commas => Dialect.commas
  | .tabs => Dialect.tabs

theorem FileKind.isFaithful_dialect (kind : FileKind) : kind.dialect.IsFaithful '\x22' := by
  cases kind with
  | commas => exact Dialect.isFaithful_commas
  | tabs => exact Dialect.isFaithful_tabs

def FileKind.format (kind : FileKind) : Format :=
  { encoding := .utf8, remedy := .refuse, dialect := kind.dialect }

theorem FileKind.format_reading (kind : FileKind) :
    Format.ofOptions ["header"] (kind.complete []) = .ok kind.format := by
  cases kind with
  | commas => rfl
  | tabs => rfl

theorem FileKind.format_writing (kind : FileKind) :
    Format.ofOptions ["write_header"] (kind.complete []) = .ok kind.format := by
  cases kind with
  | commas => rfl
  | tabs => rfl

theorem FileKind.headerOf_complete (kind : FileKind) :
    headerOf (kind.complete []) = .ok none := by
  cases kind with
  | commas => rfl
  | tabs => rfl

theorem FileKind.recordsFor_complete (kind : FileKind) (table : Table) :
    recordsFor table (kind.complete []) = table.header.map .str :: table.rows := by
  cases kind with
  | commas => rfl
  | tabs => rfl

theorem map_text_str (texts : List String) : (texts.map Value.str).map Value.text = texts := by
  rw [List.map_map]
  exact List.map_id texts

/-- Nothing stands for a missing value, and texts are not read as numbers. -/
def Reading.verbatim : Reading :=
  { type := none, numbers := false, markers := .tuple [], options := [] }

theorem datasetOf_verbatim {options : List (String × Value)} {entry : Entry}
    {header : List String} {rows : List (List Value)}
    (h : recordsOf options entry = .ok (header.map .str :: rows)) :
    datasetOf Reading.verbatim options entry = .ok (some (Dataset.flat header rows)) := by
  have hmarkers : Reading.verbatim.markerList = .ok [] := rfl
  unfold datasetOf
  rw [hmarkers, ok_bind, h, ok_bind]
  simp only [Reading.verbatim, map_text_str]
  rfl

/-!
# Datasets
-/

/-- A dataset of texts that are short enough to be read as fields. -/
structure IsTextual (data : Dataset) : Prop where
  header : IsReadable data.header
  rows : forall row, row ∈ data.rows -> exists texts, IsReadable texts ∧ texts.map Value.str = row

theorem fitsField_str {s : String} (h : s.length <= Progress.fieldLimit) : FitsField (.str s) :=
  ⟨rfl, h⟩

theorem map_textOf_str (texts : List String) : (texts.map Value.str).map textOf = texts := by
  rw [List.map_map]
  exact List.map_id texts

theorem recordsOf_written {data : Dataset} (hheader : IsReadable data.header)
    (hrows : forall row, row ∈ data.rows -> forall cell, cell ∈ row -> FitsField cell)
    (kind : FileKind) :
    exists bytes, files.write data.table (kind.complete []) = .ok bytes ∧
      recordsOf (kind.complete []) (.file bytes) =
        .ok (data.header.map .str :: data.rows.map fun row => (row.map textOf).map .str) := by
  have hnames : forall cell, cell ∈ data.header.map Value.str -> FitsField cell := by
    intro cell hcell
    rcases List.mem_map.mp hcell with ⟨name, hname, rfl⟩
    exact fitsField_str (hheader name hname)
  rcases read_write_cells kind.isFaithful_dialect (List.forall_mem_cons.mpr ⟨hnames, hrows⟩)
    with ⟨text, hwrite, hread⟩
  rw [List.map_cons, map_textOf_str] at hread
  have hdecode : Text.Encoding.utf8.decode .refuse text.toUTF8 = .ok text :=
    Text.decodeUtf8_toUTF8 .refuse text
  refine ⟨text.toUTF8, ?_, ?_⟩
  · refine files.write_eq_ok_iff.2 ⟨kind.format, text, kind.format_writing, ?_, rfl⟩
    rw [kind.recordsFor_complete]
    exact hwrite
  · rw [recordsOf, files.read_eq kind.format_reading kind.headerOf_complete]
    show Text.Encoding.utf8.decode .refuse text.toUTF8 >>= _ = _
    rw [hdecode, ok_bind]
    exact hread

theorem datasetOf_written {data : Dataset} (h : IsTextual data) (kind : FileKind) :
    exists bytes, files.write data.table (kind.complete []) = .ok bytes ∧
      datasetOf Reading.verbatim (kind.complete []) (.file bytes) =
        .ok (some (Dataset.flat data.header data.rows)) := by
  have hfits : forall row, row ∈ data.rows -> forall cell, cell ∈ row -> FitsField cell := by
    intro row hrow cell hcell
    rcases h.rows row hrow with ⟨texts, hreadable, rfl⟩
    rcases List.mem_map.mp hcell with ⟨s, hs, rfl⟩
    exact fitsField_str (hreadable s hs)
  have hsame : (data.rows.map fun row => (row.map textOf).map Value.str) = data.rows := by
    refine (List.map_congr_left fun row hrow => ?_).trans (List.map_id' data.rows)
    rcases h.rows row hrow with ⟨texts, _, rfl⟩
    rw [map_textOf_str]
  rcases recordsOf_written h.header hfits kind with ⟨bytes, hbytes, hrecords⟩
  rw [hsame] at hrecords
  exact ⟨bytes, hbytes, datasetOf_verbatim hrecords⟩

/-!
# Saving and loading
-/

/-- A file can be made at a path: its directory is there, and it is no directory itself. -/
structure IsWritable (folder : Folder) (path : String) : Prop where
  parent : folder.isDirectory (if (parentPath path).isEmpty then "." else parentPath path) = true
  place : exists place, folder.placeOf path = some place ∧ folder.hasDirectory place = false

theorem IsWritable.write {folder : Folder} {path : String} (h : IsWritable folder path)
    (bytes : ByteArray) : exists after, folder.write path bytes = .ok after := by
  rcases h.place with ⟨place, hplace, habsent⟩
  exact ⟨{ folder with files := (place, bytes) :: folder.files },
    by simp [Folder.write, hplace, habsent]⟩

theorem isWritable_empty {path : String} (hparent : parentPath path = "")
    (hplace : Folder.empty.placeOf path = some [path.toList]) : IsWritable Folder.empty path := by
  constructor
  · rw [hparent]
    decide +kernel
  · exact ⟨[path.toList], hplace, rfl⟩

theorem exists_kindOf {path : String} (h : (kindNameOf path).isSome = true) :
    exists kind, forall role, kindOf role path none = .ok kind := by
  rcases Option.isSome_iff_exists.mp h with ⟨name, hname⟩
  have hcases : name = "csv" ∨ name = "tsv" := by
    unfold kindNameOf at hname
    split at hname
    · exact .inl (Option.some.inj hname).symm
    · exact .inr (Option.some.inj hname).symm
    · cases hname
  rcases hcases with rfl | rfl
  · exact ⟨.commas, fun role => by simp [kindOf, hname, FileKind.ofName?]⟩
  · exact ⟨.tabs, fun role => by simp [kindOf, hname, FileKind.ofName?]⟩

theorem load_save_of_bytes {folder : Folder} {data loaded : Dataset} {path : String}
    {reading : Reading} (htype : reading.type = none) (hoptions : reading.options = [])
    (hbytes : forall kind : FileKind, exists bytes, files.write data.table (kind.complete []) = .ok bytes ∧
      datasetOf reading (kind.complete []) (.file bytes) = .ok (some loaded))
    (hwritable : IsWritable folder path) (hkind : (kindNameOf path).isSome = true) :
    exists after, save folder data path none [] = .ok after ∧
      load after path reading = .ok loaded := by
  rcases exists_kindOf hkind with ⟨kind, hkindOf⟩
  rcases hbytes kind with ⟨bytes, hbytes, hread⟩
  rcases hwritable.write ByteArray.empty with ⟨opened, hopened⟩
  rcases hwritable.write bytes with ⟨after, hafter⟩
  refine ⟨after, ?_, ?_⟩
  · have hstore : store folder path data (kind.complete []) = .ok after := by
      simp [store, hopened, hbytes, hafter]
    unfold save
    rw [hkindOf, ok_bind]
    simp only [hwritable.parent, hstore]
    rfl
  · have hsource : kindOf .source path reading.type = .ok kind := by
      rw [htype]
      exact hkindOf .source
    simp [load, hsource, hoptions, Folder.find_write hafter, hread]

/-- A dataset of texts that is saved is loaded with the same header and the same rows. -/
theorem load_save {folder : Folder} {data : Dataset} {path : String} (htextual : IsTextual data)
    (hwritable : IsWritable folder path) (hkind : (kindNameOf path).isSome = true) :
    exists after, save folder data path none [] = .ok after ∧
      load after path Reading.verbatim = .ok (Dataset.flat data.header data.rows) :=
  load_save_of_bytes rfl rfl (datasetOf_written htextual) hwritable hkind

/-- Delimiters, quotes, line ends and blanks in texts, and a text without characters. -/
def awkward : Dataset :=
  { header := ["a,b\t", "\"c\""]
    rows := [[.str "x\r\n\"y\"", .str "\r"], [.str "", .str " \n"]]
    groups := ["\"c\""] }

theorem load_save_awkward :
    exists after, save Folder.empty awkward "awkward.tsv" none [] = .ok after ∧
      load after "awkward.tsv" Reading.verbatim =
        .ok (Dataset.flat awkward.header awkward.rows) := by
  have htextual : IsTextual awkward := by
    constructor
    · decide
    · refine List.forall_mem_cons.mpr ⟨⟨["x\r\n\"y\"", "\r"], by decide, rfl⟩, ?_⟩
      exact List.forall_mem_cons.mpr ⟨⟨["", " \n"], by decide, rfl⟩, by simp⟩
  have hwritable : IsWritable Folder.empty "awkward.tsv" :=
    isWritable_empty (by decide +kernel) (by decide +kernel)
  exact load_save htextual hwritable rfl

end Delimited
end Wrangle
