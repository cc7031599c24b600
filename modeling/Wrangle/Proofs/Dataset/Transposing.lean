import Wrangle.Proofs.Dataset.Accumulating
import Wrangle.Proofs.Dataset.Raising

/-!
# Tables, columns and records

A table can be taken apart into its columns or into one record for each row.  Both give the
table back, whatever its cells are.  Columns of one length make up a table that has these
columns again, and columns of different lengths make up none.
-/

namespace Wrangle
namespace Dataset

variable {data table : Dataset} {columns : List (String × List Value)}

/-!
# Records
-/

theorem foldl_putEntry_of_nodup {alpha : Type} {entries items : List (String × alpha)}
    (hnames : ((entries ++ items).map Prod.fst).Nodup) :
    items.foldl putEntry entries = entries ++ items := by
  induction items generalizing entries with
  | nil => exact (List.append_nil entries).symm
  | cons item rest ih =>
      have hnew : item.1 ∉ entries.map Prod.fst := by
        rw [List.map_append] at hnames
        exact fun hold => List.disjoint_of_nodup_append hnames hold List.mem_cons_self
      rw [List.foldl_cons, putEntry_of_notMem hnew, ih (by simpa using hnames), List.append_assoc]
      rfl

theorem record_eq_zip {header : List String} {row : List Value} (hnodup : header.Nodup)
    (hlength : row.length = header.length) : record header row = header.zip row := by
  have hnames : (header.zip row).map Prod.fst = header := List.map_fst_zip hlength.ge
  have hdistinct : (([] ++ header.zip row).map Prod.fst).Nodup := by
    rw [List.nil_append, hnames]
    exact hnodup
  rw [record, ← hlength, fitted_of_length, foldl_putEntry_of_nodup hdistinct]
  rfl

theorem record_eq {header : List String} {row : List Value} (hnodup : header.Nodup)
    (hlength : row.length = header.length) :
    record header row = header.map fun name => (name, cellAt (header.idxOf name) row) := by
  rw [record_eq_zip hnodup hlength]
  apply List.ext_getElem
  · simp [hlength]
  · intro j hj hj'
    have hname : j < header.length := by simpa using hj'
    have hrow : j < row.length := hlength ▸ hname
    simp [cellAt, hrow, hnodup.idxOf_getElem j hname]

theorem lookups_records (hnodup : data.header.Nodup) (hwidth : data.HasWidth) {name : String}
    (hname : name ∈ data.header) :
    data.records.map (fun entries => (entries.lookup name).getD .missing) =
      data.firstColumn name := by
  unfold firstColumn
  rw [records_eq, List.map_map]
  apply List.map_congr_left
  intro row hrow
  show ((record data.header row).lookup name).getD .missing = _
  rw [record_eq hnodup (hwidth row hrow), lookup_map_self, if_pos hname]
  rfl

theorem namesOf_eq {names : List String} (hnodup : names.Nodup)
    {records : List (List (String × Value))} (hsome : records ≠ [])
    (hrecords : forall entries, entries ∈ records -> entries.map Prod.fst = names) :
    namesOf records = names := by
  cases records with
  | nil => exact absurd rfl hsome
  | cons first rest =>
      rcases List.forall_mem_cons.1 hrecords with ⟨hfirst, hrest⟩
      have hnone : (rest.flatMap fun entries => entries.map Prod.fst).removeAll names = [] := by
        rw [List.removeAll, List.filter_eq_nil_iff]
        intro name hname
        rcases List.mem_flatMap.1 hname with ⟨entries, hentries, hname⟩
        rw [hrest entries hentries] at hname
        simpa using hname
      rw [namesOf, List.flatMap_cons, hfirst, List.eraseDups_append, eraseDups_of_nodup hnodup,
        hnone]
      exact List.append_nil names

/-!
# Columns
-/

/-- Whether columns have the same number of cells. -/
def SameLength (columns : List (String × List Value)) : Prop :=
  forall first, first ∈ columns -> forall second, second ∈ columns ->
    first.2.length = second.2.length

theorem ofColumns_iff :
    (exists table, ofColumns columns = .ok table) <-> SameLength columns := by
  constructor
  · rintro ⟨table, h⟩ first hfirst second hsecond
    rcases exists_of_ofColumns h with ⟨n, _, hlengths, _⟩
    rw [hlengths first hfirst, hlengths second hsecond]
  · intro h
    cases columns with
    | nil => exact ⟨_, rfl⟩
    | cons first rest =>
        exact ofColumns_of_lengths fun column hcolumn =>
          h column hcolumn first List.mem_cons_self

theorem columns_ofColumns (hnames : (columns.map Prod.fst).Nodup)
    (h : ofColumns columns = .ok table) : table.columns = columns := by
  rcases ofColumns_eq_ok h with ⟨hheader, hwidth, _⟩
  have hnodup : table.header.Nodup := hheader ▸ hnames
  rw [columns_eq hnodup hwidth, hheader, List.map_map]
  calc
    columns.map _ = columns.map id := by
      apply List.map_congr_left
      intro column hcolumn
      show (column.1, table.firstColumn column.1) = column
      rw [firstColumn_ofColumns hnames h hcolumn]
    _ = columns := List.map_id columns

/-!
# Both ways
-/

/-- A table is put together again from its columns and from its records, which need to be told the
names of the columns only if there are no rows.  Columns with different names are the columns of the
table that they make up, which there is if they are of the same length. -/
theorem transposition_inverse (hnodup : data.header.Nodup) (hwidth : data.HasWidth)
    (hsome : data.header ≠ []) :
    (ofColumns data.columns = .ok data.ungroup ∧
      ofRecords data.records (some data.header) = .ok data.ungroup ∧
      (data.rows ≠ [] -> ofRecords data.records none = .ok data.ungroup)) ∧
    forall columns : List (String × List Value), (columns.map Prod.fst).Nodup ->
      ((exists table, ofColumns columns = .ok table) <-> SameLength columns) ∧
      forall table, ofColumns columns = .ok table -> table.columns = columns := by
  have hungrouped : ofColumns data.ungroup.columns = .ok data.ungroup :=
    ofColumns_columns rfl hnodup hwidth hsome
  have hcolumns : ofColumns data.columns = .ok data.ungroup := hungrouped
  have hrecords : ofRecords data.records (some data.header) = .ok data.ungroup := by
    rw [← hcolumns, columns_eq hnodup hwidth, ofRecords]
    dsimp only [Option.getD_some]
    rw [eraseDups_of_nodup hnodup]
    congr 1
    apply List.map_congr_left
    intro name hname
    rw [lookups_records hnodup hwidth hname]
  refine ⟨⟨hcolumns, hrecords, ?_⟩, fun columns hnames =>
    ⟨ofColumns_iff, fun table => columns_ofColumns hnames⟩⟩
  intro hrows
  have hnamesOf : namesOf data.records = data.header := by
    apply namesOf_eq hnodup (by simpa [records_eq] using hrows)
    intro entries hentries
    rw [records_eq] at hentries
    rcases List.mem_map.1 hentries with ⟨row, hrow, rfl⟩
    rw [record_eq_zip hnodup (hwidth row hrow), List.map_fst_zip (hwidth row hrow).ge]
  rw [← hrecords, ofRecords, ofRecords, Option.getD_none, Option.getD_some, hnamesOf]

/-- Two columns of cells of different kinds, with a missing cell in each. -/
def unevenCells : Dataset :=
  flat ["a", "b"] [[.int 1, .missing], [.str "x", .list [.int 2]], [.missing, .bool true]]

theorem transposition_inverse_unevenCells :
    unevenCells.header.Nodup ∧ unevenCells.HasWidth ∧ unevenCells.header ≠ [] ∧
      unevenCells.rows ≠ [] ∧ ofColumns unevenCells.columns = .ok unevenCells ∧
      ofRecords unevenCells.records none = .ok unevenCells ∧
      ¬ exists table, ofColumns [("a", [.int 1]), ("b", [])] = .ok table := by
  have hnodup : unevenCells.header.Nodup := by decide
  have hwidth : unevenCells.HasWidth := by
    unfold HasWidth
    decide
  have hsome : unevenCells.header ≠ [] := by decide
  have hrows : unevenCells.rows ≠ [] := List.cons_ne_nil _ _
  rcases transposition_inverse hnodup hwidth hsome with ⟨⟨hcolumns, -, hrecords⟩, hmade⟩
  refine ⟨hnodup, hwidth, hsome, hrows, hcolumns, hrecords hrows, ?_⟩
  rw [(hmade _ (by decide)).1]
  intro hsame
  have hlength := hsame ("a", [.int 1]) (by simp) ("b", []) (by simp)
  cases hlength

end Dataset
end Wrangle
