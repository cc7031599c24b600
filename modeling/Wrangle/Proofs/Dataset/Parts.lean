import Wrangle.Dataset.Arrangement
import Wrangle.Plan.Operation
import Wrangle.Proofs.Dataset.Columns

/-!
# Parts of datasets

Some rows of a dataset make a flat dataset of their own.  A computation for a group
of rows sees the same columns as a computation for the dataset of these rows.
-/

namespace Wrangle

def Partition.whole (nrows : Nat) : Partition :=
  { key := [], rows := List.range nrows }

@[simp] theorem Partition.whole_rows (nrows : Nat) :
    (Partition.whole nrows).rows = List.range nrows := rfl

@[simp] theorem Partition.whole_size (nrows : Nat) : (Partition.whole nrows).size = nrows :=
  List.length_range

namespace Dataset

/-- The flat dataset of the rows at some positions. -/
def part (data : Dataset) (positions : List Nat) : Dataset :=
  flat data.header (data.rowsAt positions)

/-- The dataset with the rows at some positions only. -/
def keep (data : Dataset) (positions : List Nat) : Dataset :=
  { data with rows := data.rowsAt positions }

/-- Positions at which there are rows. -/
def HasRows (data : Dataset) (positions : List Nat) : Prop :=
  forall i, i ∈ positions -> i < data.nrows

theorem filterMap_getElem?_range {alpha : Type} (items : List alpha) :
    ((List.range items.length).filterMap fun i => items[i]?) = items := by
  induction items with
  | nil => rfl
  | cons item rest ih =>
      rw [List.length_cons, List.range_succ_eq_map, List.filterMap_cons, List.filterMap_map]
      simpa using ih

section Part

variable {data : Dataset} {positions : List Nat}

@[simp] theorem part_header : (data.part positions).header = data.header := rfl

@[simp] theorem keep_header : (data.keep positions).header = data.header := rfl

@[simp] theorem part_groups : (data.part positions).groups = [] := rfl

@[simp] theorem part_rows : (data.part positions).rows = data.rowsAt positions := rfl

theorem rowsAt_eq (h : data.HasRows positions) :
    data.rowsAt positions = positions.map fun i => data.rows[i]?.getD [] := by
  unfold rowsAt
  rw [← List.filterMap_eq_map]
  apply List.filterMap_congr
  intro i hi
  have hlt : i < data.rows.length := h i hi
  rw [Function.comp_apply, List.getElem?_eq_getElem hlt]
  rfl

theorem part_nrows (h : data.HasRows positions) :
    (data.part positions).nrows = positions.length := by
  rw [nrows, part_rows, rowsAt_eq h, List.length_map]

theorem part_partitions (h : data.HasRows positions) :
    (data.part positions).partitions = .ok [Partition.whole positions.length] := by
  rw [partitions_of_flat _ part_groups, part_nrows h]
  rfl

theorem mem_rows_of_mem_rowsAt {row : List Value} (hrow : row ∈ data.rowsAt positions) :
    row ∈ data.rows := by
  rcases List.mem_filterMap.1 hrow with ⟨i, _, hi⟩
  exact List.mem_of_getElem? hi

theorem part_hasWidth (hwidth : data.HasWidth) : (data.part positions).HasWidth := by
  intro row hrow
  exact hwidth row (mem_rows_of_mem_rowsAt hrow)

/-!
# Columns of parts
-/

theorem cellsAt_range {values : List Value} {n : Nat} (h : values.length = n) :
    cellsAt (List.range n) values = values := by
  subst h
  unfold cellsAt
  apply List.ext_getElem
  · simp
  · intro i hi hi'
    simp [cellAt, hi']

theorem firstColumn_part (h : data.HasRows positions) (name : String) :
    (data.part positions).firstColumn name = cellsAt positions (data.firstColumn name) := by
  unfold firstColumn cellsAt
  rw [part_header, part_rows, rowsAt_eq h, List.map_map]
  apply List.map_congr_left
  intro i _
  simp only [Function.comp_apply, cellAt, List.getElem?_map]
  cases data.rows[i]? with
  | none => rfl
  | some row => rfl

theorem frame_part (hnodup : data.header.Nodup) (hwidth : data.HasWidth)
    (h : data.HasRows positions) :
    frame (data.part positions).columns (List.range positions.length) =
      frame data.columns positions := by
  have hcolumns : restricted (data.part positions).columns (List.range positions.length) =
      restricted data.columns positions := by
    have hpart : (data.part positions).header.Nodup := hnodup
    unfold restricted
    rw [columns_eq hnodup hwidth, columns_eq hpart (part_hasWidth hwidth), part_header,
      List.map_map, List.map_map]
    apply List.map_congr_left
    intro name _
    have hlength : (cellsAt positions (data.firstColumn name)).length = positions.length := by
      simp [cellsAt]
    simp only [Function.comp_apply, firstColumn_part h, cellsAt_range hlength]
  unfold frame
  rw [hcolumns, List.length_range]

theorem groupValues_part (callers : CallerFunctions) (hnodup : data.header.Nodup)
    (hwidth : data.HasWidth) (h : data.HasRows positions) (assign : Assign) :
    groupValues callers (data.part positions).columns assign (List.range positions.length) =
      groupValues callers data.columns assign positions := by
  unfold groupValues
  rw [frame_part hnodup hwidth h, List.length_range]

theorem setColumn_part (h : data.HasRows positions) (name : String) {values : List Value}
    (hvalues : values.length = data.nrows) :
    (data.setColumn name values).part positions =
      (data.part positions).setColumn name (cellsAt positions values) := by
  have hset : (data.setColumn name values).HasRows positions := by
    intro i hi
    rw [setColumn_nrows data name values hvalues]
    exact h i hi
  have hrows : (data.setColumn name values).rowsAt positions =
      List.zipWith (rowWith data.header name) (data.rowsAt positions)
        (cellsAt positions values) := by
    rw [rowsAt_eq hset, rowsAt_eq h, cellsAt, List.zipWith_map, List.zipWith_self]
    apply List.map_congr_left
    intro i hi
    have hrow : i < data.rows.length := h i hi
    have hvalue : i < values.length := by
      rw [hvalues]
      exact hrow
    have hboth : i < (List.zipWith (rowWith data.header name) data.rows values).length := by
      rw [List.length_zipWith]
      exact Nat.lt_min.2 ⟨hrow, hvalue⟩
    rw [setColumn_rows, cellAt, List.getElem?_eq_getElem hboth, List.getElem?_eq_getElem hrow,
      List.getElem?_eq_getElem hvalue, List.getElem_zipWith]
    rfl
  rw [part, hrows, setColumn_eq (data.part positions), part_header, part_groups, part_rows,
    setColumn_header]
  rfl

end Part

/-!
# Dropping columns

Columns are dropped by name, whatever the rows are: dropping them commutes with
taking rows.  A column that is set only to be dropped might as well not be set.
-/

variable {test : String -> Bool} {data : Dataset}

/-!
# Kept columns
-/

def keptColumns (test : String -> Bool) (header : List String) : List Nat :=
  (header.zipIdx.filter fun entry => !test entry.1).map Prod.snd

theorem mem_keptColumns_iff {header : List String} {i : Nat} :
    i ∈ keptColumns test header <-> exists name, header[i]? = some name ∧ test name = false := by
  unfold keptColumns
  rw [List.mem_map]
  constructor
  · rintro ⟨⟨name, j⟩, hmem, rfl⟩
    rcases List.mem_filter.1 hmem with ⟨hmem, htest⟩
    refine ⟨name, List.mk_mem_zipIdx_iff_getElem?.1 hmem, ?_⟩
    simpa using htest
  · rintro ⟨name, hname, htest⟩
    refine ⟨(name, i), ?_, rfl⟩
    rw [List.mem_filter]
    refine ⟨List.mk_mem_zipIdx_iff_getElem?.2 hname, ?_⟩
    simpa using htest

theorem keptColumns_of_none {header : List String}
    (h : forall name, name ∈ header -> test name = false) :
    keptColumns test header = List.range header.length := by
  have hall : (header.zipIdx.filter fun entry => !test entry.1) = header.zipIdx := by
    rw [List.filter_eq_self]
    intro entry hentry
    simp [h entry.1 (List.fst_mem_of_mem_zipIdx hentry)]
  rw [keptColumns, hall, List.zipIdx_map_snd, List.range_eq_range']

theorem keptColumns_append {header : List String} {name : String} (hname : test name = true) :
    keptColumns test (header ++ [name]) = keptColumns test header := by
  unfold keptColumns
  rw [List.zipIdx_append, List.filter_append]
  simp [hname]

/-!
# Dropped columns
-/

def dropped (test : String -> Bool) (data : Dataset) : Dataset :=
  if data.header.any test then data.dropColumns test else data

theorem lt_of_mem_keptColumns {header : List String} {i : Nat} (h : i ∈ keptColumns test header) :
    i < header.length := by
  rcases mem_keptColumns_iff.1 h with ⟨name, hname, _⟩
  exact (List.getElem?_eq_some_iff.1 hname).1

theorem takeColumns_eq {indices : List Nat} (h : forall i, i ∈ indices -> i < data.header.length) :
    data.takeColumns indices =
      { data with
        header := indices.filterMap fun i => data.header[i]?
        rows := data.rows.map (cellsAt indices) } := by
  rw [takeColumns, tables.cut_eq data.table indices h]
  rfl

theorem idxOf_source_lt {picks : List Pick}
    (h : forall pick, pick ∈ picks -> pick.source ∈ data.header) {i : Nat}
    (hi : i ∈ picks.map fun pick => data.header.idxOf pick.source) : i < data.header.length := by
  rcases List.mem_map.1 hi with ⟨pick, hpick, rfl⟩
  exact List.idxOf_lt_length_iff.2 (h pick hpick)

theorem dropColumns_eq_takeColumns (data : Dataset) :
    data.dropColumns test = data.takeColumns (keptColumns test data.header) := by
  rw [dropColumns, tables.cutOut_eq]
  rfl

theorem dropColumns_eq (data : Dataset) :
    data.dropColumns test =
      { data with
        header := (keptColumns test data.header).filterMap fun i => data.header[i]?
        rows := data.rows.map (cellsAt (keptColumns test data.header)) } := by
  rw [dropColumns_eq_takeColumns, takeColumns_eq fun _ => lt_of_mem_keptColumns]

theorem dropColumns_header (data : Dataset) :
    (data.dropColumns test).header =
      (keptColumns test data.header).filterMap fun i => data.header[i]? := by
  rw [dropColumns_eq]

theorem mem_dropColumns_header {name : String} (hname : name ∈ data.header)
    (htest : test name = false) : name ∈ (data.dropColumns test).header := by
  rcases List.mem_iff_getElem?.1 hname with ⟨i, hi⟩
  rw [dropColumns_header]
  exact List.mem_filterMap.2 ⟨i, mem_keptColumns_iff.2 ⟨name, hi, htest⟩, hi⟩

theorem dropColumns_of_none (hwidth : data.HasWidth)
    (h : forall name, name ∈ data.header -> test name = false) :
    data.dropColumns test = data := by
  rw [dropColumns_eq, keptColumns_of_none h]
  have hheader : ((List.range data.header.length).filterMap fun i => data.header[i]?) =
      data.header := filterMap_getElem?_range data.header
  have hrows : data.rows.map (cellsAt (List.range data.header.length)) = data.rows := by
    rw [List.map_congr_left fun row hrow => cellsAt_range (hwidth row hrow), List.map_id']
  rw [hheader, hrows]

theorem dropped_eq (hwidth : data.HasWidth) : data.dropped test = data.dropColumns test := by
  unfold dropped
  split
  · rfl
  · rename_i h
    rw [dropColumns_of_none hwidth]
    intro name hname
    cases htest : test name with
    | false => rfl
    | true => exact (h (List.any_eq_true.2 ⟨name, hname, htest⟩)).elim

theorem dropped_of_none (h : forall name, name ∈ data.header -> test name = false) :
    data.dropped test = data := by
  unfold dropped
  rw [if_neg]
  rw [List.any_eq_true]
  rintro ⟨name, hname, htest⟩
  rw [h name hname] at htest
  cases htest

theorem dropped_groups : (data.dropped test).groups = data.groups := by
  unfold dropped
  split <;> rfl

theorem dropped_nrows : (data.dropped test).nrows = data.nrows := by
  unfold dropped
  split
  · rw [dropColumns_eq]
    exact List.length_map ..
  · rfl

theorem checked_eq_ok (h : forall key, key ∈ data.groups -> key ∈ data.header) :
    data.checked = .ok data := by
  have hunknown : (data.groups.filter fun key => !data.header.contains key) = [] := by
    rw [List.filter_eq_nil_iff]
    intro key hkey
    simp [h key hkey]
  rcases data with ⟨header, rows, groups⟩
  cases groups with
  | nil => rfl
  | cons key rest =>
      dsimp only at hunknown
      simp only [checked, regroup, groupBy, List.isEmpty_cons, hunknown]
      rfl

theorem drop_eq_ok (h : forall key, key ∈ data.groups -> key ∈ data.header ∧ test key = false) :
    Operation.drop test data = .ok (data.dropped test) := by
  unfold Operation.drop dropped
  split
  · apply checked_eq_ok
    intro key hkey
    rcases h key hkey with ⟨hmem, htest⟩
    exact mem_dropColumns_header hmem htest
  · rfl

theorem dropColumns_rowsAt (positions : List Nat) :
    (data.dropColumns test).rowsAt positions =
      (data.rowsAt positions).map (cellsAt (keptColumns test data.header)) := by
  unfold rowsAt
  rw [List.map_filterMap, dropColumns_eq]
  simp only [List.getElem?_map]

theorem dropped_part (positions : List Nat) :
    (data.part positions).dropped test = (data.dropped test).part positions := by
  unfold dropped
  rw [part_header]
  split
  · rw [part, part, dropColumns_rowsAt, dropColumns_header, dropColumns_eq]
    rfl
  · rfl

theorem dropped_keep (positions : List Nat) :
    (data.keep positions).dropped test = (data.dropped test).keep positions := by
  unfold dropped
  rw [keep_header]
  split
  · rw [keep, keep, dropColumns_rowsAt, dropColumns_header, dropColumns_eq]
    rfl
  · rfl

theorem drop_part (positions : List Nat) :
    Operation.drop test (data.part positions) = .ok ((data.dropped test).part positions) := by
  rw [← dropped_part]
  apply drop_eq_ok
  intro key hkey
  cases hkey

theorem drop_keep (h : forall key, key ∈ data.groups -> key ∈ data.header ∧ test key = false)
    (positions : List Nat) :
    Operation.drop test (data.keep positions) = .ok ((data.dropped test).keep positions) := by
  rw [← dropped_keep]
  exact drop_eq_ok h

theorem cellsAt_rowWith {header : List String} {row : List Value} {name : String}
    (hlength : row.length = header.length) {indices : List Nat}
    (hindices : forall i, i ∈ indices -> exists other, header[i]? = some other ∧ other ≠ name)
    (value : Value) : cellsAt indices (rowWith header name row value) = cellsAt indices row := by
  apply List.map_congr_left
  intro i hi
  rcases hindices i hi with ⟨other, hother, hne⟩
  rcases List.getElem?_eq_some_iff.1 hother with ⟨hlt, heq⟩
  rw [rowWith_eq hlength]
  split
  · rename_i hcontains
    have hname : name ∈ header := by simpa using hcontains
    have hidx : header.idxOf name ≠ i := by
      rintro rfl
      exact hne (heq ▸ List.getElem_idxOf hlt)
    rw [cellAt, List.getElem?_set_ne hidx, cellAt]
  · rw [cellAt, List.getElem?_append_left (by rw [hlength]; exact hlt), cellAt]

theorem keptColumns_headerWith {header : List String} {name : String} (htest : test name = true) :
    keptColumns test (headerWith header name) = keptColumns test header := by
  unfold headerWith
  split
  · rfl
  · exact keptColumns_append htest

theorem dropped_setColumn (hwidth : data.HasWidth) {name : String} (htest : test name = true)
    {values : List Value} (hvalues : values.length = data.nrows) :
    (data.setColumn name values).dropped test = data.dropped test := by
  have hkept : forall i, i ∈ keptColumns test data.header ->
      exists other, data.header[i]? = some other ∧ other ≠ name := by
    intro i hi
    rcases mem_keptColumns_iff.1 hi with ⟨other, hother, hfalse⟩
    refine ⟨other, hother, ?_⟩
    rintro rfl
    rw [htest] at hfalse
    cases hfalse
  have hnames : ((keptColumns test data.header).filterMap fun i =>
      (headerWith data.header name)[i]?) =
      (keptColumns test data.header).filterMap fun i => data.header[i]? := by
    apply List.filterMap_congr
    intro i hi
    rcases hkept i hi with ⟨other, hother, _⟩
    have hlt := (List.getElem?_eq_some_iff.1 hother).1
    unfold headerWith
    split
    · rfl
    · exact List.getElem?_append_left hlt
  have hrows : (data.setColumn name values).rows.map (cellsAt (keptColumns test data.header)) =
      data.rows.map (cellsAt (keptColumns test data.header)) := by
    apply map_setColumn_rows hvalues
    intro row hrow value
    exact cellsAt_rowWith (hwidth row hrow) hkept value
  rw [dropped_eq (setColumn_hasWidth hwidth name values), dropped_eq hwidth, dropColumns_eq,
    dropColumns_eq, setColumn_header, keptColumns_headerWith htest, setColumn_groups, hnames, hrows]

end Dataset
end Wrangle
