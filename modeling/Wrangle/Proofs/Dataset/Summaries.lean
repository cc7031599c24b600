import Wrangle.Proofs.Dataset.Keys
import Wrangle.Proofs.Dataset.Padding
import Wrangle.Proofs.Function.Statistics

/-!
# Summaries of groups

To count the rows of each group, or to compute statistics of its columns, gives a
row for each key of the dataset: the cells of the key and then the values for the
rows with this key.
-/

namespace Wrangle

open Dataset

/-!
# Single summaries
-/

/-- The number of rows, or a statistic of a column. -/
inductive Summary where
  | size
  | statistic (of : Statistic) (column : String)
  deriving DecidableEq, Repr

namespace Summary

def column? : Summary -> Option String
  | size => none
  | statistic _ column => some column

def expr : Summary -> Expr
  | size => .groupSize
  | statistic of column => .apply of.name (.library of.function) [.column column] []

/-- The summary of some rows under a header. -/
def value (header : List String) (rows : List (List Value)) : Summary -> Value
  | size => .int (Int.ofNat rows.length)
  | statistic of column => of.value (rows.map (cellAt (header.idxOf column)))

variable {header : List String} {rows others : List (List Value)}

theorem isWhole_value (summary : Summary) : (summary.value header rows).isWhole = true := by
  cases summary with
  | size => rfl
  | statistic of column => exact of.isWhole_value _

theorem value_perm (h : rows.Perm others) (summary : Summary) :
    summary.value header rows = summary.value header others := by
  cases summary with
  | size => rw [value, value, h.length_eq]
  | statistic of column => exact of.value_perm (h.map _)

/-- Summaries that add up: the one of all rows is the sum of those of parts of them. -/
inductive IsAdditive : Summary -> Prop where
  | size : IsAdditive size
  | total (column : String) : IsAdditive (statistic .total column)

theorem IsAdditive.total_map {summary : Summary} (h : summary.IsAdditive) {alpha : Type}
    (items : List alpha) (part : alpha -> List (List Value)) :
    Statistic.total.value (items.map fun item => summary.value header (part item)) =
      summary.value header (items.flatMap part) := by
  cases h with
  | size => exact Statistic.total_lengths items part
  | total column =>
      have hcells : ((items.flatMap part).map (cellAt (header.idxOf column))) =
          items.flatMap fun item => (part item).map (cellAt (header.idxOf column)) :=
        List.map_flatMap
      rw [value, hcells]
      exact Statistic.total_flatMap items fun item => (part item).map (cellAt (header.idxOf column))

def Reads (summary : Summary) (header : List String) (rows : List (List Value))
    (columns : List (String × List Value)) : Prop :=
  forall column, summary.column? = some column ->
    columns.lookup column = some (rows.map (cellAt (header.idxOf column))) ∧
      forall row, row ∈ rows -> (cellAt (header.idxOf column) row).isWhole = true

theorem settled_of_isWhole {result : Value} (h : result.isWhole = true) (name : String)
    (sources : List Value) : Expr.columnOrSettled false name sources result = result := by
  cases result <;> first | rfl | cases h

theorem evaluate_expr {summary : Summary} {columns : List (String × List Value)}
    (h : summary.Reads header rows columns) (callers : CallerFunctions) :
    summary.expr.evaluate callers { columns := columns, nrows := rows.length } =
      .ok (summary.value header rows) := by
  cases summary with
  | size => rfl
  | statistic of column =>
      rcases h column rfl with ⟨hlookup, hwhole⟩
      have hcells : forall cell, cell ∈ rows.map (cellAt (header.idxOf column)) ->
          cell.isWhole = true := List.forall_mem_map.2 hwhole
      have hcolumn : Frame.column? { columns := columns, nrows := rows.length } column =
          .ok (.column (rows.map (cellAt (header.idxOf column)))) := by
        rw [Frame.column?, hlookup]
      have haligned : (Function.library of.function).isRowAligned callers = false := by
        cases of <;> rfl
      rw [expr, Expr.evaluate, Expr.evaluateAll, Expr.evaluateAll, Expr.evaluate, hcolumn,
        Expr.evaluateNamed]
      show (Expr.checkedCall _ _ _ _ _ >>= _) = _
      rw [Expr.checkedCall, of.apply_eq hcells callers]
      show Except.ok (Expr.columnOrSettled _ _ _ _) = _
      rw [haligned, settled_of_isWhole (of.isWhole_value _)]
      rfl

theorem summaryValue_of_isWhole {result : Value} (h : result.isWhole = true) (name : String) :
    summaryValue name result = .ok result := by
  cases result <;> first | rfl | cases h

end Summary

namespace Dataset

/-!
# Lists of summaries
-/

def Compute (assigns : List Assign) (entries : List (String × Summary)) : Prop :=
  assigns.map (fun assign => (assign.name, assign.expr)) =
    entries.map fun entry => (entry.1, entry.2.expr)

/-- Summaries of distinct names none of which is computed from one before it. -/
structure AreApart (entries : List (String × Summary)) : Prop where
  names : (entries.map Prod.fst).Nodup
  reads : entries.Pairwise fun a b => b.2.column? ≠ some a.1

variable {callers : CallerFunctions} {data wide : Dataset} {groups : List Partition}
variable {assigns : List Assign} {entries : List (String × Summary)}
variable {header : List String} {rows : List (List Value)}

theorem Compute.names (h : Compute assigns entries) :
    assigns.map Assign.name = entries.map Prod.fst := by
  have hnames := congrArg (List.map Prod.fst) h
  rwa [List.map_map, List.map_map] at hnames

theorem summaries_eq {columns : List (String × List Value)} (h : Compute assigns entries)
    (hapart : entries.Pairwise fun a b => b.2.column? ≠ some a.1)
    (hreads : forall entry, entry ∈ entries -> entry.2.Reads header rows columns) :
    summaries callers rows.length columns assigns =
      .ok (entries.map fun entry => (entry.1, entry.2.value header rows)) := by
  induction entries generalizing assigns columns with
  | nil =>
      rw [List.map_eq_nil_iff.1 h]
      rfl
  | cons entry entries ih =>
      rcases List.map_eq_cons_iff.1 h with ⟨assign, rest, rfl, heq, hrest⟩
      rcases Prod.mk.inj heq with ⟨hname, hexpr⟩
      rcases List.pairwise_cons.1 hapart with ⟨hothers, hapart⟩
      rcases List.forall_mem_cons.1 hreads with ⟨hfirst, hreads⟩
      have hkept : forall values, forall other, other ∈ entries ->
          other.2.Reads header rows (putEntry columns (assign.name, values)) := by
        intro values other hother column hcolumn
        rw [lookup_putEntry_of_ne]
        · exact hreads other hother column hcolumn
        · rintro rfl
          exact hothers other hother (hname ▸ hcolumn)
      rw [summaries, hexpr, Summary.evaluate_expr hfirst callers, ok_bind,
        Summary.summaryValue_of_isWhole entry.2.isWhole_value]
      show (summaries callers rows.length _ rest >>= _) = _
      rw [ih hrest hapart (hkept _), ok_bind, hname]
      rfl

/-!
# Groups
-/

def tableOf (names : List String) (rows : List (List Value)) : Dataset :=
  if names.isEmpty then flat [] [] else flat names rows

@[simp] theorem tableOf_header (names : List String) (rows : List (List Value)) :
    (tableOf names rows).header = names := by
  cases names <;> rfl

@[simp] theorem tableOf_groups (names : List String) (rows : List (List Value)) :
    (tableOf names rows).groups = [] := by
  cases names <;> rfl

def summarized (data : Dataset) (entries : List (String × Summary)) (keys : List (List Value)) :
    Dataset :=
  tableOf (data.groups ++ entries.map Prod.fst)
    (keys.map fun key =>
      key ++ entries.map fun entry => entry.2.value data.header (data.rowsWith key))

/-- Columns of a dataset with whole cells, which summaries are computed from. -/
def ReadWhole (data : Dataset) (entries : List (String × Summary)) : Prop :=
  forall entry, entry ∈ entries -> forall column, entry.2.column? = some column ->
    column ∈ data.header ∧
      forall row, row ∈ data.rows -> (cellAt (data.header.idxOf column) row).isWhole = true

/-- Summaries that a dataset allows for: their names are distinct and not those of keys, and they
are computed from whole columns, not from each other. -/
structure Allows (data : Dataset) (entries : List (String × Summary)) : Prop where
  apart : AreApart entries
  names : forall entry, entry ∈ entries -> entry.1 ∉ data.groups
  read : data.ReadWhole entries

theorem Allows.of_new (hgroups : forall key, key ∈ data.groups -> key ∈ data.header)
    (hdistinct : (entries.map Prod.fst).Nodup)
    (hnew : forall entry, entry ∈ entries -> entry.1 ∉ data.header)
    (hread : data.ReadWhole entries) : data.Allows entries := by
  constructor
  · refine ⟨hdistinct, List.pairwise_of_forall_mem_list ?_⟩
    intro a ha b hb hcolumn
    exact hnew a ha (hread b hb a.1 hcolumn).1
  · exact fun entry hentry hmem => hnew entry hentry (hgroups entry.1 hmem)
  · exact hread

theorem allows_single {name : String} {summary : Summary} (hname : name ∉ data.groups)
    (hread : forall column, summary.column? = some column -> column ∈ data.header ∧
      forall row, row ∈ data.rows -> (cellAt (data.header.idxOf column) row).isWhole = true) :
    data.Allows [(name, summary)] := by
  constructor
  · exact ⟨List.nodup_singleton _, List.pairwise_singleton _ _⟩
  · intro entry hentry
    rw [List.mem_singleton.1 hentry]
    exact hname
  · intro entry hentry
    rw [List.mem_singleton.1 hentry]
    exact hread

theorem Allows.nodup (h : data.Allows entries) (hdistinct : data.groups.Nodup) :
    (data.groups ++ entries.map Prod.fst).Nodup := by
  rw [List.nodup_append]
  refine ⟨hdistinct, h.apart.names, ?_⟩
  intro key hkey name hname heq
  rcases List.mem_map.1 hname with ⟨entry, hentry, rfl⟩
  exact h.names entry hentry (heq ▸ hkey)

theorem lookup_group (hdata : data.IsRegular) {names : List String} (hwide : data.Pads names wide)
    {group : Partition} (hgroup : data.HasRows group.rows) {column : String}
    (hcolumn : column ∈ data.header) (hkept : isReserved column = false) :
    (restricted wide.columns group.rows).lookup column =
      some ((data.rowsAt group.rows).map (cellAt (data.header.idxOf column))) := by
  rw [lookup_restricted, hwide.lookup hkept, hdata.lookup_columns, if_pos hcolumn, Option.map_some,
    ← firstColumn_part hgroup]
  rfl

/-- The row of a group: the cells of its key, and the summaries of its rows. -/
def summaryRow (data : Dataset) (entries : List (String × Summary)) (group : Partition) :
    List (String × Value) :=
  data.groups.zip group.key ++
    entries.map fun entry => (entry.1, entry.2.value data.header (data.rowsAt group.rows))

theorem groupRow_eq (hdata : data.IsRegular)
    (hunreserved : forall name, name ∈ data.header -> isReserved name = false)
    {names : List String} (hwide : data.Pads names wide) {group : Partition}
    (hgroup : data.HasRows group.rows) (hassigns : Compute assigns entries)
    (h : data.Allows entries) :
    groupRow callers wide assigns group = .ok (data.summaryRow entries group) := by
  have hsize : group.size = (data.rowsAt group.rows).length := by
    rw [rowsAt_eq hgroup, List.length_map]
    rfl
  have hreads : forall entry, entry ∈ entries ->
      entry.2.Reads data.header (data.rowsAt group.rows) (restricted wide.columns group.rows) := by
    intro entry hentry column hcolumn
    rcases h.read entry hentry column hcolumn with ⟨hmem, hwhole⟩
    refine ⟨lookup_group hdata hwide hgroup hmem (hunreserved column hmem), ?_⟩
    exact fun row hrow => hwhole row (mem_rows_of_mem_rowsAt hrow)
  rw [groupRow, hsize, summaries_eq hassigns h.apart.reads hreads, hwide.groups]
  rfl

theorem summaryRow_names {group : Partition} (hlength : group.key.length = data.groups.length) :
    (data.summaryRow entries group).map Prod.fst = data.groups ++ entries.map Prod.fst := by
  rw [summaryRow, List.map_append, List.map_fst_zip (le_of_eq hlength.symm), List.map_map]
  rfl

theorem DividesInto.summaryRows_cells (h : data.DividesInto groups) (hwidth : data.HasWidth)
    (hkeys : data.KeysAre Value.isDiscrete) (entries : List (String × Summary)) :
    (groups.map (data.summaryRow entries)).map (List.map Prod.snd) =
      (groups.map Partition.key).map fun key =>
        key ++ entries.map fun entry => entry.2.value data.header (data.rowsWith key) := by
  rw [List.map_map, List.map_map]
  apply List.map_congr_left
  intro group hgroup
  have hlength := key_length h.partitions hgroup
  rw [Function.comp_apply, Function.comp_apply, summaryRow, List.map_append,
    List.map_snd_zip (le_of_eq hlength), List.map_map, h.rowsAt_group hwidth hkeys hgroup]
  rfl

/-- Summaries give a row for each key, with the values for the rows with this key. -/
theorem summarize_eq (hdata : data.IsRegular)
    (hunreserved : forall name, name ∈ data.header -> isReserved name = false)
    {names : List String} (hwide : data.Pads names wide) (hkeys : data.KeysAre Value.isSimple)
    {keys : List (List Value)} (hlist : data.IsKeyList keys) (hdistinct : data.groups.Nodup)
    (hassigns : Compute assigns entries) (h : data.Allows entries) :
    summarize callers assigns wide = .ok (data.summarized entries keys) := by
  rcases exists_dividesInto hdata.width hkeys.discrete with ⟨groups, hgroups⟩
  have hgroupKeys : groups.map Partition.key = keys :=
    (hgroups.isKeyList hdata.width hkeys).unique hlist fun _ => Iff.rfl
  have hrows : forall group, group ∈ groups -> data.HasRows group.rows :=
    fun group hgroup i hi => lt_of_cover hgroups.cover hgroup hi
  have hlength : forall group, group ∈ groups -> group.key.length = data.groups.length :=
    fun group hgroup => key_length hgroups.partitions hgroup
  have hmapM : groups.mapM (groupRow callers wide assigns) =
      .ok (groups.map (data.summaryRow entries)) :=
    mapM_eq_ok fun group hgroup =>
      groupRow_eq hdata hunreserved hwide (hrows group hgroup) hassigns h
  have hnodup := h.nodup hdistinct
  have hcells := hgroups.summaryRows_cells hdata.width hkeys.discrete entries
  rw [hgroupKeys] at hcells
  unfold summarize
  rw [hwide.partitions, hgroups.partitions, hwide.groups]
  show (groups.mapM (groupRow callers wide assigns) >>= _) = _
  rw [hmapM, ok_bind, hassigns.names, summarized, tableOf]
  by_cases hsome : data.groups ++ entries.map Prod.fst = []
  · rw [hsome]
    exact ofColumns_nil
  · rw [if_neg (by simpa using hsome), ← hcells]
    apply ofColumns_entriesNamed hnodup hsome
    intro row hrow
    rcases List.mem_map.1 hrow with ⟨group, hgroup, rfl⟩
    exact summaryRow_names (hlength group hgroup)

/-!
# The same rows in another order
-/

theorem Allows.of_perm (h : data.Allows entries) {rows : List (List Value)}
    (hrows : rows.Perm data.rows) : (data.withRows rows).Allows entries where
  apart := h.apart
  names := h.names
  read := by
    intro entry hentry column hcolumn
    rcases h.read entry hentry column hcolumn with ⟨hmem, hwhole⟩
    exact ⟨hmem, fun row hrow => hwhole row (hrows.mem_iff.1 hrow)⟩

theorem summarized_of_perm {rows : List (List Value)} (hrows : rows.Perm data.rows)
    (keys : List (List Value)) :
    (data.withRows rows).summarized entries keys = data.summarized entries keys := by
  have hcells : forall key, (entries.map fun entry =>
      entry.2.value (data.withRows rows).header ((data.withRows rows).rowsWith key)) =
        entries.map fun entry => entry.2.value data.header (data.rowsWith key) := by
    intro key
    apply List.map_congr_left
    intro entry _
    exact entry.2.value_perm (rowsWith_of_perm hrows key)
  rw [summarized, summarized]
  simp only [hcells]
  rfl

end Dataset
end Wrangle
