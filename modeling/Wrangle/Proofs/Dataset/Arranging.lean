import Mathlib.Data.List.Sort
import Wrangle.Proofs.Dataset.ElementWise
import Wrangle.Proofs.Dataset.Grouping
import Wrangle.Proofs.Value.Stability

/-!
# Rows in the order of keys

The rows of the groups, one group after another, are an arrangement of the rows of
the dataset by the places of their keys.  So are the rows that are sorted by the
keys, the last key first.
-/

namespace Wrangle
namespace Dataset

variable {data : Dataset} {groups : List Partition}

/-!
# Rows of groups
-/

def keyPlace (data : Dataset) (row : List Value) : List (Int ×ₗ Int ×ₗ String) :=
  (data.keyOf row).map Value.place

theorem DividesInto.discreteKey (h : data.DividesInto groups) (hwidth : data.HasWidth)
    (hkeys : data.KeysAre Value.isDiscrete) {group : Partition} (hgroup : group ∈ groups) :
    DiscreteKey group.key := by
  have hgroups := h.partitions
  cases hg : data.groups with
  | nil =>
      rw [partitions_of_flat data hg] at hgroups
      cases hgroups
      rw [List.mem_singleton.1 hgroup]
      exact fun _ hvalue => absurd hvalue List.not_mem_nil
  | cons key rest =>
      have hgrouped : data.isGrouped = true := by
        rw [isGrouped, hg]
        rfl
      rcases exists_keyOf hwidth hkeys hgrouped hgroups hgroup with ⟨row, hrow, hkey⟩
      rw [← hkey]
      exact discreteKey_keyOf hkeys hrow

theorem DividesInto.mem_rows_iff (h : data.DividesInto groups) (hwidth : data.HasWidth)
    (hkeys : data.KeysAre Value.isDiscrete) {group : Partition} (hgroup : group ∈ groups) (i : Nat) :
    i ∈ group.rows <-> exists row, data.rows[i]? = some row ∧ data.keyPlace row = group.place := by
  rw [h.alike group hgroup]
  constructor
  · rintro ⟨row, hrow, hsame⟩
    have hdiscrete := discreteKey_keyOf hkeys (List.mem_of_getElem? hrow)
    refine ⟨row, hrow, (map_place_eq_iff hdiscrete (h.discreteKey hwidth hkeys hgroup)).2 ?_⟩
    exact ((sameAll_iff (h.discreteKey hwidth hkeys hgroup) hdiscrete).1 hsame).symm
  · rintro ⟨row, hrow, hplace⟩
    have hdiscrete := discreteKey_keyOf hkeys (List.mem_of_getElem? hrow)
    refine ⟨row, hrow, (sameAll_iff (h.discreteKey hwidth hkeys hgroup) hdiscrete).2 ?_⟩
    exact ((map_place_eq_iff hdiscrete (h.discreteKey hwidth hkeys hgroup)).1 hplace).symm

theorem rows_eq_map_range (data : Dataset) :
    data.rows = (List.range data.nrows).map fun i => data.rows[i]?.getD [] := by
  have hrows : data.HasRows (List.range data.nrows) := fun i hi => List.mem_range.1 hi
  rw [← rowsAt_eq hrows]
  exact (filterMap_getElem?_range data.rows).symm

theorem rowsAt_filter_range (data : Dataset) (test : List Value -> Bool) :
    data.rowsAt ((List.range data.nrows).filter fun i => test (data.rows[i]?.getD [])) =
      data.rows.filter test := by
  have hrows : data.HasRows
      ((List.range data.nrows).filter fun i => test (data.rows[i]?.getD [])) :=
    fun i hi => List.mem_range.1 (List.mem_filter.1 hi).1
  rw [rowsAt_eq hrows]
  conv => rhs; rw [rows_eq_map_range data, List.filter_map]
  rfl

theorem DividesInto.rowsAt_group (h : data.DividesInto groups) (hwidth : data.HasWidth)
    (hkeys : data.KeysAre Value.isDiscrete) {group : Partition} (hgroup : group ∈ groups) :
    data.rowsAt group.rows = itemsAt data.keyPlace group.place data.rows := by
  have hpositions : group.rows = (List.range data.nrows).filter fun i =>
      decide (data.keyPlace (data.rows[i]?.getD []) = group.place) := by
    apply List.Pairwise.eq_of_mem_iff (h.ascending group hgroup)
      (List.pairwise_lt_range.filter _)
    intro i
    rw [h.mem_rows_iff hwidth hkeys hgroup, List.mem_filter, List.mem_range, decide_eq_true_iff]
    constructor
    · rintro ⟨row, hrow, hplace⟩
      rw [hrow]
      exact ⟨(List.getElem?_eq_some_iff.1 hrow).1, hplace⟩
    · rintro ⟨hi, hplace⟩
      have hrow : data.rows[i]? = some data.rows[i] := List.getElem?_eq_getElem hi
      rw [hrow] at hplace
      exact ⟨_, hrow, hplace⟩
  rw [hpositions, rowsAt_filter_range data fun row => decide (data.keyPlace row = group.place)]
  exact filter_eq_itemsAt fun row => decide_eq_true_iff

theorem DividesInto.mem_places (h : data.DividesInto groups) (hwidth : data.HasWidth)
    (hkeys : data.KeysAre Value.isDiscrete) {row : List Value} (hrow : row ∈ data.rows) :
    data.keyPlace row ∈ groups.map Partition.place := by
  rcases List.mem_iff_getElem.1 hrow with ⟨i, hi, hget⟩
  have hmem : i ∈ groups.flatMap Partition.rows := h.cover.mem_iff.2 (List.mem_range.2 hi)
  rcases List.mem_flatMap.1 hmem with ⟨group, hgroup, hrows⟩
  rcases (h.mem_rows_iff hwidth hkeys hgroup i).1 hrows with ⟨other, hother, hplace⟩
  rw [List.getElem?_eq_getElem hi, hget] at hother
  cases hother
  exact List.mem_map.2 ⟨group, hgroup, hplace.symm⟩

theorem DividesInto.isArrangement (h : data.DividesInto groups) (hwidth : data.HasWidth)
    (hkeys : data.KeysAre Value.isDiscrete) :
    IsArrangement data.keyPlace data.rows
      (groups.flatMap fun group => data.rowsAt group.rows) := by
  have hgather : (groups.flatMap fun group => data.rowsAt group.rows) =
      (groups.map Partition.place).flatMap fun v => itemsAt data.keyPlace v data.rows := by
    rw [List.flatMap_map]
    exact List.flatMap_congr fun group hgroup => h.rowsAt_group hwidth hkeys hgroup
  rw [hgather]
  apply IsArrangement.gather
  · exact List.pairwise_map.2 (partitions_ascending hwidth hkeys h.partitions)
  · exact fun row hrow => h.mem_places hwidth hkeys hrow

/-- To pick all rows of each group is to put the rows in the order of their keys. -/
theorem exists_slice_all (hwidth : data.HasWidth) (hkeys : data.KeysAre Value.isDiscrete)
    {positions : Positions} (hall : forall nrows, positions.offsets nrows = .ok (List.range nrows)) :
    exists rows, slice positions data = .ok { data with rows := rows } ∧
      IsArrangement data.keyPlace data.rows rows := by
  rcases exists_dividesInto hwidth hkeys with ⟨groups, hgroups⟩
  have hpicked : groups.mapM (pickedRows positions) = .ok (groups.map Partition.rows) := by
    apply mapM_eq_ok
    intro group _
    rw [pickedRows, hall]
    exact congrArg Except.ok (filterMap_getElem?_range group.rows)
  refine ⟨_, ?_, hgroups.isArrangement hwidth hkeys⟩
  rw [slice, hgroups.partitions]
  show (groups.mapM (pickedRows positions) >>= _) = _
  rw [hpicked, ok_bind, rowsAt, List.filterMap_flatten, List.map_map, ← List.flatMap_def]
  rfl

/-!
# Sorted rows
-/

def ascending (column : String) : SortKey :=
  { column := column, reverse := false }

theorem place_lt_missing {value : Value} (h : value.isDiscrete = true)
    (hpresent : value.isMissing = false) : value.place < Value.missing.place := by
  rcases Value.asInt?_cases h with ⟨n, hn, _⟩ | rfl | ⟨s, rfl⟩
  · rw [Value.place_of_asInt? hn, Value.place_missing, Prod.Lex.toLex_lt_toLex]
    exact .inl (show (0 : Int) < 2 by decide)
  · cases hpresent
  · rw [Value.place_str, Value.place_missing, Prod.Lex.toLex_lt_toLex]
    exact .inl (show (1 : Int) < 2 by decide)

theorem place_eq_missing {value : Value} (h : value.isMissing = true) :
    value.place = Value.missing.place := by
  cases value <;> first | rfl | cases h

theorem comparesPlaces_keyRank :
    ComparesPlaces (fun entry : Value × List Value => entry.1.isDiscrete = true)
      (fun entry => entry.1.place) (fun a b => Value.lessThan (keyRank a) (keyRank b)) :=
  fun _ _ ha hb => Value.lessThan_rank ha hb

theorem exists_sortKeyed {keyed : List (Value × List Value)}
    (h : Kept (fun entry => entry.1.isDiscrete = true) keyed) :
    exists sorted,
      sortKeyed false (keyed.filter fun entry => !entry.1.isMissing) = .ok sorted ∧
        IsArrangement (fun entry => entry.1.place) keyed
          (sorted ++ keyed.filter fun entry => entry.1.isMissing) := by
  have hpresent : Kept (fun entry => entry.1.isDiscrete = true)
      (keyed.filter fun entry => !entry.1.isMissing) :=
    fun entry hentry => h entry (List.mem_filter.1 hentry).1
  rcases Value.exists_sortOn comparesPlaces_keyRank
    (fun entry hentry => Value.isOrdered_rank (hpresent entry hentry)) hpresent with
    ⟨sorted, hsorted, harrangement⟩
  refine ⟨sorted, hsorted, ?_⟩
  have hlast := harrangement.append_last Value.missing.place
    (fun entry hentry htest => place_lt_missing (h entry hentry) (by simpa using htest))
    (fun entry _ htest => place_eq_missing (by simpa using htest))
  simpa using hlast

theorem exists_sortKeyed_reverse {keyed : List (Value × List Value)}
    (h : Kept (fun entry => entry.1.isDiscrete = true) keyed) :
    exists sorted, sortKeyed true keyed = .ok sorted ∧
      IsArrangement (fun entry => OrderDual.toDual entry.1.place) keyed sorted := by
  have hreversed : Kept (fun entry : Value × List Value => entry.1.isDiscrete = true)
      keyed.reverse := fun entry hentry => h entry (List.mem_reverse.1 hentry)
  rcases Value.exists_sortOn comparesPlaces_keyRank
    (fun entry hentry => Value.isOrdered_rank (hreversed entry hentry)) hreversed with
    ⟨sorted, hsorted, harrangement⟩
  refine ⟨sorted.reverse, ?_, harrangement.reverse⟩
  rw [sortKeyed, if_pos rfl, hsorted]
  rfl

section Rows

variable {header : List String} {column : String} {rows : List (List Value)}

theorem mapM_keyedRow (hcolumn : column ∈ header)
    (hwidth : forall row, row ∈ rows -> row.length = header.length) :
    Outcome.ofFault (rows.mapM (keyedRow (header.idxOf column))) =
      .ok (rows.map fun row => (cellAt (header.idxOf column) row, row)) := by
  apply ofFault_eq_ok_iff.2
  apply mapM_eq_ok
  intro row hrow
  have hlt : header.idxOf column < row.length := by
    rw [hwidth row hrow]
    exact List.idxOf_lt_length_of_mem hcolumn
  rw [keyedRow, cellAt_eq hlt]

theorem kept_keyed {i : Nat} (test : Value -> Bool)
    (hcells : forall row, row ∈ rows -> test (cellAt i row) = true) :
    Kept (fun entry : Value × List Value => test entry.1 = true)
      (rows.map fun row => (cellAt i row, row)) := by
  intro entry hentry
  rcases List.mem_map.1 hentry with ⟨row, hrow, rfl⟩
  exact hcells row hrow

theorem isArrangement_rows {beta : Type} [LinearOrder beta] (place : Value -> beta) {i : Nat}
    {sorted : List (Value × List Value)}
    (h : IsArrangement (fun entry => place entry.1) (rows.map fun row => (cellAt i row, row))
      sorted) :
    IsArrangement (fun row => place (cellAt i row)) rows (sorted.map Prod.snd) := by
  have hrows : (rows.map fun row => (cellAt i row, row)).map Prod.snd = rows := by
    rw [List.map_map]
    exact List.map_id rows
  have hplace : forall entry, entry ∈ (rows.map fun row => (cellAt i row, row)) ->
      place entry.1 = place (cellAt i entry.2) := by
    intro entry hentry
    rcases List.mem_map.1 hentry with ⟨row, _, rfl⟩
    rfl
  have hplaces := h.congr hplace
  have hmapped : IsArrangement (fun row => place (cellAt i row)) _ (sorted.map Prod.snd) :=
    hplaces.map Prod.snd
  rwa [hrows] at hmapped

theorem exists_sortBy (hcolumn : column ∈ header)
    (hwidth : forall row, row ∈ rows -> row.length = header.length)
    (hcells : forall row, row ∈ rows -> (cellAt (header.idxOf column) row).isDiscrete = true) :
    exists sorted, sortBy header (ascending column) rows = .ok sorted ∧
      IsArrangement (fun row => (cellAt (header.idxOf column) row).place) rows sorted := by
  rcases exists_sortKeyed (kept_keyed Value.isDiscrete hcells) with ⟨sorted, hsorted, harrangement⟩
  have hcontains : header.contains column = true := List.contains_iff_mem.2 hcolumn
  refine ⟨_, ?_, isArrangement_rows Value.place harrangement⟩
  simp only [sortBy, ascending, hcontains, if_true, mapM_keyedRow hcolumn hwidth, ok_bind, hsorted]

def descending (column : String) : SortKey :=
  { column := column, reverse := true }

/-- Sorting by a column of discrete cells in reverse arranges the rows from the highest down. -/
theorem exists_sortBy_descending (hcolumn : column ∈ header)
    (hwidth : forall row, row ∈ rows -> row.length = header.length)
    (hcells : forall row, row ∈ rows -> (cellAt (header.idxOf column) row).isDiscrete = true)
    (hpresent : forall row, row ∈ rows -> (cellAt (header.idxOf column) row).isMissing = false) :
    exists sorted, sortBy header (descending column) rows = .ok sorted ∧
      IsArrangement (fun row => OrderDual.toDual (cellAt (header.idxOf column) row).place) rows
        sorted := by
  rcases exists_sortKeyed_reverse (kept_keyed Value.isDiscrete hcells) with ⟨sorted, hsorted, harrangement⟩
  have hcontains : header.contains column = true := List.contains_iff_mem.2 hcolumn
  have hall : (rows.map fun row => (cellAt (header.idxOf column) row, row)).filter
      (fun entry => !entry.1.isMissing) =
        rows.map fun row => (cellAt (header.idxOf column) row, row) := by
    rw [List.filter_eq_self]
    exact kept_keyed (fun value => !value.isMissing) fun row hrow => by
      rw [hpresent row hrow]
      rfl
  have hnone : (rows.map fun row => (cellAt (header.idxOf column) row, row)).filter
      (fun entry => entry.1.isMissing) = [] := by
    rw [List.filter_eq_nil_iff]
    intro entry hentry
    rcases List.mem_map.1 hentry with ⟨row, hrow, rfl⟩
    simp [hpresent row hrow]
  refine ⟨_, ?_, isArrangement_rows (fun value => OrderDual.toDual value.place) harrangement⟩
  simp only [sortBy, descending, hcontains, if_true, mapM_keyedRow hcolumn hwidth, ok_bind, hall,
    hnone, hsorted, List.append_nil]

end Rows

theorem exists_sortRows {header columns : List String} {rows : List (List Value)}
    (hcolumns : forall column, column ∈ columns -> column ∈ header)
    (hwidth : forall row, row ∈ rows -> row.length = header.length)
    (hcells : forall column, column ∈ columns -> forall row, row ∈ rows ->
      (cellAt (header.idxOf column) row).isDiscrete = true) :
    exists sorted, sortRows header rows (columns.map ascending) = .ok sorted ∧
      IsArrangement
        (fun row => columns.map fun column => (cellAt (header.idxOf column) row).place)
        rows sorted := by
  induction columns with
  | nil => exact ⟨rows, rfl, IsArrangement.of_same fun _ _ _ _ => rfl⟩
  | cons column columns ih =>
      rcases List.forall_mem_cons.1 hcolumns with ⟨hcolumn, hothers⟩
      rcases List.forall_mem_cons.1 hcells with ⟨hcell, hrest⟩
      rcases ih hothers hrest with ⟨between, hbetween, htail⟩
      have hmem : forall row, row ∈ between -> row ∈ rows := fun row => (htail.mem_iff row).1
      rcases exists_sortBy hcolumn (fun row hrow => hwidth row (hmem row hrow))
        (fun row hrow => hcell row (hmem row hrow)) with ⟨sorted, hsorted, hhead⟩
      refine ⟨sorted, ?_, htail.cons hhead⟩
      rw [List.map_cons, sortRows, hbetween, ok_bind, hsorted]

theorem exists_sort (hwidth : data.HasWidth) {columns : List String}
    (h : (data.withGroups columns).KeysAre Value.isDiscrete) :
    exists rows, sort (columns.map ascending) data = .ok { data with rows := rows } ∧
      IsArrangement (data.withGroups columns).keyPlace data.rows rows := by
  have hpresent : forall column, column ∈ columns -> column ∈ data.header := h.present
  rcases exists_sortRows hpresent hwidth h.cells with ⟨rows, hrows, harrangement⟩
  refine ⟨rows, ?_, ?_⟩
  · rw [sort, hrows]
    rfl
  · apply harrangement.congr
    intro row _
    simp [keyPlace, keyOf, cellsAt, keyIndices, withGroups]

/-- All rows of the groups by some columns, one group after another, are the rows sorted by these
columns. -/
theorem exists_slice_eq_sort (hwidth : data.HasWidth) {columns : List String}
    (h : (data.withGroups columns).KeysAre Value.isDiscrete) {positions : Positions}
    (hall : forall nrows, positions.offsets nrows = .ok (List.range nrows)) :
    exists rows,
      slice positions (data.withGroups columns) =
          .ok { data.withGroups columns with rows := rows } ∧
        sort (columns.map ascending) data = .ok { data with rows := rows } := by
  have hgrouped : (data.withGroups columns).HasWidth := hwidth
  rcases exists_slice_all hgrouped h hall with ⟨rows, hslice, hrows⟩
  rcases exists_sort hwidth h with ⟨sorted, hsort, hsorted⟩
  have heq : rows = sorted := hrows.unique hsorted
  exact ⟨rows, hslice, heq ▸ hsort⟩

end Dataset

/-!
# Groups as a partition

Rows are grouped by equality of their keys, which are compared as tuples are.  The
groups of a grouped dataset with discrete keys have some rows each, share none of
them and have all of them together, and their keys ascend.
-/

namespace Value

theorem equals_tuple (items others : List Value) :
    equals (.tuple items) (.tuple others) = sameAll items others := by
  rw [equals]

end Value

namespace Dataset

variable {data : Dataset} {groups : List Partition}

theorem equals_tuple_iff {key other : List Value} (hkey : DiscreteKey key)
    (hother : DiscreteKey other) :
    Value.equals (.tuple key) (.tuple other) = true <->
      key.map Value.place = other.map Value.place := by
  rw [Value.equals_tuple, sameAll_iff hkey hother, map_place_eq_iff hkey hother]

namespace DividesInto

theorem disjoint (h : data.DividesInto groups) :
    groups.Pairwise fun a b => List.Disjoint a.rows b.rows := by
  have hnodup : (groups.flatMap Partition.rows).Nodup := h.cover.nodup_iff.2 List.nodup_range
  exact (List.nodup_flatMap.1 hnodup).2

theorem exists_row (h : data.DividesInto groups) (hwidth : data.HasWidth)
    (hkeys : data.KeysAre Value.isDiscrete) (hgrouped : data.isGrouped = true)
    {group : Partition} (hgroup : group ∈ groups) :
    exists i row, i ∈ group.rows ∧ data.rows[i]? = some row ∧ data.keyOf row = group.key := by
  rcases exists_keyOf hwidth hkeys hgrouped h.partitions hgroup with ⟨row, hrow, hkey⟩
  rcases List.mem_iff_getElem?.1 hrow with ⟨i, hi⟩
  refine ⟨i, row, (h.mem_rows_iff hwidth hkeys hgroup i).2 ⟨row, hi, ?_⟩, hi, hkey⟩
  rw [keyPlace, hkey, Partition.place]

theorem exists_group_iff (h : data.DividesInto groups) (hwidth : data.HasWidth)
    (hkeys : data.KeysAre Value.isDiscrete) {i j : Nat} {row other : List Value}
    (hrow : data.rows[i]? = some row) (hother : data.rows[j]? = some other) :
    (exists group, group ∈ groups ∧ i ∈ group.rows ∧ j ∈ group.rows) <->
      Value.equals (.tuple (data.keyOf row)) (.tuple (data.keyOf other)) = true := by
  rw [equals_tuple_iff (discreteKey_keyOf hkeys (List.mem_of_getElem? hrow))
    (discreteKey_keyOf hkeys (List.mem_of_getElem? hother))]
  have hmem : forall {k : Nat} {found : List Value}, data.rows[k]? = some found ->
      forall {group : Partition}, group ∈ groups ->
        (k ∈ group.rows <-> data.keyPlace found = group.place) := by
    intro k found hfound group hgroup
    rw [h.mem_rows_iff hwidth hkeys hgroup, hfound]
    simp
  constructor
  · rintro ⟨group, hgroup, hi, hj⟩
    exact ((hmem hrow hgroup).1 hi).trans ((hmem hother hgroup).1 hj).symm
  · intro hplace
    rcases List.mem_map.1 (h.mem_places hwidth hkeys (List.mem_of_getElem? hrow)) with
      ⟨group, hgroup, hfound⟩
    exact ⟨group, hgroup, (hmem hrow hgroup).2 hfound.symm,
      (hmem hother hgroup).2 (hplace.symm.trans hfound.symm)⟩

theorem keys_ascending (h : data.DividesInto groups) (hwidth : data.HasWidth)
    (hkeys : data.KeysAre Value.isDiscrete) :
    groups.Pairwise fun a b =>
      Value.equals (.tuple a.key) (.tuple b.key) = false ∧
        a.key.map Value.place < b.key.map Value.place := by
  apply (partitions_ascending hwidth hkeys h.partitions).imp_of_mem
  intro a b ha hb hplace
  refine ⟨?_, hplace⟩
  rw [← Bool.not_eq_true,
    equals_tuple_iff (h.discreteKey hwidth hkeys ha) (h.discreteKey hwidth hkeys hb)]
  exact ne_of_lt hplace

end DividesInto

/-- The groups of a grouped dataset with discrete keys are a partition of its rows by the equality
of their keys, in the order of these. -/
theorem partitions_partition (hwidth : data.HasWidth) (hkeys : data.KeysAre Value.isDiscrete)
    (hgrouped : data.isGrouped = true) :
    exists groups, data.partitions = .ok groups ∧
      (forall group, group ∈ groups -> group.rows ≠ [] ∧ group.rows.Pairwise (· < ·)) ∧
      (groups.Pairwise fun a b => List.Disjoint a.rows b.rows) ∧
      (groups.flatMap Partition.rows).Perm (List.range data.nrows) ∧
      (forall i j row other, data.rows[i]? = some row -> data.rows[j]? = some other ->
        ((exists group, group ∈ groups ∧ i ∈ group.rows ∧ j ∈ group.rows) <->
          Value.equals (.tuple (data.keyOf row)) (.tuple (data.keyOf other)) = true)) ∧
      (forall group, group ∈ groups -> exists i row,
        i ∈ group.rows ∧ data.rows[i]? = some row ∧ data.keyOf row = group.key) ∧
      groups.Pairwise fun a b =>
        Value.equals (.tuple a.key) (.tuple b.key) = false ∧
          a.key.map Value.place < b.key.map Value.place := by
  rcases exists_dividesInto hwidth hkeys with ⟨groups, hgroups⟩
  refine ⟨groups, hgroups.partitions, ?_, hgroups.disjoint, hgroups.cover, ?_, ?_,
    hgroups.keys_ascending hwidth hkeys⟩
  · intro group hgroup
    rcases hgroups.exists_row hwidth hkeys hgrouped hgroup with ⟨i, row, hi, _, _⟩
    exact ⟨List.ne_nil_of_mem hi, hgroups.ascending group hgroup⟩
  · exact fun i j row other => hgroups.exists_group_iff hwidth hkeys
  · exact fun group => hgroups.exists_row hwidth hkeys hgrouped

/-- Rows whose keys have numbers, truth values, texts and missing cells, grouped by two columns. -/
def assortment : Dataset where
  header := ["k", "v", "j"]
  rows :=
    [[.missing, .int 1, .str "a"], [.int 1, .int 2, .missing], [.str "b", .int 3, .int 0],
      [.bool true, .int 4, .missing], [.missing, .int 5, .str "a"], [.int (-2), .int 6, .str "z"]]
  groups := ["k", "j"]

theorem partitions_partition_assortment :
    assortment.HasWidth ∧ assortment.KeysAre Value.isDiscrete ∧ assortment.isGrouped = true ∧
      exists groups, assortment.partitions = .ok groups ∧
        (groups.flatMap Partition.rows).Perm [0, 1, 2, 3, 4, 5] ∧
        (exists group, group ∈ groups ∧ 1 ∈ group.rows ∧ 3 ∈ group.rows) ∧
        ¬ exists group, group ∈ groups ∧ 1 ∈ group.rows ∧ 5 ∈ group.rows := by
  have hwidth : assortment.HasWidth := by
    unfold HasWidth
    decide
  have hkeys : assortment.KeysAre Value.isDiscrete := by
    constructor
    · decide
    · decide
  rcases partitions_partition hwidth hkeys rfl with ⟨groups, hgroups, _, _, hcover, hsame, _, _⟩
  refine ⟨hwidth, hkeys, rfl, groups, hgroups, hcover, ?_, ?_⟩
  · apply (hsame 1 3 _ _ rfl rfl).2
    rw [equals_tuple_iff (by unfold DiscreteKey; decide) (by unfold DiscreteKey; decide)]
    rfl
  · intro hshared
    have hequal := (hsame 1 5 _ _ rfl rfl).1 hshared
    rw [equals_tuple_iff (by unfold DiscreteKey; decide) (by unfold DiscreteKey; decide)] at hequal
    exact absurd hequal (by decide)

end Dataset
end Wrangle
