import Wrangle.Proofs.Dataset.Keys
import Wrangle.Proofs.Dataset.Lookup

/-!
# Rows shorter than the header

The rows of a file may be shorter or longer than its header.  Columns are read as if
all rows were as wide as the header, with missing cells where a short row has none,
while the key of a row is read at the places of its own cells.  So a dataset can be
divided into groups just when all of its rows reach the grouping columns.  Then its
groups are those of the dataset with rows of equal width, and their keys are the cells
that the columns have.
-/

namespace Wrangle
namespace Dataset

variable {data : Dataset} {keys : List String} {row : List Value}

/-!
# Rows of equal width
-/

def squared (data : Dataset) : Dataset :=
  { data with rows := data.rows.map (fitted data.width) }

theorem squared_hasWidth (data : Dataset) : data.squared.HasWidth := by
  intro row hrow
  rcases List.mem_map.1 hrow with ⟨short, _, rfl⟩
  exact fitted_length ..

theorem cellAt_fitted {width i : Nat} (hi : i < width) (row : List Value) :
    cellAt i (fitted width row) = cellAt i row := by
  unfold cellAt fitted
  by_cases hrow : i < row.length
  · rw [List.getElem?_append_left (by simp; omega), List.getElem?_take_of_lt hi]
  · have hlength : (row.take width).length = row.length :=
      congrArg List.length (List.take_of_length_le (by omega))
    rw [List.getElem?_append_right (by omega), List.getElem?_replicate, if_pos (by omega),
      List.getElem?_eq_none (by omega)]
    rfl

theorem KeysAre.squared {test : Value -> Bool} (h : data.KeysAre test) :
    data.squared.KeysAre test where
  present := h.present
  cells := by
    intro key hkey row hrow
    rcases List.mem_map.1 hrow with ⟨short, hshort, rfl⟩
    have hplace : data.header.idxOf key < data.width :=
      List.idxOf_lt_length_of_mem (h.present key hkey)
    exact cellAt_fitted hplace short ▸ h.cells key hkey short hshort

theorem keyOf_squared (h : forall key, key ∈ data.groups -> key ∈ data.header)
    (row : List Value) : data.squared.keyOf (fitted data.width row) = data.keyOf row := by
  apply List.map_congr_left
  intro i hi
  rcases List.mem_map.1 hi with ⟨key, hkey, rfl⟩
  exact cellAt_fitted (List.idxOf_lt_length_of_mem (h key hkey)) row

/-!
# Keys of rows
-/

theorem keyCells_eq_badIndex {indices : List Nat} (h : exists i, i ∈ indices ∧ row.length <= i) :
    keyCells row indices = .error .badIndex := by
  induction indices with
  | nil =>
      rcases h with ⟨i, hi, _⟩
      cases hi
  | cons first rest ih =>
      unfold keyCells
      by_cases hfirst : row.length <= first
      · rw [List.getElem?_eq_none hfirst]
      · rcases h with ⟨i, hi, hshort⟩
        rcases List.mem_cons.1 hi with rfl | hi
        · exact absurd hshort hfirst
        · rw [List.getElem?_eq_getElem (by omega)]
          dsimp only
          rw [ih ⟨i, hi, hshort⟩]
          rfl

theorem rowKey_of_not_reaches (hreaches : ¬ data.Reaches data.groups row) :
    rowKey data.keyIndices row = .error .badIndex := by
  unfold Reaches at hreaches
  push Not at hreaches
  rcases hreaches with ⟨key, hkey, hshort⟩
  have hcells : keyCells row data.keyIndices = .error .badIndex :=
    keyCells_eq_badIndex ⟨_, List.mem_map_of_mem hkey, hshort⟩
  unfold rowKey
  rw [hcells]

/-!
# Groups
-/

/-- Where all rows reach the grouping columns, the groups are those of the rows of equal width. -/
theorem partitions_squared (h : data.KeysAre Value.isPlain)
    (hreaches : forall row, row ∈ data.rows -> data.Reaches data.groups row) :
    data.partitions = data.squared.partitions := by
  have hkeys : data.rowKeys = data.squared.rowKeys := by
    rw [rowKeys_eq data.squared_hasWidth h.squared, rowKeys,
      mapM_eq_ok fun row hrow => rowKey_of_reaches h hrow (hreaches row hrow)]
    show Except.ok (data.rows.map data.keyOf) =
      .ok ((data.rows.map (fitted data.width)).map data.squared.keyOf)
    rw [List.map_map]
    exact congrArg Except.ok
      (List.map_congr_left fun row _ => (keyOf_squared h.present row).symm)
  have hrows : data.squared.nrows = data.nrows := List.length_map ..
  unfold partitions
  rw [← hkeys, hrows]
  rfl

theorem partitions_eq_badIndex (h : data.KeysAre Value.isPlain)
    (hshort : exists row, row ∈ data.rows ∧ ¬ data.Reaches data.groups row) :
    data.partitions = .error .badIndex := by
  rcases hshort with ⟨row, hrow, hreaches⟩
  have hends : Ends (fun fault => fault = Fault.badIndex) (fun _ => True) data.rowKeys := by
    apply Ends.mapM_any
    intro other hother
    by_cases hother' : data.Reaches data.groups other
    · rw [rowKey_of_reaches h hother hother']
      trivial
    · rw [rowKey_of_not_reaches hother']
      rfl
  have hgrouped : data.isGrouped = true := by
    unfold Reaches at hreaches
    push Not at hreaches
    rcases hreaches with ⟨key, hkey, _⟩
    simpa [isGrouped] using List.ne_nil_of_mem hkey
  unfold partitions
  rw [if_pos hgrouped]
  cases hkeys : data.rowKeys with
  | ok found =>
      rcases exists_of_mapM_eq_ok hkeys hrow with ⟨key, hkey⟩
      rw [rowKey_of_not_reaches hreaches] at hkey
      cases hkey
  | error fault =>
      rw [hkeys] at hends
      exact congrArg Except.error hends

theorem DividesInto.key_eq {groups : List Partition} (h : data.DividesInto groups)
    (hwidth : data.HasWidth) (hkeys : data.KeysAre Value.isSimple) {group : Partition}
    (hgroup : group ∈ groups) {i : Nat} (hi : i ∈ group.rows) :
    exists row, data.rows[i]? = some row ∧ group.key = data.keyOf row := by
  rcases (h.mem_rows_iff hwidth hkeys.discrete hgroup i).1 hi with ⟨row, hrow, hplace⟩
  have hkey : data.HasKey group.key :=
    (h.hasKey_iff hwidth hkeys _).1 (List.mem_map_of_mem hgroup)
  have hmem : row ∈ data.rows := List.mem_of_getElem? hrow
  exact ⟨row, hrow, (simpleKey_of_hasKey hkeys hkey).eq_of_places
    (simpleKey_keyOf hkeys hmem) hplace.symm⟩

/-!
# Cells of columns
-/

theorem getElem?_flatMap_mul {alpha beta : Type} {f : alpha -> List beta} {items : List alpha}
    {m : Nat} (hm : 0 < m) (h : forall item, item ∈ items -> (f item).length = m) (i : Nat) :
    (items.flatMap f)[i * m]? = items[i]?.bind fun item => (f item)[0]? := by
  induction items generalizing i with
  | nil => rfl
  | cons item rest ih =>
      have hlength := h item (List.mem_cons_self ..)
      rw [List.flatMap_cons]
      cases i with
      | zero => rw [Nat.zero_mul, List.getElem?_append_left (by omega)]; rfl
      | succ i =>
          rw [List.getElem?_append_right (by rw [hlength, Nat.succ_mul]; omega), hlength,
            Nat.succ_mul, Nat.add_sub_cancel,
            ih fun other hother => h other (List.mem_cons_of_mem _ hother)]
          rfl

/-- A row has as many cells under a name as the header has columns of it, and the first of them
is the one of the first column. -/
theorem named_cells {header : List String} {cells : List Value} (name : String)
    (hlength : cells.length = header.length) :
    ((header.zip cells).filter fun entry => entry.1 == name).length = header.count name ∧
      (name ∈ header -> (((header.zip cells).filter fun entry => entry.1 == name).map
        Prod.snd)[0]? = some (cellAt (header.idxOf name) cells)) := by
  induction header generalizing cells with
  | nil => exact ⟨rfl, fun h => nomatch h⟩
  | cons first rest ih =>
      cases cells with
      | nil => cases hlength
      | cons value cells =>
          rcases ih (Nat.succ.inj hlength) with ⟨hcount, hhead⟩
          rw [List.zip_cons_cons, List.filter_cons, List.count_cons]
          by_cases hfirst : first = name
          · subst hfirst
            simp [hcount]
          · have hne : (first == name) = false := by simpa using hfirst
            rw [hne]
            refine ⟨hcount, fun hname => ?_⟩
            rw [List.idxOf_cons_ne rest hfirst, cellAt_succ]
            exact hhead ((List.mem_cons.1 hname).resolve_left (Ne.symm hfirst))

/-- The cell that the column of a name has for a row.  A name that occurs more than once has the
cells of all of its columns, one row after another; the first one of a row is meant. -/
def columnCell (data : Dataset) (name : String) (i : Nat) : Option Value :=
  (data.columns.lookup name).bind fun values => values[i * data.header.count name]?

theorem columnCell_eq {name : String} (hname : name ∈ data.header) (i : Nat) :
    data.columnCell name i = data.rows[i]?.map (cellAt (data.header.idxOf name)) := by
  have hcells : forall row : List Value,
      (cellsNamed data.header name row).length = data.header.count name := by
    intro row
    rw [cellsNamed, List.length_map]
    exact (named_cells name (fitted_length ..)).1
  have hcolumn : data.columns.lookup name = some (data.valuesNamed name) := by
    rw [columns_eq_valuesNamed, lookup_map_self, if_pos (List.mem_eraseDups.2 hname)]
  rw [columnCell, hcolumn, Option.bind_some, valuesNamed,
    getElem?_flatMap_mul (List.count_pos_iff.2 hname) fun row _ => hcells row]
  cases data.rows[i]? with
  | none => rfl
  | some row =>
      have hplace : data.header.idxOf name < data.header.length := List.idxOf_lt_length_of_mem hname
      exact ((named_cells name (fitted_length ..)).2 hname).trans
        (congrArg some (cellAt_fitted hplace row))

/-!
# Groups and columns
-/

/-- Grouping by columns of integers, texts and missing values divides the rows just when all of
them reach these columns.  Then each row is in one group, whose key has the cells of the columns
for the row. -/
theorem partitions_groupBy (hsome : keys ≠ [])
    (hkeys : (data.withGroups keys).KeysAre Value.isSimple) :
    exists grouped, data.groupBy keys = .ok grouped ∧
      ((exists row, row ∈ data.rows ∧ ¬ data.Reaches keys row) ->
        grouped.partitions = .error .badIndex) ∧
      ((forall row, row ∈ data.rows -> data.Reaches keys row) ->
        exists groups, grouped.partitions = .ok groups ∧
          (groups.flatMap Partition.rows).Perm (List.range data.nrows) ∧
          forall group, group ∈ groups -> forall i, i ∈ group.rows ->
            group.key.map some = keys.map fun name => data.columnCell name i) := by
  have hplain : (data.withGroups keys).KeysAre Value.isPlain :=
    hkeys.discrete.mono fun _ => Value.isPlain_of_isDiscrete
  have hpresent : forall key, key ∈ keys -> key ∈ data.header := hkeys.present
  have hunknown : (keys.filter fun key => !data.header.contains key) = [] := by
    rw [List.filter_eq_nil_iff]
    intro key hkey
    simpa using hpresent key hkey
  refine ⟨data.withGroups keys, ?_, ?_, ?_⟩
  · rw [groupBy, if_neg (by simpa using hsome), hunknown]
    rfl
  · exact partitions_eq_badIndex hplain
  · intro hreaches
    have hwidth := squared_hasWidth (data.withGroups keys)
    rcases exists_dividesInto hwidth hkeys.squared.discrete with ⟨groups, hgroups⟩
    refine ⟨groups, (partitions_squared hplain hreaches).trans hgroups.partitions, ?_, ?_⟩
    · have hnrows : (data.withGroups keys).squared.nrows = data.nrows := List.length_map ..
      rw [← hnrows]
      exact hgroups.cover
    · intro group hgroup i hi
      rcases hgroups.key_eq hwidth hkeys.squared hgroup hi with ⟨wide, hwide, hkey⟩
      have hrow : exists row, data.rows[i]? = some row ∧ fitted data.width row = wide := by
        simpa [squared, withGroups, width] using hwide
      rcases hrow with ⟨row, hrow, rfl⟩
      have hfitted : (data.withGroups keys).squared.keyOf (fitted data.width row) =
          (data.withGroups keys).keyOf row := keyOf_squared hkeys.present row
      rw [hkey, hfitted, keyOf_withGroups, List.map_map]
      apply List.map_congr_left
      intro name hname
      rw [columnCell_eq (hpresent name hname), hrow]
      rfl

def withShortRow : Dataset :=
  flat ["a", "b"] [[.str "x", .int 1], [.str "y"], [.str "x", .missing, .int 3]]

theorem partitions_groupBy_withShortRow :
    exists grouped, withShortRow.groupBy ["a"] = .ok grouped ∧
      exists groups, grouped.partitions = .ok groups ∧
        forall group, group ∈ groups -> forall i, i ∈ group.rows ->
          group.key.map some = [withShortRow.columnCell "a" i] := by
  have hkeys : (withShortRow.withGroups ["a"]).KeysAre Value.isSimple :=
    ⟨by decide, by decide⟩
  rcases partitions_groupBy (List.cons_ne_nil _ _) hkeys with ⟨grouped, hgrouped, _, hdivided⟩
  rcases hdivided (by decide) with ⟨groups, hgroups, _, hcells⟩
  exact ⟨grouped, hgrouped, groups, hgroups, hcells⟩

end Dataset
end Wrangle
