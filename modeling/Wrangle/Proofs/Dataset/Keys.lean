import Wrangle.Proofs.Dataset.Arranging

/-!
# Keys of groups

Integers, texts and missing values are told apart by their places.  Where a dataset
is grouped by such cells, it has one group for each key that a row has, in ascending
order of the keys, with the rows that have this key.  The groups by all columns but
the last one gather these groups.
-/

namespace Wrangle

namespace Value

/-- Cells that are alike if they have the same place, unlike truth values and numbers. -/
def isSimple : Value -> Bool
  | missing => true
  | int _ => true
  | str _ => true
  | _ => false

theorem isDiscrete_of_isSimple {value : Value} (h : value.isSimple = true) :
    value.isDiscrete = true := by
  cases value <;> first | rfl | cases h

theorem eq_of_place {a b : Value} (ha : a.isSimple = true) (hb : b.isSimple = true)
    (h : a.place = b.place) : a = b := by
  cases a <;> cases ha <;> cases b <;> cases hb <;> simp_all [place]

end Value

namespace Dataset

def SimpleKey (key : List Value) : Prop :=
  forall value, value ∈ key -> value.isSimple = true

theorem SimpleKey.eq_of_places {key other : List Value} (hkey : SimpleKey key)
    (hother : SimpleKey other) (h : key.map Value.place = other.map Value.place) : key = other := by
  induction key generalizing other with
  | nil => exact (List.map_eq_nil_iff.1 h.symm).symm
  | cons value rest ih =>
      cases other with
      | nil => cases h
      | cons value' rest' =>
          rcases List.forall_mem_cons.1 hkey with ⟨hvalue, hrest⟩
          rcases List.forall_mem_cons.1 hother with ⟨hvalue', hrest'⟩
          rcases List.cons.inj h with ⟨hplace, hplaces⟩
          rw [Value.eq_of_place hvalue hvalue' hplace, ih hrest hrest' hplaces]

variable {data other : Dataset} {groups : List Partition} {keys others : List (List Value)}

theorem KeysAre.discrete (h : data.KeysAre Value.isSimple) : data.KeysAre Value.isDiscrete :=
  h.mono fun _ => Value.isDiscrete_of_isSimple

theorem simpleKey_keyOf (h : data.KeysAre Value.isSimple) {row : List Value}
    (hrow : row ∈ data.rows) : SimpleKey (data.keyOf row) := by
  intro value hvalue
  rcases List.mem_map.1 hvalue with ⟨i, hi, rfl⟩
  rcases List.mem_map.1 hi with ⟨key, hkey, rfl⟩
  exact h.cells key hkey row hrow

/-!
# Lists of keys
-/

/-- A key that a group has: one of a row, or the empty key of a flat dataset even without rows. -/
def HasKey (data : Dataset) (key : List Value) : Prop :=
  (data.groups = [] ∧ key = []) ∨ exists row, row ∈ data.rows ∧ data.keyOf row = key

/-- All keys of a dataset in ascending order. -/
structure IsKeyList (data : Dataset) (keys : List (List Value)) : Prop where
  ascending : keys.Pairwise fun a b => a.map Value.place < b.map Value.place
  mem_iff : forall key, key ∈ keys <-> data.HasKey key

theorem IsKeyList.unique (h : data.IsKeyList keys) (hother : other.IsKeyList others)
    (hsame : forall key, data.HasKey key <-> other.HasKey key) : keys = others := by
  have hirrefl : Std.Irrefl fun a b : List Value => a.map Value.place < b.map Value.place :=
    ⟨fun _ => lt_irrefl _⟩
  have hantisymm : Std.Antisymm fun a b : List Value => a.map Value.place < b.map Value.place :=
    ⟨fun _ _ hab hba => absurd hba (lt_asymm hab)⟩
  apply List.Pairwise.eq_of_mem_iff h.ascending hother.ascending
  intro key
  rw [h.mem_iff, hother.mem_iff, hsame]

theorem hasKey_length {key : List Value} (h : data.HasKey key) :
    key.length = data.groups.length := by
  rcases h with ⟨hflat, rfl⟩ | ⟨row, _, rfl⟩
  · rw [hflat]
    rfl
  · simp [keyOf, cellsAt, keyIndices]

theorem simpleKey_of_hasKey (h : data.KeysAre Value.isSimple) {key : List Value}
    (hkey : data.HasKey key) : SimpleKey key := by
  rcases hkey with ⟨_, rfl⟩ | ⟨row, hrow, rfl⟩
  · exact fun _ hvalue => absurd hvalue List.not_mem_nil
  · exact simpleKey_keyOf h hrow

def rowsWith (data : Dataset) (key : List Value) : List (List Value) :=
  itemsAt data.keyPlace (key.map Value.place) data.rows

theorem DividesInto.hasKey_iff (h : data.DividesInto groups) (hwidth : data.HasWidth)
    (hkeys : data.KeysAre Value.isSimple) (key : List Value) :
    key ∈ groups.map Partition.key <-> data.HasKey key := by
  have hdiscrete := hkeys.discrete
  cases hg : data.groups with
  | nil =>
      have hflat := h.partitions
      rw [partitions_of_flat data hg] at hflat
      cases hflat
      rw [List.map_singleton, List.mem_singleton]
      constructor
      · exact fun hkey => Or.inl ⟨hg, hkey⟩
      · rintro (⟨_, hkey⟩ | ⟨row, _, hkey⟩)
        · exact hkey
        · rw [← hkey, keyOf, keyIndices, hg]
          rfl
  | cons name rest =>
      have hgrouped : data.isGrouped = true := by
        rw [isGrouped, hg]
        rfl
      rw [List.mem_map]
      constructor
      · rintro ⟨group, hgroup, rfl⟩
        exact Or.inr (exists_keyOf hwidth hdiscrete hgrouped h.partitions hgroup)
      · rintro (⟨hflat, _⟩ | ⟨row, hrow, rfl⟩)
        · rw [hg] at hflat
          cases hflat
        · rcases List.mem_map.1 (h.mem_places hwidth hdiscrete hrow) with ⟨group, hgroup, hplace⟩
          rcases exists_keyOf hwidth hdiscrete hgrouped h.partitions hgroup with
            ⟨other, hother, hkey⟩
          refine ⟨group, hgroup, ?_⟩
          rw [← hkey]
          apply (simpleKey_keyOf hkeys hother).eq_of_places (simpleKey_keyOf hkeys hrow)
          rw [hkey]
          exact hplace

theorem DividesInto.isKeyList (h : data.DividesInto groups) (hwidth : data.HasWidth)
    (hkeys : data.KeysAre Value.isSimple) : data.IsKeyList (groups.map Partition.key) where
  ascending := List.pairwise_map.2 (partitions_ascending hwidth hkeys.discrete h.partitions)
  mem_iff := h.hasKey_iff hwidth hkeys

theorem exists_isKeyList (hwidth : data.HasWidth) (hkeys : data.KeysAre Value.isSimple) :
    exists keys, data.IsKeyList keys := by
  rcases exists_dividesInto hwidth hkeys.discrete with ⟨groups, hgroups⟩
  exact ⟨_, hgroups.isKeyList hwidth hkeys⟩

/-!
# The same rows in another order
-/

/-- A dataset with other rows. -/
def withRows (data : Dataset) (rows : List (List Value)) : Dataset :=
  { data with rows := rows }

section Rows

variable {rows : List (List Value)}

theorem KeysAre.of_perm {test : Value -> Bool} (h : data.KeysAre test)
    (hrows : rows.Perm data.rows) : (data.withRows rows).KeysAre test where
  present := h.present
  cells := fun key hkey row hrow => h.cells key hkey row (hrows.mem_iff.1 hrow)

theorem hasKey_of_perm (hrows : rows.Perm data.rows) (key : List Value) :
    (data.withRows rows).HasKey key <-> data.HasKey key := by
  show (data.groups = [] ∧ key = [] ∨ exists row, row ∈ rows ∧ data.keyOf row = key) <-> _
  simp only [hrows.mem_iff]
  rfl

theorem IsKeyList.of_perm (h : data.IsKeyList keys) (hrows : rows.Perm data.rows) :
    (data.withRows rows).IsKeyList keys where
  ascending := h.ascending
  mem_iff := fun key => (h.mem_iff key).trans (hasKey_of_perm hrows key).symm

theorem rowsWith_of_perm (hrows : rows.Perm data.rows) (key : List Value) :
    ((data.withRows rows).rowsWith key).Perm (data.rowsWith key) :=
  hrows.filter _

end Rows

/-!
# Fewer columns
-/

section Outer

variable {columns : List String}

theorem keyOf_withGroups (row : List Value) :
    (data.withGroups columns).keyOf row =
      columns.map fun column => cellAt (data.header.idxOf column) row := by
  simp [keyOf, cellsAt, keyIndices, withGroups]

theorem keyOf_dropLast (row : List Value) :
    (data.withGroups columns.dropLast).keyOf row =
      ((data.withGroups columns).keyOf row).dropLast := by
  rw [keyOf_withGroups, keyOf_withGroups, List.map_dropLast]

theorem KeysAre.dropLast {test : Value -> Bool} (h : (data.withGroups columns).KeysAre test) :
    (data.withGroups columns.dropLast).KeysAre test where
  present := fun key hkey => h.present key (List.dropLast_subset _ hkey)
  cells := fun key hkey => h.cells key (List.dropLast_subset _ hkey)

def keysWithin (keys : List (List Value)) (key : List Value) : List (List Value) :=
  itemsAt (fun inner => inner.dropLast.map Value.place) (key.map Value.place) keys

theorem rowsWith_dropLast_perm (h : (data.withGroups columns).IsKeyList keys) (key : List Value) :
    ((keysWithin keys key).flatMap (data.withGroups columns).rowsWith).Perm
      ((data.withGroups columns.dropLast).rowsWith key) := by
  have hplaces : forall row, (data.withGroups columns.dropLast).keyPlace row =
      ((data.withGroups columns).keyPlace row).dropLast := by
    intro row
    rw [keyPlace, keyPlace, keyOf_dropLast, List.map_dropLast]
  have hascending : ((keysWithin keys key).map (List.map Value.place)).Pairwise (· < ·) :=
    List.pairwise_map.2 (h.ascending.filter _)
  have hcover : forall row, row ∈ (data.withGroups columns.dropLast).rowsWith key ->
      (data.withGroups columns).keyPlace row ∈
        (keysWithin keys key).map (List.map Value.place) := by
    intro row hrow
    rcases mem_itemsAt_iff.1 hrow with ⟨hrow, hplace⟩
    refine List.mem_map.2 ⟨(data.withGroups columns).keyOf row, mem_itemsAt_iff.2 ⟨?_, ?_⟩, rfl⟩
    · exact (h.mem_iff _).2 (Or.inr ⟨row, hrow, rfl⟩)
    · rw [← hplace, keyPlace, keyOf_dropLast]
  have hrows : forall inner, inner ∈ keysWithin keys key ->
      itemsAt (data.withGroups columns).keyPlace (inner.map Value.place)
          ((data.withGroups columns.dropLast).rowsWith key) =
        (data.withGroups columns).rowsWith inner := by
    intro inner hinner
    apply itemsAt_within
    intro row _ hplace
    rw [hplaces, hplace, ← (mem_itemsAt_iff.1 hinner).2, List.map_dropLast]
  have hgather := (IsArrangement.gather hascending hcover).perm
  rwa [List.flatMap_map, List.flatMap_congr hrows] at hgather

/-!
# Tables of keys
-/

/-- A table with a row for each key, which has other cells after those of the key, grouped by all
columns of the keys but the last one. -/
def keyTable (columns names : List String) (keys : List (List Value))
    (cells : List Value -> List Value) : Dataset where
  header := columns ++ names
  rows := keys.map fun key => key ++ cells key
  groups := columns.dropLast

variable {names : List String} {cells : List Value -> List Value}

theorem map_cellAt_idxOf (hnodup : columns.Nodup) {key : List Value}
    (hlength : key.length = columns.length) (names : List String) (more : List Value) :
    columns.map (fun column => cellAt ((columns ++ names).idxOf column) (key ++ more)) = key := by
  apply List.ext_getElem
  · rw [List.length_map, hlength]
  · intro i hi hi'
    rw [List.length_map] at hi
    have hidx : (columns ++ names).idxOf columns[i] = i := by
      rw [List.idxOf_append_of_mem (List.getElem_mem hi), hnodup.idxOf_getElem i hi]
    rw [List.getElem_map, hidx, cellAt, List.getElem?_append_left hi',
      List.getElem?_eq_getElem hi', Option.getD_some]

theorem keyOf_keyTable (hnodup : columns.Nodup) {key : List Value}
    (hlength : key.length = columns.length) (more : List Value) :
    (keyTable columns names keys cells).keyOf (key ++ more) = key.dropLast := by
  have hkey : (keyTable columns names keys cells).keyOf (key ++ more) =
      columns.dropLast.map fun column =>
        cellAt ((columns ++ names).idxOf column) (key ++ more) :=
    @keyOf_withGroups (keyTable columns names keys cells) columns.dropLast (key ++ more)
  rw [hkey, List.map_dropLast, map_cellAt_idxOf hnodup hlength]

section Table

variable (hnodup : columns.Nodup) (h : (data.withGroups columns).IsKeyList keys)

include hnodup h

theorem keyPlace_keyTable {key : List Value} (hkey : key ∈ keys) :
    (keyTable columns names keys cells).keyPlace (key ++ cells key) =
      key.dropLast.map Value.place := by
  rw [keyPlace, keyOf_keyTable hnodup (hasKey_length ((h.mem_iff key).1 hkey))]

theorem rowsWith_keyTable (key : List Value) :
    (keyTable columns names keys cells).rowsWith key =
      (keysWithin keys key).map fun inner => inner ++ cells inner := by
  show itemsAt _ _ (keys.map fun inner => inner ++ cells inner) = _
  rw [itemsAt_map, itemsAt_congr fun inner hinner => keyPlace_keyTable hnodup h hinner]
  rfl

/-- The table of the keys by some columns has the keys by all of these but the last one. -/
theorem hasKey_keyTable (hsome : columns ≠ []) (key : List Value) :
    (keyTable columns names keys cells).HasKey key <->
      (data.withGroups columns.dropLast).HasKey key := by
  apply or_congr Iff.rfl
  constructor
  · rintro ⟨row, hrow, rfl⟩
    rcases List.mem_map.1 hrow with ⟨inner, hinner, rfl⟩
    have hkey := (h.mem_iff inner).1 hinner
    rw [keyOf_keyTable hnodup (hasKey_length hkey)]
    rcases hkey with ⟨hflat, _⟩ | ⟨source, hsource, rfl⟩
    · exact absurd hflat hsome
    · exact ⟨source, hsource, keyOf_dropLast source⟩
  · rintro ⟨row, hrow, rfl⟩
    have hkey : (data.withGroups columns).HasKey ((data.withGroups columns).keyOf row) :=
      Or.inr ⟨row, hrow, rfl⟩
    refine ⟨_, List.mem_map_of_mem ((h.mem_iff _).2 hkey), ?_⟩
    rw [keyOf_keyTable hnodup (hasKey_length hkey), keyOf_dropLast]

theorem keysAre_keyTable (hkeys : (data.withGroups columns).KeysAre Value.isSimple) :
    (keyTable columns names keys cells).KeysAre Value.isSimple where
  present := fun _ hcolumn => List.mem_append_left _ (List.dropLast_subset _ hcolumn)
  cells := by
    intro column hcolumn row hrow
    rcases List.mem_map.1 hrow with ⟨inner, hinner, rfl⟩
    have hkey := (h.mem_iff inner).1 hinner
    have hall := map_cellAt_idxOf hnodup (hasKey_length hkey) names (cells inner)
    apply simpleKey_of_hasKey hkeys hkey
    rw [← hall]
    exact List.mem_map.2 ⟨column, List.dropLast_subset _ hcolumn, by rw [hall]; rfl⟩

end Table

end Outer

end Dataset
end Wrangle
