import Wrangle.Proofs.Dataset.Columns
import Wrangle.Proofs.Value.Comparing
import Wrangle.Proofs.Value.Permuting
import Wrangle.Proofs.Value.Ranking

/-!
# Groups of rows

Where the cells of the grouping columns are plain, the rows of a dataset can
always be divided into groups.
-/

namespace Wrangle
namespace Dataset

/-!
# Keys of rows
-/

/-- The grouping columns are there, and the cells in them are of a kind. -/
structure KeysAre (test : Value -> Bool) (data : Dataset) : Prop where
  present : forall key, key ∈ data.groups -> key ∈ data.header
  cells : forall key, key ∈ data.groups -> forall row, row ∈ data.rows ->
    test (cellAt (data.header.idxOf key) row) = true

theorem KeysAre.setColumn {test : Value -> Bool} {data : Dataset} (h : data.KeysAre test)
    (hwidth : data.HasWidth) {name : String} (hname : name ∉ data.groups) (values : List Value) :
    (data.setColumn name values).KeysAre test := by
  rw [setColumn_eq]
  constructor
  · intro key hkey
    exact mem_headerWith_iff.2 (Or.inl (h.present key hkey))
  · intro key hkey row hrow
    rcases List.mem_iff_getElem.1 hrow with ⟨i, hi, rfl⟩
    have hne : key ≠ name := by
      rintro rfl
      exact hname hkey
    rw [List.getElem_zipWith,
      cellAt_rowWith (hwidth _ (List.getElem_mem _)) (h.present key hkey) hne]
    exact h.cells key hkey _ (List.getElem_mem _)

/-- The cells of a row in the grouping columns. -/
def keyOf (data : Dataset) (row : List Value) : List Value :=
  cellsAt data.keyIndices row

theorem keyCells_eq {row : List Value} {indices : List Nat}
    (h : forall i, i ∈ indices -> i < row.length) :
    keyCells row indices = .ok (cellsAt indices row) := by
  induction indices with
  | nil => rfl
  | cons i rest ih =>
      rw [keyCells, cellAt_eq (h i (List.mem_cons_self ..))]
      dsimp only
      rw [ih fun j hj => h j (List.mem_cons_of_mem _ hj)]
      rfl

theorem allCanBeKeys_of_forall {values : List Value}
    (h : forall value, value ∈ values -> value.canBeKey = true) :
    Value.allCanBeKeys values = true := by
  induction values with
  | nil => rfl
  | cons value rest ih =>
      rw [Value.allCanBeKeys, h value (List.mem_cons_self ..),
        ih fun other hother => h other (List.mem_cons_of_mem _ hother)]
      rfl

theorem canBeKey_of_isPlain {value : Value} (h : value.isPlain = true) :
    value.canBeKey = true := by
  cases value <;> first | rfl | cases h

theorem isPlain_of_mem_keyOf {data : Dataset} (h : data.KeysAre Value.isPlain) {row : List Value}
    (hrow : row ∈ data.rows) {value : Value} (hvalue : value ∈ data.keyOf row) :
    value.isPlain = true := by
  rcases List.mem_map.1 hvalue with ⟨i, hi, rfl⟩
  rcases List.mem_map.1 hi with ⟨key, hkey, rfl⟩
  exact h.cells key hkey row hrow

/-- A row has a cell of its own in each of some columns. -/
def Reaches (data : Dataset) (keys : List String) (row : List Value) : Prop :=
  forall key, key ∈ keys -> data.header.idxOf key < row.length

instance (data : Dataset) (keys : List String) (row : List Value) :
    Decidable (data.Reaches keys row) :=
  inferInstanceAs (Decidable (forall key, key ∈ keys -> data.header.idxOf key < row.length))

theorem rowKey_of_reaches {data : Dataset} (h : data.KeysAre Value.isPlain) {row : List Value}
    (hrow : row ∈ data.rows) (hreaches : data.Reaches data.groups row) :
    rowKey data.keyIndices row = .ok (data.keyOf row) := by
  have hcells : keyCells row data.keyIndices = .ok (data.keyOf row) := by
    apply keyCells_eq
    intro i hi
    rcases List.mem_map.1 hi with ⟨key, hkey, rfl⟩
    exact hreaches key hkey
  have hkeys : Value.allCanBeKeys (data.keyOf row) = true :=
    allCanBeKeys_of_forall fun value hvalue =>
      canBeKey_of_isPlain (isPlain_of_mem_keyOf h hrow hvalue)
  unfold rowKey
  rw [hcells]
  dsimp only
  rw [if_pos hkeys]

theorem rowKey_eq {data : Dataset} (hwidth : data.HasWidth) (h : data.KeysAre Value.isPlain)
    {row : List Value} (hrow : row ∈ data.rows) :
    rowKey data.keyIndices row = .ok (data.keyOf row) := by
  apply rowKey_of_reaches h hrow
  intro key hkey
  rw [hwidth row hrow]
  exact List.idxOf_lt_length_of_mem (h.present key hkey)

theorem rowKeys_eq {data : Dataset} (hwidth : data.HasWidth) (h : data.KeysAre Value.isPlain) :
    data.rowKeys = .ok (data.rows.map data.keyOf) :=
  mapM_eq_ok fun _ hrow => rowKey_eq hwidth h hrow

theorem keyOf_rowWith {test : Value -> Bool} {data : Dataset} (h : data.KeysAre test)
    {name : String} (hname : name ∉ data.groups) {row : List Value}
    (hlength : row.length = data.header.length) (values : List Value) (value : Value) :
    (data.setColumn name values).keyOf (rowWith data.header name row value) =
      data.keyOf row := by
  rw [setColumn_eq]
  unfold keyOf cellsAt keyIndices
  rw [List.map_map, List.map_map]
  apply List.map_congr_left
  intro key hkey
  have hne : key ≠ name := by
    rintro rfl
    exact hname hkey
  exact cellAt_rowWith hlength (h.present key hkey) hne value

theorem rowKeys_setColumn {data : Dataset} (h : data.KeysAre Value.isPlain)
    (hwidth : data.HasWidth) {name : String} (hname : name ∉ data.groups) {values : List Value}
    (hvalues : values.length = data.nrows) :
    (data.setColumn name values).rowKeys = data.rowKeys := by
  rw [rowKeys_eq (setColumn_hasWidth hwidth name values) (h.setColumn hwidth hname values),
    rowKeys_eq hwidth h]
  congr 1
  apply map_setColumn_rows hvalues
  intro row hrow value
  exact keyOf_rowWith h hname (hwidth row hrow) values value

/-!
# Groups
-/

theorem mem_distinctKeys {keys : List (List Value)} {entry : List Value × Nat}
    (h : entry ∈ distinctKeys keys) : entry ∈ keys.zipIdx := by
  have hfold : forall (entries seen : List (List Value × Nat)),
      entry ∈ entries.foldl (fun seen entry =>
        if seen.any fun found => Value.sameAll found.1 entry.1 then seen else seen ++ [entry])
        seen -> entry ∈ seen ∨ entry ∈ entries := by
    intro entries
    induction entries with
    | nil =>
        intro seen h
        exact Or.inl h
    | cons first rest ih =>
        intro seen h
        rcases ih _ h with h | h
        · dsimp only at h
          split at h
          · exact Or.inl h
          · rcases List.mem_append.1 h with h | h
            · exact Or.inl h
            · rw [List.mem_singleton.1 h]
              exact Or.inr (List.mem_cons_self ..)
        · exact Or.inr (List.mem_cons_of_mem _ h)
  rcases hfold keys.zipIdx [] h with h | h
  · cases h
  · exact h

theorem key_mem_of_mem_groupsOf {keys : List (List Value)} {group : Partition}
    (h : group ∈ groupsOf keys) : group.key ∈ keys := by
  rcases List.mem_map.1 h with ⟨entry, hentry, rfl⟩
  exact List.fst_mem_of_mem_zipIdx (mem_distinctKeys hentry)

theorem compares_rank :
    Compares (fun _ => False) (fun group : Partition =>
        forall value, value ∈ group.key -> value.isPlain = true)
      (fun a b => Value.lessThan a.rank b.rank) := by
  intro a b ha hb
  show Value.Succeeds
    (Value.compareWith .less (.tuple (a.key.map Value.rank)) (.tuple (b.key.map Value.rank)))
  rw [Value.compareWith]
  exact Value.compareItems_ranks .less ha hb

theorem exists_partitions {data : Dataset} (hwidth : data.HasWidth)
    (h : data.KeysAre Value.isPlain) : exists groups, data.partitions = .ok groups := by
  unfold partitions
  split
  · rw [rowKeys_eq hwidth h]
    have hkept : Kept (fun group : Partition => forall value, value ∈ group.key ->
        value.isPlain = true) (groupsOf (data.rows.map data.keyOf)) := by
      intro group hgroup value hvalue
      rcases List.mem_map.1 (key_mem_of_mem_groupsOf hgroup) with ⟨row, hrow, hkey⟩
      rw [← hkey] at hvalue
      exact isPlain_of_mem_keyOf h hrow hvalue
    rcases (Value.sortOn_ends compares_rank hkept).exists_ok with ⟨groups, hgroups, _⟩
    exact ⟨groups, hgroups⟩
  · exact ⟨_, rfl⟩

/-!
# Cells of keys
-/

theorem keyCells_ends (row : List Value) (indices : List Nat) :
    Ends (fun _ => True) (fun key => key.length = indices.length) (keyCells row indices) := by
  induction indices with
  | nil => rfl
  | cons i rest ih =>
      unfold keyCells
      split
      · trivial
      · exact ih.map fun key hkey => congrArg Nat.succ hkey

theorem rowKey_ends (indices : List Nat) (row : List Value) :
    Ends (fun _ => True) (fun key => key.length = indices.length) (rowKey indices row) := by
  have hcells := keyCells_ends row indices
  unfold rowKey
  split
  · trivial
  · rename_i key hkey
    rw [hkey] at hcells
    split
    · exact hcells
    · trivial

theorem key_length {data : Dataset} {groups : List Partition}
    (hgroups : data.partitions = .ok groups) {group : Partition} (hgroup : group ∈ groups) :
    group.key.length = data.groups.length := by
  unfold partitions at hgroups
  split at hgroups
  · split at hgroups
    · cases hgroups
    · rename_i keys hkeys
      have hlengths : Ends (fun _ => True)
          (fun keys => forall key, key ∈ keys -> key.length = data.keyIndices.length)
          data.rowKeys := Ends.mapM fun row _ => rowKey_ends data.keyIndices row
      rw [hkeys] at hlengths
      have hcompares : Compares (fun _ => True)
          (fun found : Partition => found.key.length = data.keyIndices.length)
          (fun a b => Value.lessThan a.rank b.rank) := by
        intro a b _ _
        dsimp only
        cases Value.lessThan a.rank b.rank <;> trivial
      have hsorted := Value.sortOn_ends hcompares
        fun found hfound => hlengths found.key (key_mem_of_mem_groupsOf hfound)
      rw [hgroups] at hsorted
      rw [hsorted group hgroup, keyIndices, List.length_map]
  · rename_i hflat
    cases hgroups
    rw [List.mem_singleton.1 hgroup]
    have hnone : data.groups = [] := by simpa [isGrouped] using hflat
    rw [hnone]
    rfl

/-!
# Division into groups

Where the cells of the grouping columns are discrete, every row of a dataset is in
exactly one group: the one of the key that is the same as its own.
-/

/-!
# Distinct keys
-/

def DiscreteKey (key : List Value) : Prop :=
  forall value, value ∈ key -> value.isDiscrete = true

def standardKey (key : List Value) : List Value :=
  key.map Value.standard

theorem sameAll_iff {key other : List Value} (hkey : DiscreteKey key) (hother : DiscreteKey other) :
    Value.sameAll key other = true <-> standardKey key = standardKey other :=
  Value.sameAll_iff hkey hother

def noteKey (seen : List (List Value × Nat)) (entry : List Value × Nat) :
    List (List Value × Nat) :=
  if seen.any fun found => Value.sameAll found.1 entry.1 then seen else seen ++ [entry]

/-- Keys with their positions of which no two are the same. -/
structure AreDistinct (entries : List (List Value × Nat)) : Prop where
  discrete : forall entry, entry ∈ entries -> DiscreteKey entry.1
  apart : entries.Pairwise fun a b => standardKey a.1 ≠ standardKey b.1

theorem mem_noteKey {seen : List (List Value × Nat)} {entry found : List Value × Nat}
    (h : found ∈ seen) : found ∈ noteKey seen entry := by
  unfold noteKey
  split
  · exact h
  · exact List.mem_append_left _ h

theorem AreDistinct.any_iff {seen : List (List Value × Nat)} (h : AreDistinct seen)
    {key : List Value} (hkey : DiscreteKey key) :
    (seen.any fun found => Value.sameAll found.1 key) = true <->
      exists found, found ∈ seen ∧ standardKey key = standardKey found.1 := by
  rw [List.any_eq_true]
  constructor
  · rintro ⟨found, hfound, hsame⟩
    exact ⟨found, hfound, ((sameAll_iff (h.discrete found hfound) hkey).1 hsame).symm⟩
  · rintro ⟨found, hfound, hsame⟩
    exact ⟨found, hfound, (sameAll_iff (h.discrete found hfound) hkey).2 hsame.symm⟩

theorem AreDistinct.noteKey {seen : List (List Value × Nat)} (h : AreDistinct seen)
    {entry : List Value × Nat} (hentry : DiscreteKey entry.1) :
    AreDistinct (noteKey seen entry) := by
  unfold Dataset.noteKey
  split
  · exact h
  · rename_i hany
    constructor
    · intro found hfound
      rcases List.mem_append.1 hfound with hfound | hfound
      · exact h.discrete found hfound
      · rw [List.mem_singleton.1 hfound]
        exact hentry
    · rw [List.pairwise_append]
      refine ⟨h.apart, List.pairwise_singleton _ _, ?_⟩
      intro found hfound last hlast hsame
      rw [List.mem_singleton.1 hlast] at hsame
      exact hany ((h.any_iff hentry).2 ⟨found, hfound, hsame.symm⟩)

theorem AreDistinct.foldl {rest : List (List Value × Nat)}
    (hrest : forall entry, entry ∈ rest -> DiscreteKey entry.1) :
    forall {seen : List (List Value × Nat)}, AreDistinct seen ->
      AreDistinct (rest.foldl Dataset.noteKey seen) := by
  induction rest with
  | nil => exact fun h => h
  | cons first rest ih =>
      intro seen h
      rcases List.forall_mem_cons.1 hrest with ⟨hfirst, hothers⟩
      exact ih hothers (h.noteKey hfirst)

theorem mem_foldl_noteKey {rest : List (List Value × Nat)} {found : List Value × Nat} :
    forall {seen : List (List Value × Nat)}, found ∈ seen ->
      found ∈ rest.foldl noteKey seen := by
  induction rest with
  | nil => exact fun h => h
  | cons first rest ih => exact fun h => ih (mem_noteKey h)

theorem exists_noted (seen : List (List Value × Nat)) {rest : List (List Value × Nat)}
    {entry : List Value × Nat} (hentry : entry ∈ rest) :
    exists found, found ∈ rest.foldl noteKey seen ∧
      (found = entry ∨ Value.sameAll found.1 entry.1 = true) := by
  induction rest generalizing seen with
  | nil => exact absurd hentry List.not_mem_nil
  | cons first rest ih =>
      rcases List.mem_cons.1 hentry with rfl | hentry
      · show exists found, found ∈ rest.foldl noteKey (noteKey seen entry) ∧ _
        by_cases hany : (seen.any fun found => Value.sameAll found.1 entry.1) = true
        · rcases List.any_eq_true.1 hany with ⟨found, hfound, hsame⟩
          exact ⟨found, mem_foldl_noteKey (mem_noteKey hfound), Or.inr hsame⟩
        · refine ⟨entry, mem_foldl_noteKey ?_, Or.inl rfl⟩
          rw [noteKey, if_neg hany]
          exact List.mem_append_right _ (List.mem_singleton.2 rfl)
      · exact ih _ hentry

/-- Each place is among the rows of a group, whatever the keys are. -/
theorem exists_group_of_lt {keys : List (List Value)} {i : Nat} (hi : i < keys.length) :
    exists group, group ∈ groupsOf keys ∧ i ∈ group.rows := by
  have hentry : (keys[i], i) ∈ keys.zipIdx :=
    List.mk_mem_zipIdx_iff_getElem?.2 (List.getElem?_eq_getElem hi)
  rcases exists_noted [] hentry with ⟨found, hfound, hsame⟩
  refine ⟨_, List.mem_map_of_mem hfound, ?_⟩
  refine List.mem_map.2 ⟨(keys[i], i), List.mem_filter.2 ⟨hentry, ?_⟩, rfl⟩
  rw [Bool.or_eq_true, beq_iff_eq]
  exact hsame.imp (fun heq => (congrArg Prod.snd heq).symm) id

section Keys

variable {keys : List (List Value)} (hkeys : forall key, key ∈ keys -> DiscreteKey key)

include hkeys

theorem distinctKeys_spec :
    AreDistinct (distinctKeys keys) ∧
      forall key, key ∈ keys -> exists found, found ∈ distinctKeys keys ∧
        standardKey key = standardKey found.1 := by
  have hentries : forall entry, entry ∈ keys.zipIdx -> DiscreteKey entry.1 := by
    intro entry hentry
    exact hkeys entry.1 (List.fst_mem_of_mem_zipIdx hentry)
  have hnil : AreDistinct [] := by
    constructor
    · intro entry hentry
      cases hentry
    · exact List.Pairwise.nil
  refine ⟨hnil.foldl hentries, ?_⟩
  intro key hkey
  rcases List.mem_iff_getElem.1 hkey with ⟨i, hi, rfl⟩
  have hentry : (keys[i], i) ∈ keys.zipIdx :=
    List.mk_mem_zipIdx_iff_getElem?.2 (List.getElem?_eq_getElem hi)
  rcases exists_noted [] hentry with ⟨found, hfound, rfl | hsame⟩
  · exact ⟨_, hfound, rfl⟩
  · refine ⟨found, hfound, ((sameAll_iff ?_ (hkeys _ hkey)).1 hsame).symm⟩
    exact (hnil.foldl hentries).discrete found hfound

/-!
# Positions of a key
-/

theorem mem_positionsOf_iff {entry : List Value × Nat} (hentry : entry ∈ keys.zipIdx) {i : Nat} :
    i ∈ positionsOf entry.1 entry.2 keys <->
      exists key, keys[i]? = some key ∧ standardKey entry.1 = standardKey key := by
  have hdiscrete := hkeys entry.1 (List.fst_mem_of_mem_zipIdx hentry)
  have hown : keys[entry.2]? = some entry.1 := List.mk_mem_zipIdx_iff_getElem?.1 hentry
  unfold positionsOf
  rw [List.mem_map]
  constructor
  · rintro ⟨⟨key, j⟩, hmem, rfl⟩
    rcases List.mem_filter.1 hmem with ⟨hmem, htest⟩
    have hkey : keys[j]? = some key := List.mk_mem_zipIdx_iff_getElem?.1 hmem
    refine ⟨key, hkey, ?_⟩
    rcases Bool.or_eq_true_iff.1 htest with hpos | hsame
    · have hj : j = entry.2 := beq_iff_eq.1 hpos
      rw [hj, hown] at hkey
      rw [Option.some.inj hkey]
    · exact (sameAll_iff hdiscrete (hkeys key (List.mem_of_getElem? hkey))).1 hsame
  · rintro ⟨key, hkey, hsame⟩
    refine ⟨(key, i), ?_, rfl⟩
    rw [List.mem_filter]
    refine ⟨List.mk_mem_zipIdx_iff_getElem?.2 hkey, ?_⟩
    rw [Bool.or_eq_true]
    exact Or.inr ((sameAll_iff hdiscrete (hkeys key (List.mem_of_getElem? hkey))).2 hsame)

omit hkeys in
theorem positionsOf_sublist (key : List Value) (position : Nat) :
    (positionsOf key position keys).Sublist (List.range keys.length) := by
  have h : keys.zipIdx.map Prod.snd = List.range keys.length := by
    rw [List.zipIdx_map_snd, List.range_eq_range']
  rw [← h]
  exact List.filter_sublist.map Prod.snd

theorem groupsOf_cover :
    ((groupsOf keys).flatMap Partition.rows).Perm (List.range keys.length) := by
  rcases distinctKeys_spec hkeys with ⟨hdistinct, hfound⟩
  have hnodup : ((groupsOf keys).flatMap Partition.rows).Nodup := by
    rw [List.nodup_flatMap]
    constructor
    · intro group hgroup
      rcases List.mem_map.1 hgroup with ⟨entry, _, rfl⟩
      exact (positionsOf_sublist entry.1 entry.2).nodup List.nodup_range
    · unfold groupsOf
      rw [List.pairwise_map]
      apply hdistinct.apart.imp_of_mem
      intro a b ha hb hne i hia hib
      rcases (mem_positionsOf_iff hkeys (mem_distinctKeys ha)).1 hia with ⟨key, hkey, hsame⟩
      rcases (mem_positionsOf_iff hkeys (mem_distinctKeys hb)).1 hib with ⟨other, hother, hsame'⟩
      rw [hkey] at hother
      cases hother
      exact hne (hsame.trans hsame'.symm)
  rw [List.perm_ext_iff_of_nodup hnodup List.nodup_range]
  intro i
  rw [List.mem_flatMap, List.mem_range]
  constructor
  · rintro ⟨group, hgroup, hi⟩
    rcases List.mem_map.1 hgroup with ⟨entry, _, rfl⟩
    exact List.mem_range.1 ((positionsOf_sublist entry.1 entry.2).subset hi)
  · intro hi
    rcases hfound keys[i] (List.getElem_mem hi) with ⟨found, hmem, hsame⟩
    refine ⟨_, List.mem_map_of_mem hmem, ?_⟩
    exact (mem_positionsOf_iff hkeys (mem_distinctKeys hmem)).2
      ⟨keys[i], List.getElem?_eq_getElem hi, hsame.symm⟩

end Keys

/-!
# Division of datasets
-/

/-- The groups of a dataset: every row is in one of them, after the rows of its group that come
before it, and has the key of its group. -/
structure DividesInto (data : Dataset) (groups : List Partition) : Prop where
  partitions : data.partitions = .ok groups
  cover : (groups.flatMap Partition.rows).Perm (List.range data.nrows)
  ascending : forall group, group ∈ groups -> group.rows.Pairwise (· < ·)
  alike : forall group, group ∈ groups -> forall i, i ∈ group.rows <->
    exists row, data.rows[i]? = some row ∧ Value.sameAll group.key (data.keyOf row) = true

theorem KeysAre.mono {test more : Value -> Bool} {data : Dataset} (h : data.KeysAre test)
    (htest : forall value, test value = true -> more value = true) : data.KeysAre more :=
  ⟨h.present, fun key hkey row hrow => htest _ (h.cells key hkey row hrow)⟩

theorem discreteKey_keyOf {data : Dataset} (h : data.KeysAre Value.isDiscrete) {row : List Value}
    (hrow : row ∈ data.rows) : DiscreteKey (data.keyOf row) := by
  intro value hvalue
  rcases List.mem_map.1 hvalue with ⟨i, hi, rfl⟩
  rcases List.mem_map.1 hi with ⟨key, hkey, rfl⟩
  exact h.cells key hkey row hrow

theorem isOrdered_rank {group : Partition} (h : DiscreteKey group.key) :
    group.rank.isOrdered = true := by
  show Value.areOrdered (group.key.map Value.rank) = true
  apply Value.areOrdered_of_forall
  intro value hvalue
  rcases List.mem_map.1 hvalue with ⟨cell, hcell, rfl⟩
  exact Value.isOrdered_rank (h cell hcell)

theorem ascending_of_sublist_range {rows : List Nat} {n : Nat}
    (h : rows.Sublist (List.range n)) : rows.Pairwise (· < ·) :=
  List.Pairwise.sublist h List.pairwise_lt_range

theorem dividesInto_of_flat {data : Dataset} (h : data.groups = []) :
    data.DividesInto [{ key := [], rows := List.range data.nrows }] := by
  constructor
  · exact partitions_of_flat data h
  · simp
  · intro group hgroup
    rw [List.mem_singleton.1 hgroup]
    exact List.pairwise_lt_range
  · intro group hgroup i
    have hkey : forall row, data.keyOf row = [] := by
      intro row
      simp [keyOf, keyIndices, h, cellsAt]
    rw [List.mem_singleton.1 hgroup, List.mem_range]
    constructor
    · intro hi
      exact ⟨data.rows[i], List.getElem?_eq_getElem hi, by simp [hkey, Value.sameAll]⟩
    · rintro ⟨row, hrow, _⟩
      exact (List.getElem?_eq_some_iff.1 hrow).1

theorem dividesInto_of_perm {data : Dataset} (h : data.KeysAre Value.isDiscrete)
    {groups : List Partition} (hpartitions : data.partitions = .ok groups)
    (hperm : groups.Perm (groupsOf (data.rows.map data.keyOf))) : data.DividesInto groups := by
  have hkeys : forall key, key ∈ data.rows.map data.keyOf -> DiscreteKey key := by
    intro key hkey
    rcases List.mem_map.1 hkey with ⟨row, hrow, rfl⟩
    exact discreteKey_keyOf h hrow
  constructor
  · exact hpartitions
  · have hcover := (hperm.flatMap_right Partition.rows).trans (groupsOf_cover hkeys)
    rwa [List.length_map] at hcover
  · intro group hgroup
    rcases List.mem_map.1 (hperm.mem_iff.1 hgroup) with ⟨entry, _, rfl⟩
    exact ascending_of_sublist_range (positionsOf_sublist entry.1 entry.2)
  · intro group hgroup i
    rcases List.mem_map.1 (hperm.mem_iff.1 hgroup) with ⟨entry, hentry, rfl⟩
    have hmem := mem_distinctKeys hentry
    have hdiscrete := hkeys entry.1 (List.fst_mem_of_mem_zipIdx hmem)
    rw [mem_positionsOf_iff hkeys hmem]
    constructor
    · rintro ⟨key, hkey, hsame⟩
      rw [List.getElem?_map, Option.map_eq_some_iff] at hkey
      rcases hkey with ⟨row, hrow, rfl⟩
      refine ⟨row, hrow, ?_⟩
      exact (sameAll_iff hdiscrete (discreteKey_keyOf h (List.mem_of_getElem? hrow))).2 hsame
    · rintro ⟨row, hrow, hsame⟩
      refine ⟨data.keyOf row, by rw [List.getElem?_map, hrow]; rfl, ?_⟩
      exact (sameAll_iff hdiscrete (discreteKey_keyOf h (List.mem_of_getElem? hrow))).1 hsame

theorem perm_of_partitions {data : Dataset} (hgrouped : data.isGrouped = true)
    {groups : List Partition} (hgroups : data.partitions = .ok groups) :
    exists keys, data.rowKeys = .ok keys ∧ groups.Perm (groupsOf keys) := by
  rw [partitions, if_pos hgrouped] at hgroups
  cases hkeys : data.rowKeys with
  | error f =>
      rw [hkeys] at hgroups
      cases hgroups
  | ok keys =>
      rw [hkeys] at hgroups
      exact ⟨keys, rfl, Value.sortOn_perm hgroups⟩

theorem exists_group {data : Dataset} {groups : List Partition}
    (hgroups : data.partitions = .ok groups) {i : Nat} (hi : i < data.nrows) :
    exists group, group ∈ groups ∧ i ∈ group.rows := by
  cases hgrouped : data.isGrouped with
  | true =>
      rcases perm_of_partitions hgrouped hgroups with ⟨keys, hkeys, hperm⟩
      have hlength : keys.length = data.nrows := length_of_mapM_eq_ok hkeys
      rcases exists_group_of_lt (hlength.symm ▸ hi) with ⟨group, hgroup, hrow⟩
      exact ⟨group, hperm.mem_iff.2 hgroup, hrow⟩
  | false =>
      rw [partitions, hgrouped] at hgroups
      cases hgroups
      exact ⟨_, List.mem_singleton.2 rfl, List.mem_range.2 hi⟩

theorem partitions_perm {data : Dataset} (hwidth : data.HasWidth)
    (h : data.KeysAre Value.isDiscrete) (hgrouped : data.isGrouped = true)
    {groups : List Partition} (hgroups : data.partitions = .ok groups) :
    groups.Perm (groupsOf (data.rows.map data.keyOf)) := by
  rcases perm_of_partitions hgrouped hgroups with ⟨keys, hkeys, hperm⟩
  rw [rowKeys_eq hwidth (h.mono fun _ => Value.isPlain_of_isDiscrete)] at hkeys
  cases hkeys
  exact hperm

theorem exists_dividesInto {data : Dataset} (hwidth : data.HasWidth)
    (h : data.KeysAre Value.isDiscrete) : exists groups, data.DividesInto groups := by
  rcases exists_partitions hwidth (h.mono fun _ => Value.isPlain_of_isDiscrete) with
    ⟨groups, hgroups⟩
  cases hg : data.groups with
  | nil => exact ⟨_, dividesInto_of_flat hg⟩
  | cons key rest =>
      have hgrouped : data.isGrouped = true := by
        rw [isGrouped, hg]
        rfl
      exact ⟨groups, dividesInto_of_perm h hgroups (partitions_perm hwidth h hgrouped hgroups)⟩

end Dataset

/-!
# Order of groups

The groups of a dataset with discrete keys come in ascending order of the keys,
which are compared cell by cell, and no two groups have the same key.
-/

/-- The places of the cells of a group's key. -/
def Partition.place (group : Partition) : List (Int ×ₗ Int ×ₗ String) :=
  group.key.map Value.place

namespace Dataset

variable {data : Dataset} {groups : List Partition}

theorem comparesPlaces_rank :
    ComparesPlaces (fun group : Partition => DiscreteKey group.key) Partition.place
      (fun a b => Value.lessThan a.rank b.rank) := by
  intro a b ha hb
  show Value.compareWith .less (.tuple (a.key.map Value.rank)) (.tuple (b.key.map Value.rank)) = _
  rw [Value.compareWith, Value.compareItems_ranks_eq ha hb]
  congr

theorem map_place_eq_iff {key other : List Value} (hkey : DiscreteKey key)
    (hother : DiscreteKey other) :
    key.map Value.place = other.map Value.place <-> standardKey key = standardKey other := by
  induction key generalizing other with
  | nil => cases other <;> simp [standardKey]
  | cons value rest ih =>
      cases other with
      | nil => simp [standardKey]
      | cons value' rest' =>
          have hhead := Value.place_eq_iff (hkey value (List.mem_cons_self ..))
            (hother value' (List.mem_cons_self ..))
          have htail := ih (fun x hx => hkey x (List.mem_cons_of_mem _ hx))
            (fun x hx => hother x (List.mem_cons_of_mem _ hx))
          rw [List.map_cons, List.map_cons, List.cons.injEq, hhead, htail]
          simp [standardKey]

theorem exists_keyOf (hwidth : data.HasWidth) (h : data.KeysAre Value.isDiscrete)
    (hgrouped : data.isGrouped = true) (hgroups : data.partitions = .ok groups)
    {group : Partition} (hgroup : group ∈ groups) :
    exists row, row ∈ data.rows ∧ data.keyOf row = group.key := by
  have hmem := (partitions_perm hwidth h hgrouped hgroups).mem_iff.1 hgroup
  exact List.mem_map.1 (key_mem_of_mem_groupsOf hmem)

theorem groupsOf_apart {keys : List (List Value)}
    (hkeys : forall key, key ∈ keys -> DiscreteKey key) :
    (groupsOf keys).Pairwise fun a b => a.place ≠ b.place := by
  have hdistinct := (distinctKeys_spec hkeys).1
  unfold groupsOf
  rw [List.pairwise_map]
  apply hdistinct.apart.imp_of_mem
  intro a b ha hb hne hplace
  exact hne ((map_place_eq_iff (hdistinct.discrete a ha) (hdistinct.discrete b hb)).1 hplace)

theorem partitions_ascending (hwidth : data.HasWidth) (h : data.KeysAre Value.isDiscrete)
    (hgroups : data.partitions = .ok groups) :
    groups.Pairwise fun a b => a.place < b.place := by
  cases hg : data.groups with
  | nil =>
      rw [partitions_of_flat data hg] at hgroups
      cases hgroups
      exact List.pairwise_singleton _ _
  | cons key rest =>
      have hgrouped : data.isGrouped = true := by
        rw [isGrouped, hg]
        rfl
      have hkeys : forall key, key ∈ data.rows.map data.keyOf -> DiscreteKey key := by
        intro key hkey
        rcases List.mem_map.1 hkey with ⟨row, hrow, rfl⟩
        exact discreteKey_keyOf h hrow
      have hperm := partitions_perm hwidth h hgrouped hgroups
      have hdiscrete : Kept (fun group : Partition => DiscreteKey group.key)
          (groupsOf (data.rows.map data.keyOf)) := by
        intro group hgroup
        exact hkeys group.key (key_mem_of_mem_groupsOf hgroup)
      have hapart : groups.Pairwise fun a b => a.place ≠ b.place :=
        (groupsOf_apart hkeys).perm hperm.symm Ne.symm
      have hsorted : IsAscending Partition.place groups := by
        rw [partitions, if_pos hgrouped,
          rowKeys_eq hwidth (h.mono fun _ => Value.isPlain_of_isDiscrete)] at hgroups
        exact Value.sortOn_isAscending comparesPlaces_rank
          (fun group hgroup => isOrdered_rank (hdiscrete group hgroup)) hdiscrete hgroups
      exact (hsorted.and hapart).imp fun hboth => lt_of_le_of_ne hboth.1 hboth.2

end Dataset
end Wrangle
