import Wrangle.Plan.Operation
import Wrangle.Proofs.Dataset.Grouping
import Wrangle.Proofs.Dataset.Parts
import Wrangle.Proofs.Outcome

/-!
# Splitting computations

A computation that goes through the groups of a dataset, and puts the values of
each one at the positions of its rows, gives for the rows of a group what it gives
for the dataset of these rows alone.
-/

namespace Wrangle
namespace Dataset

/-!
# Covers
-/

section Cover

variable {groups : List Partition} {nrows : Nat}
variable (hcover : (groups.flatMap Partition.rows).Perm (List.range nrows))

include hcover

theorem nodup_of_cover : (groups.flatMap Partition.rows).Nodup :=
  hcover.nodup_iff.2 List.nodup_range

theorem nodup_rows_of_cover {group : Partition} (hgroup : group ∈ groups) : group.rows.Nodup :=
  (List.nodup_flatMap.1 (nodup_of_cover hcover)).1 group hgroup

theorem lt_of_cover {group : Partition} (hgroup : group ∈ groups) {i : Nat} (hi : i ∈ group.rows) :
    i < nrows := by
  rw [← List.mem_range, ← hcover.mem_iff]
  exact List.mem_flatMap.2 ⟨group, hgroup, hi⟩

end Cover

/-!
# Values of groups
-/

section Values

variable {groups : List Partition} {values : Partition -> List Value}

def placed (groups : List Partition) (values : Partition -> List Value) : List (Nat × Value) :=
  groups.flatMap fun group => group.rows.zip (values group)

theorem placed_cons (group : Partition) (rest : List Partition) :
    placed (group :: rest) values = group.rows.zip (values group) ++ placed rest values := rfl

theorem lookup_zip_eq_none {keys : List Nat} {i : Nat} (h : i ∉ keys) (items : List Value) :
    (keys.zip items).lookup i = none := by
  rw [List.lookup_eq_none_iff]
  rintro ⟨key, item⟩ hentry
  have hne : i ≠ key := by
    rintro rfl
    exact h (List.of_mem_zip hentry).1
  simpa using hne

theorem exists_lookup_zip {keys : List Nat} {i : Nat} (h : i ∈ keys) :
    forall {items : List Value}, items.length = keys.length ->
      exists item, (keys.zip items).lookup i = some item := by
  induction keys with
  | nil => cases h
  | cons key rest ih =>
      intro items hlength
      cases items with
      | nil => cases hlength
      | cons item items =>
          rw [List.zip_cons_cons, List.lookup_cons]
          split
          · exact ⟨item, rfl⟩
          · rename_i hne
            have hi : i ∈ rest := by
              rcases List.mem_cons.1 h with rfl | hi
              · simp at hne
              · exact hi
            exact ih hi (Nat.succ.inj hlength)

theorem map_lookup_zip {keys : List Nat} (hnodup : keys.Nodup) :
    forall {items : List Value}, items.length = keys.length ->
      keys.map (fun i => ((keys.zip items).lookup i).getD .missing) = items := by
  induction keys with
  | nil =>
      intro items hlength
      rw [List.length_eq_zero_iff.1 hlength]
      rfl
  | cons key rest ih =>
      intro items hlength
      cases items with
      | nil => cases hlength
      | cons item items =>
          rw [List.nodup_cons] at hnodup
          have hrest : rest.map (fun i => (((key :: rest).zip (item :: items)).lookup i).getD
              .missing) = items := by
            rw [← ih hnodup.2 (Nat.succ.inj hlength)]
            apply List.map_congr_left
            intro i hi
            have hne : (i == key) = false := by
              rw [beq_eq_false_iff_ne]
              rintro rfl
              exact hnodup.1 hi
            rw [List.zip_cons_cons, List.lookup_cons, hne, ih hnodup.2 (Nat.succ.inj hlength)]
          rw [List.map_cons, hrest]
          simp

theorem lookup_placed {group : Partition} {i : Nat} (hi : i ∈ group.rows)
    (hnodup : (groups.flatMap Partition.rows).Nodup)
    (hlength : forall group, group ∈ groups -> (values group).length = group.size)
    (hgroup : group ∈ groups) :
    (placed groups values).lookup i = (group.rows.zip (values group)).lookup i := by
  induction groups with
  | nil => cases hgroup
  | cons first rest ih =>
      rw [List.flatMap_cons, List.nodup_append] at hnodup
      rw [placed_cons, List.lookup_append]
      rcases List.mem_cons.1 hgroup with rfl | hgroup
      · rcases exists_lookup_zip hi (hlength group (List.mem_cons_self ..)) with ⟨item, hitem⟩
        rw [hitem]
        rfl
      · have hnot : i ∉ first.rows := by
          intro hfirst
          exact hnodup.2.2 i hfirst i (List.mem_flatMap.2 ⟨group, hgroup, hi⟩) rfl
        rw [lookup_zip_eq_none hnot, Option.none_or]
        exact ih hnodup.2.1 (fun other hother =>
          hlength other (List.mem_cons_of_mem _ hother)) hgroup

theorem cellsAt_scattered {nrows : Nat}
    (hcover : (groups.flatMap Partition.rows).Perm (List.range nrows))
    (hlength : forall group, group ∈ groups -> (values group).length = group.size)
    {group : Partition} (hgroup : group ∈ groups) :
    cellsAt group.rows (scattered nrows (placed groups values)) = values group := by
  rw [← map_lookup_zip (nodup_rows_of_cover hcover hgroup) (hlength group hgroup)]
  unfold cellsAt
  apply List.map_congr_left
  intro i hi
  rw [← lookup_placed hi (nodup_of_cover hcover) hlength hgroup, cellAt, scattered,
    List.getElem?_map, List.getElem?_range (lt_of_cover hcover hgroup hi)]
  rfl

end Values

/-!
# Combined outcomes
-/

/-- An outcome for a whole dataset that combines the outcomes for its groups: it succeeds just when
all of them do, and then the result and what was found for the groups belong together. -/
structure Combines (groups : List Partition) (good : Dataset -> (Partition -> Dataset) -> Prop)
    (whole : Outcome Dataset) (parts : Partition -> Outcome Dataset) : Prop where
  succeeds : (forall group, group ∈ groups -> exists part, parts group = .ok part) ->
    exists result, whole = .ok result
  agrees : forall result, whole = .ok result -> exists found, good result found ∧
    forall group, group ∈ groups -> parts group = .ok (found group)

section Combines

variable {groups : List Partition} {good better : Dataset -> (Partition -> Dataset) -> Prop}
variable {whole : Outcome Dataset} {parts : Partition -> Outcome Dataset}

theorem Combines.iff (h : Combines groups good whole parts) :
    (exists result, whole = .ok result) <->
      forall group, group ∈ groups -> exists part, parts group = .ok part := by
  constructor
  · rintro ⟨result, hresult⟩ group hgroup
    rcases h.agrees result hresult with ⟨found, _, hfound⟩
    exact ⟨found group, hfound group hgroup⟩
  · exact h.succeeds

theorem Combines.pure {result : Dataset} {found : Partition -> Dataset} (h : good result found) :
    Combines groups good (.ok result) fun group => .ok (found group) := by
  constructor
  · intro _
    exact ⟨result, rfl⟩
  · intro other hother
    cases hother
    exact ⟨found, h, fun _ _ => rfl⟩

theorem Combines.congr {others : Partition -> Outcome Dataset}
    (h : Combines groups good whole parts)
    (heq : forall group, group ∈ groups -> others group = parts group) :
    Combines groups good whole others := by
  constructor
  · intro hothers
    apply h.succeeds
    intro group hgroup
    rw [← heq group hgroup]
    exact hothers group hgroup
  · intro result hresult
    rcases h.agrees result hresult with ⟨found, hgood, hfound⟩
    refine ⟨found, hgood, ?_⟩
    intro group hgroup
    rw [heq group hgroup]
    exact hfound group hgroup

theorem Combines.refine (h : Combines groups good whole parts)
    (hbetter : forall result found, whole = .ok result -> good result found ->
      better result found) : Combines groups better whole parts := by
  constructor
  · exact h.succeeds
  · intro result hresult
    rcases h.agrees result hresult with ⟨found, hgood, hfound⟩
    exact ⟨found, hbetter result found hresult hgood, hfound⟩

theorem Combines.bind {next : Dataset -> Outcome Dataset} (h : Combines groups good whole parts)
    (hnext : forall data found, good data found ->
      Combines groups better (next data) fun group => next (found group)) :
    Combines groups better (whole >>= next) fun group => parts group >>= next := by
  constructor
  · intro hparts
    have hfirst : forall group, group ∈ groups -> exists part, parts group = .ok part := by
      intro group hgroup
      rcases hparts group hgroup with ⟨part, hpart⟩
      rcases bind_eq_ok_iff.1 hpart with ⟨between, hbetween, _⟩
      exact ⟨between, hbetween⟩
    rcases h.succeeds hfirst with ⟨data, hdata⟩
    rcases h.agrees data hdata with ⟨found, hgood, hfound⟩
    rw [hdata, ok_bind]
    apply (hnext data found hgood).succeeds
    intro group hgroup
    rcases hparts group hgroup with ⟨part, hpart⟩
    rw [hfound group hgroup, ok_bind] at hpart
    exact ⟨part, hpart⟩
  · intro result hresult
    rcases bind_eq_ok_iff.1 hresult with ⟨data, hdata, hresult⟩
    rcases h.agrees data hdata with ⟨found, hgood, hfound⟩
    rcases (hnext data found hgood).agrees result hresult with ⟨others, hbetter, hothers⟩
    refine ⟨others, hbetter, ?_⟩
    intro group hgroup
    rw [hfound group hgroup, ok_bind]
    exact hothers group hgroup

end Combines

/-!
# Columns by groups
-/

/-- A dataset that can be split into some groups by some keys. -/
structure Splits (groups : List Partition) (keyNames : List String) (data : Dataset) : Prop where
  names : data.groups = keyNames
  nodup : data.header.Nodup
  width : data.HasWidth
  keys : data.KeysAre Value.isDiscrete
  partitions : data.partitions = .ok groups
  cover : (groups.flatMap Partition.rows).Perm (List.range data.nrows)

def SplitsInto (groups : List Partition) (keyNames : List String) (data : Dataset)
    (found : Partition -> Dataset) : Prop :=
  data.Splits groups keyNames ∧ found = fun group => data.part group.rows

section Splits

variable {callers : CallerFunctions} {groups : List Partition} {keyNames : List String}
variable {data : Dataset}

theorem Splits.hasRows (h : data.Splits groups keyNames) {group : Partition} (hgroup : group ∈ groups) :
    data.HasRows group.rows :=
  fun _ hi => lt_of_cover h.cover hgroup hi

theorem Splits.nodup_rows (h : data.Splits groups keyNames) {group : Partition}
    (hgroup : group ∈ groups) : group.rows.Nodup :=
  nodup_rows_of_cover h.cover hgroup

theorem Splits.setColumn (h : data.Splits groups keyNames) {name : String} (hname : name ∉ keyNames)
    {values : List Value} (hvalues : values.length = data.nrows) :
    (data.setColumn name values).Splits groups keyNames := by
  rw [← h.names] at hname
  have hwidth := setColumn_hasWidth h.width name values
  have hkeys := h.keys.setColumn h.width hname values
  have hrowKeys := rowKeys_setColumn (h.keys.mono fun _ => Value.isPlain_of_isDiscrete) h.width
    hname hvalues
  constructor
  · rw [setColumn_groups, h.names]
  · rw [setColumn_header]
    exact headerWith_nodup h.nodup name
  · exact hwidth
  · exact hkeys
  · rw [← h.partitions]
    unfold Dataset.partitions isGrouped
    rw [hrowKeys, setColumn_groups, setColumn_nrows data name values hvalues]
  · rw [setColumn_nrows data name values hvalues]
    exact h.cover

theorem Splits.combines_setColumn (h : data.Splits groups keyNames) {name : String}
    (hname : name ∉ keyNames) {values : Partition -> List Value}
    (hvalues : forall group, group ∈ groups -> (values group).length = group.size) :
    Combines groups (SplitsInto groups keyNames)
      (.ok (data.setColumn name (scattered data.nrows (placed groups values))))
      fun group => .ok ((data.part group.rows).setColumn name (values group)) := by
  have hlength := scattered_length data.nrows (placed groups values)
  apply Combines.congr (Combines.pure ⟨h.setColumn hname hlength, rfl⟩)
  intro group hgroup
  rw [setColumn_part (h.hasRows hgroup) name hlength,
    cellsAt_scattered h.cover hvalues hgroup]

theorem scattered_whole {values : Partition -> List Value} {n : Nat}
    (hvalues : (values (Partition.whole n)).length = n) :
    scattered n (placed [Partition.whole n] values) = values (Partition.whole n) := by
  have hcover : ([Partition.whole n].flatMap Partition.rows).Perm (List.range n) := by
    simp
  have hlength : forall group, group ∈ [Partition.whole n] ->
      (values group).length = group.size := by
    intro group hgroup
    rw [List.mem_singleton.1 hgroup, hvalues, Partition.whole_size]
  have hcells := cellsAt_scattered hcover hlength (List.mem_singleton.2 rfl)
  rwa [Partition.whole_rows, cellsAt_range (scattered_length n _)] at hcells

/-- Add a column whose values for a group depend on the size of the group only. -/
def withColumn (name : String) (values : Partition -> List Value) (data : Dataset) :
    Outcome Dataset := do
  let groups <- Outcome.ofFault data.partitions
  .ok (data.setColumn name (scattered data.nrows (placed groups values)))

theorem Splits.combines_withColumn (h : data.Splits groups keyNames) {name : String}
    (hname : name ∉ keyNames) {values : Nat -> List Value}
    (hvalues : forall size, (values size).length = size) :
    Combines groups (SplitsInto groups keyNames)
      (data.withColumn name fun group => values group.size)
      fun group => (data.part group.rows).withColumn name fun group => values group.size := by
  have hwhole : data.withColumn name (fun group => values group.size) =
      .ok (data.setColumn name (scattered data.nrows
        (placed groups fun group => values group.size))) := by
    rw [withColumn, h.partitions]
    rfl
  rw [hwhole]
  apply (h.combines_setColumn hname fun group _ => hvalues group.size).congr
  intro group hgroup
  have hrows := h.hasRows hgroup
  have hsize : (values (Partition.whole group.size).size).length = group.size := by
    rw [Partition.whole_size, hvalues]
  rw [withColumn, part_partitions hrows, part_nrows hrows]
  show Except.ok ((data.part group.rows).setColumn name (scattered group.size
    (placed [Partition.whole group.size] fun group => values group.size))) = _
  rw [scattered_whole hsize, Partition.whole_size]

/-!
# Row counts
-/

theorem zip_replicate (rows : List Nat) (value : Value) :
    rows.zip (List.replicate rows.length value) = rows.map fun i => (i, value) := by
  induction rows with
  | nil => rfl
  | cons i rest ih =>
      rw [List.length_cons, List.replicate_succ, List.zip_cons_cons, ih, List.map_cons]

theorem groupSizes_eq (groups : List Partition) (nrows : Nat) :
    groupSizes groups nrows = scattered nrows (placed groups fun group =>
      List.replicate group.size (.int (Int.ofNat group.size))) := by
  unfold groupSizes placed Partition.size
  simp only [zip_replicate]

theorem rowNumbers_eq (groups : List Partition) (nrows : Nat) :
    rowNumbers groups nrows = scattered nrows (placed groups fun group =>
      (List.range group.size).map fun i => .int (Int.ofNat (i + 1))) := by
  unfold rowNumbers placed Partition.size
  simp only [List.zipIdx_eq_zip_range', List.range_eq_range', List.zip_map_right]
  rfl

theorem Splits.combines_addRowCount (h : data.Splits groups keyNames) {name : String}
    (hname : name ∉ keyNames) :
    Combines groups (SplitsInto groups keyNames)
      (Operation.apply callers data (.addRowCount name))
      fun group => Operation.apply callers (data.part group.rows) (.addRowCount name) := by
  have happly : forall table : Dataset, Operation.apply callers table (.addRowCount name) =
      table.withColumn name fun group =>
        List.replicate group.size (.int (Int.ofNat group.size)) := by
    intro table
    rw [Operation.apply, withColumn]
    simp only [groupSizes_eq]
  have hlength : forall size : Nat,
      (List.replicate size (Value.int (Int.ofNat size))).length = size :=
    fun _ => List.length_replicate
  simp only [happly]
  exact h.combines_withColumn hname hlength

theorem Splits.combines_addRowNumber (h : data.Splits groups keyNames) {name : String}
    (hname : name ∉ keyNames) :
    Combines groups (SplitsInto groups keyNames)
      (Operation.apply callers data (.addRowNumber name))
      fun group => Operation.apply callers (data.part group.rows) (.addRowNumber name) := by
  have happly : forall table : Dataset, Operation.apply callers table (.addRowNumber name) =
      table.withColumn name fun group =>
        (List.range group.size).map fun i => .int (Int.ofNat (i + 1)) := by
    intro table
    rw [Operation.apply, withColumn]
    simp only [rowNumbers_eq]
  have hlength : forall size : Nat,
      ((List.range size).map fun i => Value.int (Int.ofNat (i + 1))).length = size := by
    intro size
    rw [List.length_map, List.length_range]
  simp only [happly]
  exact h.combines_withColumn hname hlength

/-!
# Assignments
-/

theorem groupValues_length {columns : List (String × List Value)} {assign : Assign}
    {rows : List Nat} {values : List Value}
    (h : groupValues callers columns assign rows = .ok values) : values.length = rows.length := by
  rcases bind_eq_ok_iff.1 (inFragment_eq_ok_iff.1 h) with ⟨value, _, hspread⟩
  unfold spread at hspread
  split at hspread
  · split at hspread
    · cases hspread
      assumption
    · cases hspread
  · cases hspread
    exact List.length_replicate

def valuesFor (callers : CallerFunctions) (columns : List (String × List Value))
    (assign : Assign) (group : Partition) : List Value :=
  (groupValues callers columns assign group.rows).toOption.getD []

theorem valuesFor_eq {columns : List (String × List Value)} {assign : Assign} {group : Partition}
    {values : List Value} (h : groupValues callers columns assign group.rows = .ok values) :
    valuesFor callers columns assign group = values := by
  rw [valuesFor, h]
  rfl

theorem placedValues_eq_ok {columns : List (String × List Value)} {assign : Assign}
    (h : forall group, group ∈ groups ->
      exists values, groupValues callers columns assign group.rows = .ok values) :
    placedValues callers columns assign groups =
      .ok (placed groups (valuesFor callers columns assign)) := by
  induction groups with
  | nil => rfl
  | cons group rest ih =>
      rcases h group (List.mem_cons_self ..) with ⟨values, hvalues⟩
      rw [placedValues, hvalues, ok_bind,
        ih fun other hother => h other (List.mem_cons_of_mem _ hother), ok_bind,
        placed_cons, valuesFor_eq hvalues]

theorem exists_groupValues {columns : List (String × List Value)} {assign : Assign}
    {found : List (Nat × Value)} (h : placedValues callers columns assign groups = .ok found)
    {group : Partition} (hgroup : group ∈ groups) :
    exists values, groupValues callers columns assign group.rows = .ok values := by
  induction groups generalizing found with
  | nil => cases hgroup
  | cons first rest ih =>
      rcases bind_eq_ok_iff.1 h with ⟨values, hvalues, hothers⟩
      rcases bind_eq_ok_iff.1 hothers with ⟨others, hothers, _⟩
      rcases List.mem_cons.1 hgroup with rfl | hgroup
      · exact ⟨values, hvalues⟩
      · exact ih hothers hgroup

theorem computed_part (hnodup : data.header.Nodup) (hwidth : data.HasWidth) {rows : List Nat}
    (hrows : data.HasRows rows) (assign : Assign) :
    (data.part rows).computed callers assign =
      groupValues callers data.columns assign rows := by
  have hvalues := groupValues_part callers hnodup hwidth hrows assign
  unfold computed
  rw [part_partitions hrows, part_nrows hrows]
  cases hfound : groupValues callers data.columns assign rows with
  | error failure =>
      rw [hfound] at hvalues
      show (placedValues callers _ assign [Partition.whole rows.length] >>= _) = _
      rw [placedValues, Partition.whole_rows, hvalues]
      rfl
  | ok values =>
      rw [hfound] at hvalues
      have hwhole : valuesFor callers (data.part rows).columns assign
          (Partition.whole rows.length) = values := valuesFor_eq hvalues
      have hlength := groupValues_length hfound
      show (placedValues callers _ assign [Partition.whole rows.length] >>= _) = _
      rw [placedValues_eq_ok, ok_bind, scattered_whole, hwhole]
      · rw [hwhole, hlength]
      · intro other hother
        rw [List.mem_singleton.1 hother]
        exact ⟨values, hvalues⟩

def assigned (callers : CallerFunctions) (assign : Assign) (data : Dataset) : Outcome Dataset := do
  let values <- data.computed callers assign
  .ok (data.setColumn assign.name values)

theorem transform_cons (assign : Assign) (rest : List Assign) (data : Dataset) :
    transform callers (assign :: rest) data =
      data.assigned callers assign >>= transform callers rest := by
  rw [transform, assigned]
  cases data.computed callers assign with
  | error failure => rfl
  | ok values => rfl

theorem Splits.combines_assigned (h : data.Splits groups keyNames) {assign : Assign}
    (hname : assign.name ∉ keyNames) :
    Combines groups (SplitsInto groups keyNames)
      (data.assigned callers assign)
      fun group => (data.part group.rows).assigned callers assign := by
  have hwhole : data.assigned callers assign =
      placedValues callers data.columns assign groups >>= fun found =>
        .ok (data.setColumn assign.name (scattered data.nrows found)) := by
    rw [assigned, computed, h.partitions]
    show (placedValues callers data.columns assign groups >>= _) >>= _ = _
    cases placedValues callers data.columns assign groups with
    | error failure => rfl
    | ok found => rfl
  have hpart : forall group, group ∈ groups -> (data.part group.rows).assigned callers assign =
      groupValues callers data.columns assign group.rows >>= fun values =>
        .ok ((data.part group.rows).setColumn assign.name values) := by
    intro group hgroup
    rw [assigned, computed_part h.nodup h.width (h.hasRows hgroup)]
  have hset : (forall group, group ∈ groups ->
      exists values, groupValues callers data.columns assign group.rows = .ok values) ->
      Combines groups (SplitsInto groups keyNames)
        (.ok (data.setColumn assign.name (scattered data.nrows
          (placed groups (valuesFor callers data.columns assign)))))
        fun group => (data.part group.rows).assigned callers assign := by
    intro hvalues
    apply (h.combines_setColumn hname fun group hgroup => ?_).congr
    · intro group hgroup
      rcases hvalues group hgroup with ⟨values, hfound⟩
      rw [hpart group hgroup, hfound, ok_bind, valuesFor_eq hfound]
    · rcases hvalues group hgroup with ⟨values, hfound⟩
      rw [valuesFor_eq hfound]
      exact groupValues_length hfound
  rw [hwhole]
  constructor
  · intro hparts
    have hvalues : forall group, group ∈ groups ->
        exists values, groupValues callers data.columns assign group.rows = .ok values := by
      intro group hgroup
      rcases hparts group hgroup with ⟨part, hfound⟩
      rw [hpart group hgroup] at hfound
      rcases bind_eq_ok_iff.1 hfound with ⟨values, hfound, _⟩
      exact ⟨values, hfound⟩
    rw [placedValues_eq_ok hvalues]
    exact ⟨_, rfl⟩
  · intro result hresult
    rcases bind_eq_ok_iff.1 hresult with ⟨found, hfound, hresult⟩
    have hvalues : forall group, group ∈ groups ->
        exists values, groupValues callers data.columns assign group.rows = .ok values :=
      fun _ hgroup => exists_groupValues hfound hgroup
    rw [placedValues_eq_ok hvalues] at hfound
    cases hfound
    exact (hset hvalues).agrees result hresult

theorem Splits.combines_transform (h : data.Splits groups keyNames) {assigns : List Assign}
    (hnames : forall a, a ∈ assigns -> a.name ∉ keyNames) :
    Combines groups (SplitsInto groups keyNames) (transform callers assigns data)
      fun group => transform callers assigns (data.part group.rows) := by
  induction assigns generalizing data with
  | nil => exact Combines.pure ⟨h, rfl⟩
  | cons assign rest ih =>
      simp only [transform_cons]
      apply (h.combines_assigned (hnames assign (List.mem_cons_self ..))).bind
      rintro next found ⟨hnext, rfl⟩
      exact ih hnext fun a ha => hnames a (List.mem_cons_of_mem _ ha)

end Splits

end Dataset
end Wrangle
