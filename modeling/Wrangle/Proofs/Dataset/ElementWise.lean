import Wrangle.Proofs.Dataset.Filtering
import Wrangle.Proofs.Dataset.Lookup
import Wrangle.Proofs.Expr.ElementWise

/-!
# Element-wise computations

For some rows of a flat dataset element-wise expressions have the values that they have
for these rows in the whole dataset.  So neither the division into groups nor the other
conditions on the rows make a difference to them.
-/

namespace Wrangle
namespace Dataset

def AreElementWise (assigns : List Assign) : Prop :=
  forall a, a ∈ assigns -> a.expr.isElementWise = true

theorem AreElementWise.of_cons {a : Assign} {rest : List Assign} (h : AreElementWise (a :: rest)) :
    a.expr.isElementWise = true ∧ AreElementWise rest :=
  List.forall_mem_cons.1 h

/-- The dataset with other grouping columns. -/
def withGroups (keys : List String) (data : Dataset) : Dataset :=
  { data with groups := keys }

/-!
# Values of some rows
-/

section Rows

variable {callers : CallerFunctions} {data : Dataset} {rows : List Nat}

theorem cellsAt_replicate {n : Nat} (hrows : forall i, i ∈ rows -> i < n) (value : Value) :
    cellsAt rows (List.replicate n value) = List.replicate rows.length value := by
  rw [cellsAt, List.map_congr_left (g := fun _ => value), List.map_const']
  intro i hi
  simp [cellAt, hrows i hi]

theorem spread_onRows {n : Nat} {name : String} {value : Value} {values : List Value}
    (hfits : value.Fits n) (hrows : forall i, i ∈ rows -> i < n)
    (h : spread name n value = .ok values) :
    spread name rows.length (value.onRows rows) = .ok (cellsAt rows values) := by
  rcases hfits with ⟨items, rfl, hlength⟩ | hbare
  · rw [spread, if_pos hlength] at h
    cases h
    have hcells : (cellsAt rows values).length = rows.length := List.length_map ..
    rw [Value.onRows_column, spread, if_pos hcells]
  · have hsingle : forall size, spread name size value = .ok (List.replicate size value) := by
      intro size
      cases value with
      | column items => cases hbare
      | _ => rfl
    rw [hsingle] at h
    cases h
    rw [Value.onRows_bare hbare, hsingle, cellsAt_replicate hrows]

theorem someRows (hpure : callers.MakeNoColumns) (hnodup : data.header.Nodup)
    (hwidth : data.HasWidth) (hrows : data.HasRows rows) :
    Expr.SomeRows callers data.columns data.nrows rows where
  callers := hpure
  columns := by
    intro entry hentry
    rw [columns_eq hnodup hwidth] at hentry
    rcases List.mem_map.1 hentry with ⟨name, _, rfl⟩
    exact firstColumn_length name
  rows := hrows

theorem frame_range (hnodup : data.header.Nodup) (hwidth : data.HasWidth) :
    frame data.columns (List.range data.nrows) =
      { columns := data.columns, nrows := data.nrows } := by
  have hall : restricted data.columns (List.range data.nrows) = data.columns := by
    rw [restricted, List.map_congr_left (g := id), List.map_id]
    intro entry hentry
    rw [columns_eq hnodup hwidth] at hentry
    rcases List.mem_map.1 hentry with ⟨name, _, rfl⟩
    rw [cellsAt_range (firstColumn_length name)]
    rfl
  rw [frame, hall, List.length_range]

theorem groupValues_narrows (hpure : callers.MakeNoColumns) (hnodup : data.header.Nodup)
    (hwidth : data.HasWidth) (hrows : data.HasRows rows) {assign : Assign}
    (hwise : assign.expr.isElementWise = true) {values : List Value}
    (h : groupValues callers data.columns assign (List.range data.nrows) = .ok values) :
    groupValues callers data.columns assign rows = .ok (cellsAt rows values) := by
  rw [groupValues, inFragment_eq_ok_iff, frame_range hnodup hwidth, List.length_range] at h
  rcases bind_eq_ok_iff.1 h with ⟨value, hvalue, hspread⟩
  have hnarrow := Expr.evaluate_narrows (someRows hpure hnodup hwidth hrows) _ _ hwise hvalue
  rw [groupValues, inFragment_eq_ok_iff, hnarrow.onRows]
  exact spread_onRows hnarrow.fits hrows hspread

theorem part_range (hflat : data.groups = []) : data.part (List.range data.nrows) = data := by
  rw [part, rowsAt, nrows, filterMap_getElem?_range, flat, ← hflat]

theorem hasRows_range : data.HasRows (List.range data.nrows) :=
  fun _ hi => List.mem_range.1 hi

theorem computed_of_flat (hnodup : data.header.Nodup) (hwidth : data.HasWidth)
    (hflat : data.groups = []) (assign : Assign) :
    data.computed callers assign =
      groupValues callers data.columns assign (List.range data.nrows) := by
  rw [← computed_part hnodup hwidth hasRows_range, part_range hflat]

theorem subset_of_flat (hnodup : data.header.Nodup) (hwidth : data.HasWidth)
    (hflat : data.groups = []) (conditions : List Assign) :
    subset callers conditions data =
      (passingRows callers data.columns (List.range data.nrows) conditions).map data.part := by
  rw [← subset_part hnodup hwidth hasRows_range List.nodup_range, part_range hflat]

end Rows

/-!
# Values of groups
-/

section Groups

variable {callers : CallerFunctions} {data result : Dataset} {groups : List Partition}
variable {keys : List String}

theorem eq_of_cellsAt {n : Nat} (hcover : (groups.flatMap Partition.rows).Perm (List.range n))
    {values others : List Value} (hvalues : values.length = n) (hothers : others.length = n)
    (h : forall group, group ∈ groups -> cellsAt group.rows values = cellsAt group.rows others) :
    values = others := by
  apply List.ext_getElem (hvalues.trans hothers.symm)
  intro i hi hi'
  have hmem : i ∈ groups.flatMap Partition.rows := by
    rw [hcover.mem_iff, List.mem_range, ← hvalues]
    exact hi
  rcases List.mem_flatMap.1 hmem with ⟨group, hgroup, hrow⟩
  have hcells : cellAt i values = cellAt i others := List.map_inj_left.1 (h group hgroup) i hrow
  simpa [cellAt, hi, hi'] using hcells

theorem Splits.computed_withGroups (h : (data.withGroups keys).Splits groups keys)
    (hpure : callers.MakeNoColumns) (hflat : data.groups = []) {assign : Assign}
    (hwise : assign.expr.isElementWise = true) {values : List Value}
    (hvalues : data.computed callers assign = .ok values) :
    (data.withGroups keys).computed callers assign = .ok values := by
  have hnodup : data.header.Nodup := h.nodup
  have hwidth : data.HasWidth := h.width
  have hlength := computed_length hvalues
  rw [computed_of_flat hnodup hwidth hflat] at hvalues
  have hparts : forall group, group ∈ groups ->
      groupValues callers data.columns assign group.rows = .ok (cellsAt group.rows values) :=
    fun _ hgroup => groupValues_narrows hpure hnodup hwidth (h.hasRows hgroup) hwise hvalues
  have hsizes : forall group, group ∈ groups ->
      (valuesFor callers data.columns assign group).length = group.size := by
    intro group hgroup
    rw [valuesFor_eq (hparts group hgroup)]
    exact List.length_map ..
  have hplaced : placedValues callers data.columns assign groups =
      .ok (placed groups (valuesFor callers data.columns assign)) :=
    placedValues_eq_ok fun group hgroup => ⟨_, hparts group hgroup⟩
  have hwhole : scattered data.nrows (placed groups (valuesFor callers data.columns assign)) =
      values := by
    apply eq_of_cellsAt h.cover (scattered_length ..) hlength
    intro group hgroup
    rw [cellsAt_scattered h.cover hsizes hgroup, valuesFor_eq (hparts group hgroup)]
  rw [computed, h.partitions]
  show placedValues callers data.columns assign groups >>= _ = _
  rw [hplaced, ok_bind]
  exact congrArg Except.ok hwhole

theorem setColumn_withGroups (name : String) (values : List Value) :
    (data.withGroups keys).setColumn name values =
      (data.setColumn name values).withGroups keys := by
  rw [setColumn_eq, setColumn_eq]
  rfl

theorem Splits.transform_withGroups (h : (data.withGroups keys).Splits groups keys)
    (hpure : callers.MakeNoColumns) (hflat : data.groups = []) {assigns : List Assign}
    (hwise : AreElementWise assigns) (hnames : forall a, a ∈ assigns -> a.name ∉ keys)
    (hresult : transform callers assigns data = .ok result) :
    transform callers assigns (data.withGroups keys) = .ok (result.withGroups keys) := by
  induction assigns generalizing data with
  | nil =>
      cases hresult
      rfl
  | cons assign rest ih =>
      rcases hwise.of_cons with ⟨hfirst, hrest⟩
      rcases List.forall_mem_cons.1 hnames with ⟨hname, hothers⟩
      rcases bind_eq_ok_iff.1 hresult with ⟨values, hvalues, hresult⟩
      have hgrouped := h.computed_withGroups hpure hflat hfirst hvalues
      have hlength : values.length = data.nrows := computed_length hvalues
      have hnext := h.setColumn hname hlength
      rw [setColumn_withGroups] at hnext
      rw [transform, hgrouped, ok_bind, setColumn_withGroups]
      apply ih hnext _ hrest hothers hresult
      rw [setColumn_groups, hflat]

end Groups

/-!
# Conditions
-/

section Conditions

variable {callers : CallerFunctions} {data result : Dataset} {conditions : List Assign}

def passes (value : Value) : Bool :=
  value.asBool? == some true

theorem truthFlags_eq_ok_iff {condition : Assign} {values : List Value} {flags : List Bool} :
    truthFlags condition values = .ok flags <->
      (forall value, value ∈ values -> value.isTruthValue = true) ∧ flags = values.map passes := by
  induction values generalizing flags with
  | nil =>
      constructor
      · intro h
        cases h
        exact ⟨fun _ hvalue => (by cases hvalue), rfl⟩
      · rintro ⟨_, rfl⟩
        rfl
  | cons value rest ih =>
      rw [truthFlags, List.forall_mem_cons]
      split
      · rename_i htruth
        rw [map_eq_ok_iff]
        constructor
        · rintro ⟨others, hothers, rfl⟩
          rcases ih.1 hothers with ⟨hrest, rfl⟩
          exact ⟨⟨htruth, hrest⟩, rfl⟩
        · rintro ⟨⟨_, hrest⟩, rfl⟩
          exact ⟨_, ih.2 ⟨hrest, rfl⟩, rfl⟩
      · rename_i hnot
        constructor
        · intro h
          cases h
        · rintro ⟨⟨htruth, _⟩, _⟩
          exact absurd htruth hnot

theorem flagged_eq_filter (rows : List Nat) (test : Nat -> Bool) :
    ((rows.zip (rows.map test)).filter Prod.snd).map Prod.fst = rows.filter test := by
  induction rows with
  | nil => rfl
  | cons i rest ih =>
      rw [List.map_cons, List.zip_cons_cons, List.filter_cons, List.filter_cons, ← ih]
      split
      · rfl
      · rfl

theorem passingRows_narrows (hpure : callers.MakeNoColumns) (hnodup : data.header.Nodup)
    (hwidth : data.HasWidth) {rows : List Nat} (hrows : data.HasRows rows)
    (hwise : AreElementWise conditions) {kept : List Nat}
    (h : passingRows callers data.columns (List.range data.nrows) conditions = .ok kept) :
    passingRows callers data.columns rows conditions = .ok (rows.filter kept.contains) := by
  induction conditions generalizing kept with
  | nil =>
      cases h
      have hall : rows.filter (List.range data.nrows).contains = rows := by
        rw [List.filter_eq_self]
        intro i hi
        rw [List.contains_iff_mem]
        exact List.mem_range.2 (hrows i hi)
      rw [hall]
      rfl
  | cons condition rest ih =>
      rcases hwise.of_cons with ⟨hfirst, hrest⟩
      rcases bind_eq_ok_iff.1 h with ⟨values, hvalues, h⟩
      rcases bind_eq_ok_iff.1 h with ⟨flags, hflags, h⟩
      rcases bind_eq_ok_iff.1 h with ⟨others, hothers, h⟩
      cases h
      have hlength : values.length = data.nrows := by
        rw [groupValues_length hvalues, List.length_range]
      rcases truthFlags_eq_ok_iff.1 hflags with ⟨htruth, rfl⟩
      have hflags' : truthFlags condition (cellsAt rows values) =
          .ok (rows.map fun i => passes (cellAt i values)) := by
        rw [truthFlags_eq_ok_iff]
        constructor
        · intro value hvalue
          rcases List.mem_map.1 hvalue with ⟨i, hi, rfl⟩
          have hlt : i < values.length := by
            rw [hlength]
            exact hrows i hi
          exact htruth _ (List.mem_of_getElem? (cellAt_eq hlt))
        · show _ = (rows.map _).map passes
          rw [List.map_map]
          rfl
      have hall : values.map passes =
          (List.range data.nrows).map fun i => passes (cellAt i values) := by
        conv => lhs; rw [← cellsAt_range hlength]
        exact List.map_map ..
      rw [passingRows, groupValues_narrows hpure hnodup hwidth hrows hfirst hvalues, ok_bind,
        hflags', ok_bind, ih hrest hothers, ok_bind, hall, flagged_eq_filter, flagged_eq_filter]
      dsimp only
      rw [List.filter_filter]
      congr 1
      apply List.filter_congr
      intro i hi
      have hlt := hrows i hi
      rw [Bool.eq_iff_iff]
      simp [hi, hlt, and_comm]

theorem Splits.subset_withGroups {groups : List Partition} {keys : List String}
    (h : (data.withGroups keys).Splits groups keys) (hpure : callers.MakeNoColumns)
    (hflat : data.groups = []) (hwise : AreElementWise conditions)
    (hresult : subset callers conditions data = .ok result) :
    subset callers conditions (data.withGroups keys) = .ok (result.withGroups keys) := by
  have hnodup : data.header.Nodup := h.nodup
  have hwidth : data.HasWidth := h.width
  rw [subset_of_flat hnodup hwidth hflat] at hresult
  rcases map_eq_ok_iff.1 hresult with ⟨kept, hkept, rfl⟩
  have hparts : (groups.mapM fun group =>
      passingRows callers data.columns group.rows conditions) =
        .ok (groups.map fun group => group.rows.filter kept.contains) :=
    mapM_eq_ok fun _ hgroup =>
      passingRows_narrows hpure hnodup hwidth (h.hasRows hgroup) hwise hkept
  have hrows : (List.range data.nrows).filter
      (groups.map fun group => group.rows.filter kept.contains).flatten.contains = kept := by
    conv => rhs; rw [← filter_contains_of_sublist (passingRows_sublist hkept) List.nodup_range]
    apply List.filter_congr
    intro i hi
    rw [Bool.eq_iff_iff, List.contains_iff_mem, List.contains_iff_mem, ← List.flatMap_def,
      List.mem_flatMap]
    constructor
    · rintro ⟨group, _, hmem⟩
      exact List.contains_iff_mem.1 (List.mem_filter.1 hmem).2
    · intro hmem
      have hcovered : i ∈ groups.flatMap Partition.rows := h.cover.mem_iff.2 hi
      rcases List.mem_flatMap.1 hcovered with ⟨group, hgroup, hi⟩
      exact ⟨group, hgroup, List.mem_filter.2 ⟨hi, List.contains_iff_mem.2 hmem⟩⟩
  rw [subset_eq h.width h.partitions]
  show (groups.mapM fun group => passingRows callers data.columns group.rows conditions).map _ = _
  rw [hparts]
  show Except.ok ((data.withGroups keys).keep ((List.range data.nrows).filter
    (groups.map fun group => group.rows.filter kept.contains).flatten.contains)) = _
  rw [hrows]
  rfl

/-!
# Conditions one after another
-/

theorem passingRows_append {columns : List (String × List Value)} {rows : List Nat}
    {more : List Assign} {kept : List Nat}
    (h : passingRows callers columns rows (conditions ++ more) = .ok kept) :
    exists first second, passingRows callers columns rows conditions = .ok first ∧
      passingRows callers columns rows more = .ok second ∧
      kept = second.filter first.contains := by
  induction conditions generalizing kept with
  | nil =>
      have hsub := passingRows_sublist h
      refine ⟨rows, kept, rfl, h, ?_⟩
      rw [eq_comm, List.filter_eq_self]
      intro i hi
      rw [List.contains_iff_mem]
      exact hsub.subset hi
  | cons condition rest ih =>
      rcases bind_eq_ok_iff.1 h with ⟨values, hvalues, h⟩
      rcases bind_eq_ok_iff.1 h with ⟨flags, hflags, h⟩
      rcases bind_eq_ok_iff.1 h with ⟨others, hothers, h⟩
      cases h
      rcases ih hothers with ⟨first, second, hfirst, hsecond, rfl⟩
      refine ⟨first.filter (((rows.zip flags).filter Prod.snd).map Prod.fst).contains, second, ?_,
        hsecond, ?_⟩
      · rw [passingRows, hvalues, ok_bind, hflags, ok_bind, hfirst]
        rfl
      · generalize ((rows.zip flags).filter Prod.snd).map Prod.fst = passing
        rw [List.filter_filter]
        apply List.filter_congr
        intro i _
        rw [Bool.eq_iff_iff]
        simp [and_comm]

theorem filter_contains_comm {first second all : List Nat} (hfirst : first.Sublist all)
    (hsecond : second.Sublist all) (hnodup : all.Nodup) :
    first.filter second.contains = second.filter first.contains := by
  conv => lhs; rw [← filter_contains_of_sublist hfirst hnodup]
  conv => rhs; rw [← filter_contains_of_sublist hsecond hnodup]
  rw [List.filter_filter, List.filter_filter]
  apply List.filter_congr
  intro i _
  exact Bool.and_comm ..

theorem subset_append (hpure : callers.MakeNoColumns) (hnodup : data.header.Nodup)
    (hwidth : data.HasWidth) (hflat : data.groups = []) {more : List Assign}
    (hmore : AreElementWise more)
    (h : subset callers (conditions ++ more) data = .ok result) :
    exists kept, data.HasRows kept ∧ subset callers conditions data = .ok (data.part kept) ∧
      subset callers more (data.part kept) = .ok result := by
  rw [subset_of_flat hnodup hwidth hflat] at h
  rcases map_eq_ok_iff.1 h with ⟨_, hboth, rfl⟩
  rcases passingRows_append hboth with ⟨first, second, hfirst, hsecond, rfl⟩
  have hsub := passingRows_sublist hfirst
  have hrows : data.HasRows first := fun i hi => List.mem_range.1 (hsub.subset hi)
  refine ⟨first, hrows, ?_, ?_⟩
  · rw [subset_of_flat hnodup hwidth hflat, hfirst]
    rfl
  · rw [subset_part hnodup hwidth hrows (hsub.nodup List.nodup_range),
      passingRows_narrows hpure hnodup hwidth hrows hmore hsecond,
      filter_contains_comm hsub (passingRows_sublist hsecond) List.nodup_range]
    rfl

end Conditions

end Dataset
end Wrangle
