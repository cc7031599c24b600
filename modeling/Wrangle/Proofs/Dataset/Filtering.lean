import Mathlib.Data.List.Pairwise
import Wrangle.Proofs.Dataset.Splitting

/-!
# Splitting conditions

The rows of a group that pass some conditions are those that pass them in the
dataset of these rows alone.  A dataset keeps just the rows that its groups keep,
in its own order.
-/

namespace Wrangle
namespace Dataset

/-!
# Passing rows
-/

section Passing

variable {callers : CallerFunctions} {columns others : List (String × List Value)}

theorem flagged_map (place : Nat -> Nat) (rows : List Nat) (flags : List Bool) :
    (((rows.map place).zip flags).filter Prod.snd).map Prod.fst =
      (((rows.zip flags).filter Prod.snd).map Prod.fst).map place := by
  rw [List.zip_map_left, List.filter_map, List.map_map, List.map_map]
  rfl

theorem flagged_subset {rows : List Nat} {flags : List Bool} {i : Nat}
    (h : i ∈ ((rows.zip flags).filter Prod.snd).map Prod.fst) : i ∈ rows := by
  rcases List.mem_map.1 h with ⟨⟨j, flag⟩, hmem, rfl⟩
  exact (List.of_mem_zip (List.mem_filter.1 hmem).1).1

theorem contains_map_iff {place : Nat -> Nat} {items : List Nat} {i : Nat}
    (h : forall j, j ∈ items -> place i = place j -> i = j) :
    (items.map place).contains (place i) = items.contains i := by
  rw [Bool.eq_iff_iff, List.contains_iff_mem, List.contains_iff_mem, List.mem_map]
  constructor
  · rintro ⟨j, hj, heq⟩
    rw [h j hj heq.symm]
    exact hj
  · intro hi
    exact ⟨i, hi, rfl⟩

theorem passingRows_sublist {rows : List Nat} {conditions : List Assign} {kept : List Nat}
    (h : passingRows callers columns rows conditions = .ok kept) : kept.Sublist rows := by
  induction conditions generalizing kept with
  | nil =>
      cases h
      exact List.Sublist.refl _
  | cons condition rest ih =>
      rw [passingRows] at h
      rcases bind_eq_ok_iff.1 h with ⟨values, _, h⟩
      rcases bind_eq_ok_iff.1 h with ⟨flags, _, h⟩
      rcases bind_eq_ok_iff.1 h with ⟨found, hfound, h⟩
      cases h
      exact List.filter_sublist.trans (ih hfound)

theorem passingRows_map {place : Nat -> Nat} {rows : List Nat}
    (hplace : forall i, i ∈ rows -> forall j, j ∈ rows -> place i = place j -> i = j)
    (hvalues : forall condition, groupValues callers columns condition (rows.map place) =
      groupValues callers others condition rows) (conditions : List Assign) :
    passingRows callers columns (rows.map place) conditions =
      (passingRows callers others rows conditions).map (List.map place) := by
  induction conditions with
  | nil => rfl
  | cons condition rest ih =>
      rw [passingRows, passingRows, hvalues, ih]
      cases groupValues callers others condition rows with
      | error failure => rfl
      | ok values =>
          rw [ok_bind, ok_bind]
          cases truthFlags condition values with
          | error failure => rfl
          | ok flags =>
              rw [ok_bind, ok_bind]
              cases hfound : passingRows callers others rows rest with
              | error failure => rfl
              | ok found =>
                  show Except.ok _ = Except.ok _
                  rw [flagged_map, List.filter_map]
                  congr 2
                  apply List.filter_congr
                  intro i hi
                  apply contains_map_iff (fun j hj => hplace i
                    ((passingRows_sublist hfound).subset hi) j (flagged_subset hj))

end Passing

/-!
# Parts of groups
-/

theorem filter_contains_of_sublist {some all : List Nat} (h : some.Sublist all)
    (hnodup : all.Nodup) : (all.filter fun i => some.contains i) = some := by
  induction h with
  | slnil => rfl
  | cons first hsub ih =>
      rw [List.nodup_cons] at hnodup
      have hfirst : first ∉ _ := fun hmem => hnodup.1 (hsub.subset hmem)
      rw [List.filter_cons_of_neg (by simpa using hfirst), ih hnodup.2]
  | cons_cons first hsub ih =>
      rw [List.nodup_cons] at hnodup
      rw [List.filter_cons_of_pos (by simp)]
      congr 1
      rw [← List.filter_congr (fun i hi => ?_), ih hnodup.2]
      have hne : i ≠ first := by
        rintro rfl
        exact hnodup.1 hi
      simp [hne]

def placeIn (rows : List Nat) (i : Nat) : Nat :=
  rows[i]?.getD 0

theorem map_placeIn (rows : List Nat) :
    (List.range rows.length).map (placeIn rows) = rows := by
  apply List.ext_getElem
  · simp
  · intro i hi hi'
    simp [placeIn, hi']

theorem placeIn_inj {rows : List Nat} (hnodup : rows.Nodup) {i j : Nat}
    (hi : i ∈ List.range rows.length) (hj : j ∈ List.range rows.length)
    (h : placeIn rows i = placeIn rows j) : i = j := by
  have hi : i < rows.length := List.mem_range.1 hi
  have hj : j < rows.length := List.mem_range.1 hj
  simp only [placeIn, List.getElem?_eq_getElem hi, List.getElem?_eq_getElem hj] at h
  exact (List.Nodup.getElem_inj_iff hnodup).1 h

theorem rowsAt_part {data : Dataset} {positions places : List Nat} (h : data.HasRows positions)
    (hplaces : forall i, i ∈ places -> i < positions.length) :
    (data.part positions).rowsAt places = data.rowsAt (places.map (placeIn positions)) := by
  unfold rowsAt
  rw [List.filterMap_map]
  apply List.filterMap_congr
  intro i hi
  have hlt := hplaces i hi
  rw [part_rows, rowsAt_eq h, List.getElem?_map, Function.comp_apply, placeIn,
    List.getElem?_eq_getElem hlt]
  have hrow : positions[i] < data.rows.length := h _ (List.getElem_mem hlt)
  simp [hrow]

/-!
# Subsets
-/

theorem zipIdx_eq_map (rows : List (List Value)) :
    rows.zipIdx = (List.range rows.length).map fun i => (rows[i]?.getD [], i) := by
  apply List.ext_getElem
  · simp
  · intro i hi hi'
    rw [List.length_zipIdx] at hi
    simp [hi]

theorem rowsAt_filter (data : Dataset) (test : Nat -> Bool) :
    (data.rows.zipIdx.filter fun entry => test entry.2).map Prod.fst =
      data.rowsAt ((List.range data.nrows).filter test) := by
  have hrows : data.HasRows ((List.range data.nrows).filter test) := by
    intro i hi
    exact List.mem_range.1 (List.mem_filter.1 hi).1
  rw [rowsAt_eq hrows, zipIdx_eq_map, List.filter_map, List.map_map]
  rfl

theorem map_fitted {data : Dataset} (hwidth : data.HasWidth) {rows : List (List Value)}
    (hrows : forall row, row ∈ rows -> row ∈ data.rows) :
    rows.map (fitted data.width) = rows := by
  rw [List.map_congr_left (g := id), List.map_id]
  intro row hrow
  rw [width, ← hwidth row (hrows row hrow), fitted_of_length]
  rfl

theorem subset_eq {callers : CallerFunctions} {conditions : List Assign} {data : Dataset}
    (hwidth : data.HasWidth) {groups : List Partition} (hgroups : data.partitions = .ok groups) :
    subset callers conditions data =
      (groups.mapM fun group => passingRows callers data.columns group.rows conditions).map
        fun kept => data.keep ((List.range data.nrows).filter kept.flatten.contains) := by
  unfold subset
  simp only [hgroups, Outcome.ofFault, ok_bind]
  cases groups.mapM fun group => passingRows callers data.columns group.rows conditions with
  | error failure => rfl
  | ok kept =>
      show Except.ok _ = Except.ok _
      rw [rowsAt_filter data kept.flatten.contains,
        map_fitted hwidth fun row hrow => mem_rows_of_mem_rowsAt hrow]
      rfl

section Splits

variable {callers : CallerFunctions} {groups : List Partition} {keyNames : List String}
variable {data : Dataset} {conditions : List Assign}

theorem subset_part (hnodup : data.header.Nodup) (hwidth : data.HasWidth) {rows : List Nat}
    (hrows : data.HasRows rows) (hdistinct : rows.Nodup) :
    subset callers conditions (data.part rows) =
      (passingRows callers data.columns rows conditions).map data.part := by
  have hpassing : passingRows callers data.columns rows conditions =
      (passingRows callers (data.part rows).columns (List.range rows.length)
        conditions).map (List.map (placeIn rows)) := by
    rw [← passingRows_map (fun i hi j hj => placeIn_inj hdistinct hi hj), map_placeIn]
    intro condition
    rw [map_placeIn]
    exact (groupValues_part callers hnodup hwidth hrows condition).symm
  rw [subset_eq (part_hasWidth hwidth) (part_partitions hrows), part_nrows hrows, hpassing]
  show ((do
      let kept <- passingRows callers (data.part rows).columns
        (List.range rows.length) conditions
      .ok [kept]) : Outcome (List (List Nat))).map _ = _
  cases hfound : passingRows callers (data.part rows).columns
      (List.range rows.length) conditions with
  | error failure => rfl
  | ok found =>
      have hsub := passingRows_sublist hfound
      show Except.ok ((data.part rows).keep
        ((List.range rows.length).filter [found].flatten.contains)) = Except.ok _
      rw [List.flatten_singleton, filter_contains_of_sublist hsub List.nodup_range, keep,
        rowsAt_part hrows fun i hi => List.mem_range.1 (hsub.subset hi)]
      rfl

theorem Splits.eq_of_mem_rows (h : data.Splits groups keyNames) {a b : Partition}
    (ha : a ∈ groups) (hb : b ∈ groups) {i : Nat} (hia : i ∈ a.rows) (hib : i ∈ b.rows) :
    a = b := by
  have hsymm : Std.Symm (Function.onFun List.Disjoint Partition.rows) :=
    ⟨fun _ _ hab _ hb ha => hab ha hb⟩
  by_contra hne
  exact (List.nodup_flatMap.1 (nodup_of_cover h.cover)).2.forall ha hb hne hia hib

def Filtered (data : Dataset) (result : Dataset) (found : Partition -> Dataset) : Prop :=
  exists kept, kept.Sublist (List.range data.nrows) ∧ result = data.keep kept ∧
    found = fun group => data.part (group.rows.filter kept.contains)

theorem Splits.filter_rows (h : data.Splits groups keyNames)
    {passing : Partition -> List Nat}
    (hpassing : forall group, group ∈ groups -> (passing group).Sublist group.rows)
    {group : Partition} (hgroup : group ∈ groups) :
    group.rows.filter
      ((List.range data.nrows).filter (groups.flatMap passing).contains).contains =
        passing group := by
  rw [← filter_contains_of_sublist (hpassing group hgroup) (h.nodup_rows hgroup)]
  apply List.filter_congr
  intro i hi
  rw [Bool.eq_iff_iff, List.contains_iff_mem, List.contains_iff_mem, List.mem_filter,
    List.contains_iff_mem, List.mem_flatMap]
  constructor
  · rintro ⟨_, other, hother, hmem⟩
    have heq := h.eq_of_mem_rows hgroup hother hi ((hpassing other hother).subset hmem)
    rw [heq]
    exact hmem
  · intro hmem
    exact ⟨List.mem_range.2 (h.hasRows hgroup i hi), group, hgroup, hmem⟩

def passingIn (callers : CallerFunctions) (columns : List (String × List Value))
    (conditions : List Assign) (group : Partition) : List Nat :=
  (passingRows callers columns group.rows conditions).toOption.getD []

theorem passingIn_eq {columns : List (String × List Value)} {group : Partition} {kept : List Nat}
    (h : passingRows callers columns group.rows conditions = .ok kept) :
    passingIn callers columns conditions group = kept := by
  rw [passingIn, h]
  rfl

theorem Splits.combines_subset (h : data.Splits groups keyNames) :
    Combines groups data.Filtered (subset callers conditions data)
      fun group => subset callers conditions (data.part group.rows) := by
  have hpart : forall group, group ∈ groups ->
      subset callers conditions (data.part group.rows) =
        (passingRows callers data.columns group.rows conditions).map data.part :=
    fun _ hgroup => subset_part h.nodup h.width (h.hasRows hgroup) (h.nodup_rows hgroup)
  have hall : (forall group, group ∈ groups ->
      exists kept, passingRows callers data.columns group.rows conditions = .ok kept) ->
      subset callers conditions data = .ok (data.keep ((List.range data.nrows).filter
        (groups.flatMap (passingIn callers data.columns conditions)).contains)) := by
    intro hpassing
    have hmapM : (groups.mapM fun group =>
        passingRows callers data.columns group.rows conditions) =
          .ok (groups.map (passingIn callers data.columns conditions)) := by
      apply mapM_eq_ok
      intro group hgroup
      rcases hpassing group hgroup with ⟨kept, hkept⟩
      rw [hkept, passingIn_eq hkept]
    rw [subset_eq h.width h.partitions, hmapM]
    rfl
  constructor
  · intro hparts
    refine ⟨_, hall fun group hgroup => ?_⟩
    rcases hparts group hgroup with ⟨part, hfound⟩
    rw [hpart group hgroup] at hfound
    rcases map_eq_ok_iff.1 hfound with ⟨kept, hkept, _⟩
    exact ⟨kept, hkept⟩
  · intro result hresult
    have hpassing : forall group, group ∈ groups ->
        exists kept, passingRows callers data.columns group.rows conditions = .ok kept := by
      rw [subset_eq h.width h.partitions] at hresult
      rcases map_eq_ok_iff.1 hresult with ⟨kept, hkept, _⟩
      intro group hgroup
      exact exists_of_mapM_eq_ok hkept hgroup
    rw [hall hpassing] at hresult
    cases hresult
    refine ⟨_, ⟨_, List.filter_sublist, rfl, rfl⟩, ?_⟩
    intro group hgroup
    rw [h.filter_rows (fun other hother => ?_) hgroup, hpart group hgroup]
    · rcases hpassing group hgroup with ⟨kept, hkept⟩
      rw [hkept, passingIn_eq hkept]
      rfl
    · rcases hpassing other hother with ⟨kept, hkept⟩
      rw [passingIn_eq hkept]
      exact passingRows_sublist hkept

end Splits

end Dataset
end Wrangle
