import Wrangle.Proofs.Dataset.ElementWise
import Wrangle.Proofs.Dataset.Padding

/-!
# Conditions that hold

A row is kept where each condition is true for it in its group; neither false nor a
missing value will do.  Two conditions are joined by a call of the logical operator:
in each row it has the value that the operator makes of theirs, which is true just
where both are.
-/

namespace Wrangle
namespace Dataset

open Wrangle.Expr (atRow overRows rowCount elementCall)

variable {callers : CallerFunctions} {data result : Dataset}
variable {columns : List (String × List Value)} {rows : List Nat} {conditions rest : List Assign}

/-- Whether all conditions are true at a place in a group of rows. -/
def AllHold (callers : CallerFunctions) (columns : List (String × List Value))
    (conditions : List Assign) (rows : List Nat) (place : Nat) : Prop :=
  forall condition, condition ∈ conditions ->
    exists values, groupValues callers columns condition rows = .ok values ∧
      values[place]? = some (.bool true)

/-!
# Rows of groups
-/

/-- Groups have rows of the dataset, each of them once, whatever their keys are. -/
theorem sublist_of_partitions {groups : List Partition} (h : data.partitions = .ok groups)
    {group : Partition} (hgroup : group ∈ groups) : group.rows.Sublist (List.range data.nrows) := by
  cases hgrouped : data.isGrouped with
  | true =>
      rcases perm_of_partitions hgrouped h with ⟨keys, hkeys, hperm⟩
      have hlength : keys.length = data.nrows := length_of_mapM_eq_ok hkeys
      rcases List.mem_map.1 (hperm.mem_iff.1 hgroup) with ⟨entry, _, rfl⟩
      rw [← hlength]
      exact positionsOf_sublist entry.1 entry.2
  | false =>
      rw [partitions, hgrouped] at h
      cases h
      rw [List.mem_singleton.1 hgroup]

theorem nodup_of_partitions {groups : List Partition} (h : data.partitions = .ok groups)
    {group : Partition} (hgroup : group ∈ groups) : group.rows.Nodup :=
  (sublist_of_partitions h hgroup).nodup List.nodup_range

/-!
# Rows that pass
-/

theorem passes_iff {value : Value} : passes value = true <-> value = .bool true := by
  cases value with
  | bool b => cases b <;> simp [passes, Value.asBool?]
  | _ => simp [passes, Value.asBool?]

def flagged (rows : List Nat) (values : List Value) : List Nat :=
  ((rows.zip (values.map passes)).filter Prod.snd).map Prod.fst

theorem mem_flagged_iff {values : List Value} {i : Nat} :
    i ∈ flagged rows values <->
      exists place : Nat, rows[place]? = some i ∧ values[place]? = some (.bool true) := by
  unfold flagged
  rw [List.mem_map]
  constructor
  · rintro ⟨⟨j, flag⟩, hmem, rfl⟩
    rcases List.mem_filter.1 hmem with ⟨hzip, hflag⟩
    rcases List.mem_iff_getElem?.1 hzip with ⟨place, hplace⟩
    rw [List.getElem?_zip_eq_some, List.getElem?_map, Option.map_eq_some_iff] at hplace
    rcases hplace with ⟨hrow, value, hvalue, hpasses⟩
    have htrue : value = .bool true := passes_iff.1 (hpasses.trans hflag)
    exact ⟨place, hrow, htrue ▸ hvalue⟩
  · rintro ⟨place, hrow, hvalue⟩
    refine ⟨(i, true), List.mem_filter.2 ⟨?_, rfl⟩, rfl⟩
    have hflag : (values.map passes)[place]? = some true := by
      rw [List.getElem?_map, hvalue]
      rfl
    exact List.mem_iff_getElem?.2 ⟨place, List.getElem?_zip_eq_some.2 ⟨hrow, hflag⟩⟩

/-- A first condition has truth values in all rows, and of the rows that the others keep those stay
that it is true for. -/
theorem passingRows_cons_eq_ok_iff {condition : Assign} {kept : List Nat} :
    passingRows callers columns rows (condition :: rest) = .ok kept <->
      exists values found, groupValues callers columns condition rows = .ok values ∧
        (forall value, value ∈ values -> value.isTruthValue = true) ∧
        passingRows callers columns rows rest = .ok found ∧
        kept = found.filter (flagged rows values).contains := by
  constructor
  · intro h
    rcases bind_eq_ok_iff.1 h with ⟨values, hvalues, h⟩
    rcases bind_eq_ok_iff.1 h with ⟨flags, hflags, h⟩
    rcases bind_eq_ok_iff.1 h with ⟨found, hfound, h⟩
    rcases truthFlags_eq_ok_iff.1 hflags with ⟨htruth, rfl⟩
    exact ⟨values, found, hvalues, htruth, hfound, (Except.ok.inj h).symm⟩
  · rintro ⟨values, found, hvalues, htruth, hfound, rfl⟩
    rw [passingRows, hvalues, ok_bind, truthFlags_eq_ok_iff.2 ⟨htruth, rfl⟩, ok_bind, hfound]
    rfl

theorem place_unique (hnodup : rows.Nodup) {i place other : Nat} (hplace : rows[place]? = some i)
    (hother : rows[other]? = some i) : other = place := by
  rcases List.getElem?_eq_some_iff.1 hplace with ⟨hlt, hget⟩
  rcases List.getElem?_eq_some_iff.1 hother with ⟨hlt', hget'⟩
  exact hnodup.getElem_inj_iff.1 (hget'.trans hget.symm)

theorem mem_passingRows_iff (hnodup : rows.Nodup) {kept : List Nat}
    (h : passingRows callers columns rows conditions = .ok kept) {i : Nat} :
    i ∈ kept <-> exists place, rows[place]? = some i ∧
      AllHold callers columns conditions rows place := by
  induction conditions generalizing kept with
  | nil =>
      cases h
      rw [List.mem_iff_getElem?]
      constructor
      · rintro ⟨place, hrow⟩
        exact ⟨place, hrow, fun _ hcondition => absurd hcondition List.not_mem_nil⟩
      · rintro ⟨place, hrow, _⟩
        exact ⟨place, hrow⟩
  | cons condition rest ih =>
      rcases passingRows_cons_eq_ok_iff.1 h with ⟨values, found, hvalues, _, hfound, rfl⟩
      rw [List.mem_filter, List.contains_iff_mem, mem_flagged_iff, ih hfound]
      constructor
      · rintro ⟨⟨place, hrow, hrest⟩, other, hother, hvalue⟩
        rw [place_unique hnodup hrow hother] at hvalue
        exact ⟨place, hrow, List.forall_mem_cons.2 ⟨⟨values, hvalues, hvalue⟩, hrest⟩⟩
      · rintro ⟨place, hrow, hall⟩
        rcases List.forall_mem_cons.1 hall with ⟨⟨others, hothers, hvalue⟩, hrest⟩
        rw [hvalues] at hothers
        cases hothers
        exact ⟨⟨place, hrow, hrest⟩, place, hrow, hvalue⟩

/-- The rows that some conditions keep are those in whose places in a group all of them hold. -/
theorem exists_kept_of_subset (hwidth : data.HasWidth) {groups : List Partition}
    (hgroups : data.partitions = .ok groups) (h : subset callers conditions data = .ok result) :
    exists kept, result = data.keep kept ∧ kept.Sublist (List.range data.nrows) ∧
      forall i, i ∈ kept <-> exists group, group ∈ groups ∧ exists place,
        group.rows[place]? = some i ∧ AllHold callers data.columns conditions group.rows place := by
  rw [subset_eq hwidth hgroups] at h
  rcases map_eq_ok_iff.1 h with ⟨kept, hkept, rfl⟩
  refine ⟨_, rfl, List.filter_sublist, ?_⟩
  intro i
  have hpassing : List.Forall₂ (fun passing (group : Partition) =>
      passingRows callers data.columns group.rows conditions = .ok passing) _ groups :=
    forall₂_of_mapM_eq_ok hkept fun _ _ _ hpassing => hpassing
  rw [List.mem_filter, List.contains_iff_mem, List.mem_flatten, List.mem_range]
  constructor
  · rintro ⟨_, passing, hmem, hi⟩
    rcases exists_of_forall₂ hpassing hmem with ⟨group, hgroup, hrows⟩
    exact ⟨group, hgroup, (mem_passingRows_iff (nodup_of_partitions hgroups hgroup) hrows).1 hi⟩
  · rintro ⟨group, hgroup, place, hrow, hall⟩
    rcases exists_of_forall₂ hpassing.flip hgroup with ⟨passing, hmem, hrows⟩
    have hi := (mem_passingRows_iff (nodup_of_partitions hgroups hgroup) hrows).2
      ⟨place, hrow, hall⟩
    have hrange := (sublist_of_partitions hgroups hgroup).subset (List.mem_of_getElem? hrow)
    exact ⟨List.mem_range.1 hrange, passing, hmem, hi⟩

/-!
# Conditions that are joined
-/

def joined (first second : Expr) : Expr :=
  .broadcast "&" (.binary .conjunction) [first, second] []

theorem spread_eq_ok {name : String} {size : Nat} {value : Value} {values : List Value}
    (h : spread name size value = .ok values) :
    values = (List.range size).map (fun i => atRow i value) ∧
      forall items, value = .column items -> items.length = size := by
  unfold spread at h
  split at h
  · rename_i items
    split at h
    · rename_i hlength
      cases h
      refine ⟨?_, fun others heq => Value.column.inj heq ▸ hlength⟩
      exact (cellsAt_range hlength).symm
    · cases h
  · rename_i hsingle
    cases h
    refine ⟨?_, fun items heq => absurd heq (hsingle items)⟩
    have hrow : forall i, atRow i value = value := by
      intro i
      cases value with
      | column items => exact absurd rfl (hsingle items)
      | _ => rfl
    simp [hrow]

theorem isTruthValue_conjunction (a b : Value) : (a.conjunction b).isTruthValue = true := by
  unfold Value.conjunction
  split
  · rfl
  · split
    · rfl
    · rfl

theorem settled_of_isTruthValue {value : Value} (h : value.isTruthValue = true) (name : String)
    (sources : List Value) : Value.settled name sources value = value := by
  cases value with
  | missing => rfl
  | bool b => rfl
  | _ => cases h

theorem spread_of_isTruthValue {value : Value} (h : value.isTruthValue = true) (name : String)
    (size : Nat) : spread name size value = .ok (List.replicate size value) := by
  cases value with
  | missing => rfl
  | bool b => rfl
  | _ => cases h

theorem conjunction_eq_true_iff {a b : Value} (ha : a.isTruthValue = true)
    (hb : b.isTruthValue = true) :
    a.conjunction b = .bool true <-> a = .bool true ∧ b = .bool true := by
  cases a with
  | missing => cases b with
    | bool q => cases q <;> simp [Value.conjunction, Value.isFalse, Value.isMissing]
    | _ => simp [Value.conjunction, Value.isFalse, Value.isMissing]
  | bool p => cases b with
    | missing => cases p <;> simp [Value.conjunction, Value.isFalse, Value.isMissing]
    | bool q =>
        cases p <;> cases q <;>
          simp [Value.conjunction, Value.isFalse, Value.isMissing, Value.isTruthy]
    | _ => cases hb
  | _ => cases ha

theorem groupValues_joined {first second both : Assign} {values others : List Value}
    (hexpr : both.expr = joined first.expr second.expr)
    (hfirst : groupValues callers columns first rows = .ok values)
    (hsecond : groupValues callers columns second rows = .ok others) :
    groupValues callers columns both rows = .ok (List.zipWith Value.conjunction values others) := by
  rcases bind_eq_ok_iff.1 (inFragment_eq_ok_iff.1 hfirst) with ⟨a, ha, hvalues⟩
  rcases bind_eq_ok_iff.1 (inFragment_eq_ok_iff.1 hsecond) with ⟨b, hb, hothers⟩
  rcases spread_eq_ok hvalues with ⟨rfl, hlength⟩
  rcases spread_eq_ok hothers with ⟨rfl, hlength'⟩
  have hcells : List.zipWith Value.conjunction
      ((List.range rows.length).map fun i => atRow i a)
      ((List.range rows.length).map fun i => atRow i b) =
        (List.range rows.length).map fun i => (atRow i a).conjunction (atRow i b) := by
    rw [List.zipWith_map, List.zipWith_self]
  have hcall : both.expr.evaluate callers (frame columns rows) =
      overRows "&" [a, b] fun i => .ok ((atRow i a).conjunction (atRow i b)) := by
    rw [hexpr, joined, Expr.evaluate, Expr.evaluateAll, Expr.evaluateAll, Expr.evaluateAll, ha, hb,
      Expr.evaluateNamed]
    rfl
  rw [hcells]
  apply inFragment_eq_ok_iff.2
  rw [hcall]
  by_cases hcolumn : exists items, Value.column items ∈ [a, b]
  · rcases hcolumn with ⟨items, hitems⟩
    have hlengths : forall found, Value.column found ∈ [a, b] -> found.length = rows.length := by
      intro found hfound
      rcases List.mem_pair.1 hfound with heq | heq
      · exact hlength found heq.symm
      · exact hlength' found heq.symm
    rw [overRows, Expr.rowCount_of_lengths hlengths hitems, ok_bind]
    dsimp only
    rw [mapM_eq_ok fun _ _ => rfl]
    exact if_pos (by simp)
  · have hsingle : forall items, Value.column items ∉ [a, b] :=
      fun items hitems => hcolumn ⟨items, hitems⟩
    have hrow : forall value, value ∈ [a, b] -> forall i, atRow i value = value := by
      intro value hvalue i
      cases value with
      | column items => exact absurd hvalue (hsingle items)
      | _ => rfl
    have hrowA := hrow a (by simp)
    have hrowB := hrow b (by simp)
    rw [overRows, Expr.rowCount_of_single hsingle, ok_bind]
    simp only [hrowA, hrowB]
    show spread both.name rows.length (Value.settled "&" [a, b] (a.conjunction b)) = _
    have htruth := isTruthValue_conjunction a b
    rw [settled_of_isTruthValue htruth, spread_of_isTruthValue htruth, List.map_const',
      List.length_range]

theorem passingRows_joined (hnodup : rows.Nodup) {first second both : Assign}
    (hexpr : both.expr = joined first.expr second.expr) {kept : List Nat}
    (h : passingRows callers columns rows (first :: second :: rest) = .ok kept) :
    passingRows callers columns rows (both :: rest) = .ok kept := by
  rcases passingRows_cons_eq_ok_iff.1 h with ⟨values, between, hvalues, htruth, hbetween, rfl⟩
  rcases passingRows_cons_eq_ok_iff.1 hbetween with ⟨others, found, hothers, htruth', hfound, rfl⟩
  refine passingRows_cons_eq_ok_iff.2 ⟨_, found, groupValues_joined hexpr hvalues hothers, ?_,
    hfound, ?_⟩
  · intro value hvalue
    rcases List.mem_iff_getElem.1 hvalue with ⟨place, hplace, rfl⟩
    rw [List.getElem_zipWith]
    exact isTruthValue_conjunction _ _
  · rw [List.filter_filter]
    apply List.filter_congr
    intro i _
    rw [Bool.eq_iff_iff, Bool.and_eq_true]
    simp only [List.contains_iff_mem, mem_flagged_iff, List.getElem?_zipWith_eq_some]
    constructor
    · rintro ⟨⟨place, hrow, hvalue⟩, other, hother, hvalue'⟩
      rw [place_unique hnodup hrow hother] at hvalue'
      exact ⟨place, hrow, _, _, hvalue, hvalue', rfl⟩
    · rintro ⟨place, hrow, a, b, ha, hb, hboth⟩
      have htrue := (conjunction_eq_true_iff (htruth a (List.mem_of_getElem? ha))
        (htruth' b (List.mem_of_getElem? hb))).1 hboth
      rw [htrue.1] at ha
      rw [htrue.2] at hb
      exact ⟨⟨place, hrow, ha⟩, place, hrow, hb⟩

def joinedAll (first : Expr) (others : List Expr) : Expr :=
  others.foldl joined first

section Subsets

variable {groups : List Partition} (hwidth : data.HasWidth) (hgroups : data.partitions = .ok groups)
include hwidth hgroups

theorem subset_of_passingRows {others : List Assign}
    (hpassing : forall group, group ∈ groups -> forall kept,
      passingRows callers data.columns group.rows conditions = .ok kept ->
        passingRows callers data.columns group.rows others = .ok kept)
    (h : subset callers conditions data = .ok result) : subset callers others data = .ok result := by
  rw [subset_eq hwidth hgroups] at h ⊢
  rcases map_eq_ok_iff.1 h with ⟨kept, hkept, rfl⟩
  refine map_eq_ok_iff.2 ⟨kept, ?_, rfl⟩
  rw [← hkept]
  apply mapM_congr
  intro group hgroup
  rcases exists_of_mapM_eq_ok hkept hgroup with ⟨passing, hrows⟩
  rw [hrows, hpassing group hgroup passing hrows]

theorem subset_joinedAll {first all : Assign}
    (hexpr : all.expr = joinedAll first.expr (rest.map Assign.expr))
    (h : subset callers (first :: rest) data = .ok result) :
    subset callers [all] data = .ok result := by
  induction rest generalizing first with
  | nil =>
      apply subset_of_passingRows hwidth hgroups _ h
      intro group _ kept hkept
      rcases passingRows_cons_eq_ok_iff.1 hkept with ⟨values, found, hvalues, htruth, hfound, rfl⟩
      have hsame : Agrees (groupValues callers data.columns first group.rows)
          (groupValues callers data.columns all group.rows) :=
        groupValues_agrees data.columns hexpr.symm group.rows
      exact passingRows_cons_eq_ok_iff.2
        ⟨values, found, hsame.eq_ok hvalues, htruth, hfound, rfl⟩
  | cons second rest ih =>
      let both : Assign := { name := "", expr := joined first.expr second.expr, source := none }
      have hboth : all.expr = joinedAll both.expr (rest.map Assign.expr) := hexpr
      apply ih hboth
      · apply subset_of_passingRows hwidth hgroups _ h
        intro group hgroup kept hkept
        exact passingRows_joined (nodup_of_partitions hgroups hgroup) rfl hkept

end Subsets

end Dataset
end Wrangle
