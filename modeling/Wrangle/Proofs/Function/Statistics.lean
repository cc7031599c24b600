import Mathlib.Algebra.BigOperators.Ring.Finset
import Mathlib.Data.List.Dedup
import Mathlib.Data.List.Perm.Basic
import Wrangle.Expr.Evaluate
import Wrangle.Function.Apply
import Wrangle.Proofs.Dataset.Grouping
import Wrangle.Proofs.Outcome
import Wrangle.Proofs.Value.Numbering
import Wrangle.Proofs.Value.Ranking

/-!
# Statistics of columns

The sum of a column, its least and its greatest value and the number of its
different values are the same for all orders of its cells, where these are integers
or missing.  A sum of sums is the sum of all.
-/

namespace Wrangle

namespace Value

/-- An integer, or a missing value. -/
def isWhole : Value -> Bool
  | missing => true
  | int _ => true
  | _ => false

theorem isDiscrete_of_isWhole {value : Value} (h : value.isWhole = true) :
    value.isDiscrete = true := by
  cases value <;> first | rfl | cases h

theorem exists_integers {cells : List Value} (h : forall cell, cell ∈ cells -> cell.isWhole = true)
    (hpresent : cells.any isMissing = false) : exists ns : List Int, cells = ns.map int := by
  induction cells with
  | nil => exact ⟨[], rfl⟩
  | cons cell rest ih =>
      rcases List.forall_mem_cons.1 h with ⟨hcell, hrest⟩
      rw [List.any_cons, Bool.or_eq_false_iff] at hpresent
      rcases ih hrest hpresent.2 with ⟨ns, rfl⟩
      cases cell with
      | missing => cases hpresent.1
      | int n => exact ⟨n :: ns, rfl⟩
      | _ => cases hcell

theorem filterMap_asInt? (ns : List Int) : (ns.map int).filterMap asInt? = ns := by
  rw [List.filterMap_map]
  exact List.filterMap_some

/-!
# Running over integers
-/

theorem foldlM_add (m : Int) (ns : List Int) :
    (ns.map int).foldlM add (int m) = .ok (int (m + ns.sum)) := by
  induction ns generalizing m with
  | nil => rw [List.sum_nil, Int.add_zero]; rfl
  | cons n rest ih =>
      have hadd : add (int m) (int n) = .ok (int (m + n)) := rfl
      rw [List.map_cons, List.foldlM_cons, hadd, ok_bind, ih, List.sum_cons, Int.add_assoc]

theorem leastFrom_int (m : Int) (ns : List Int) :
    leastFrom (int m) (ns.map int) = .ok (int (ns.foldl min m)) := by
  induction ns generalizing m with
  | nil => rfl
  | cons n rest ih =>
      have hbest : (if decide (n < m) then int n else int m) = int (min m n) := by
        by_cases h : n < m
        · rw [decide_eq_true h, if_pos rfl, min_eq_right (le_of_lt h)]
        · rw [decide_eq_false h, if_neg (by simp), min_eq_left (not_lt.1 h)]
      rw [List.map_cons, leastFrom, lessThan_of_asInt? (m := n) (n := m) rfl rfl]
      dsimp only
      rw [hbest, ih, List.foldl_cons]

theorem greater_int (m n : Int) : compareWith .greater (int m) (int n) = .ok (decide (n < m)) := by
  show Except.ok (compare m n == .gt) = _
  congr 1
  rw [Bool.eq_iff_iff, decide_eq_true_iff, beq_iff_eq, compare_gt_iff_gt]

theorem greatestFrom_int (m : Int) (ns : List Int) :
    greatestFrom (int m) (ns.map int) = .ok (int (ns.foldl max m)) := by
  induction ns generalizing m with
  | nil => rfl
  | cons n rest ih =>
      have hbest : (if decide (m < n) then int n else int m) = int (max m n) := by
        by_cases h : m < n
        · rw [decide_eq_true h, if_pos rfl, max_eq_right (le_of_lt h)]
        · rw [decide_eq_false h, if_neg (by simp), max_eq_left (not_lt.1 h)]
      rw [List.map_cons, greatestFrom, greater_int]
      dsimp only
      rw [hbest, ih, List.foldl_cons]

/-!
# Different values
-/

theorem memberOf_iff {value : Value} {seen : List Value} (hvalue : value.isDiscrete = true)
    (hseen : forall other, other ∈ seen -> other.isDiscrete = true) :
    value.memberOf seen = true <-> value.place ∈ seen.map place := by
  rw [memberOf, List.any_eq_true, List.mem_map]
  constructor
  · rintro ⟨other, hother, hsame⟩
    refine ⟨other, hother, ?_⟩
    exact ((place_eq_iff hvalue (hseen other hother)).2
      ((same_iff hvalue (hseen other hother)).1 hsame)).symm
  · rintro ⟨other, hother, hplace⟩
    refine ⟨other, hother, (same_iff hvalue (hseen other hother)).2 ?_⟩
    exact (place_eq_iff hvalue (hseen other hother)).1 hplace.symm

theorem places_of_distinct {cells seen : List Value}
    (hcells : forall cell, cell ∈ cells -> cell.isDiscrete = true)
    (hseen : forall cell, cell ∈ seen -> cell.isDiscrete = true)
    (hnodup : (seen.map place).Nodup) {kept : List Value}
    (hkept : kept = cells.foldl
      (fun seen value => if memberOf value seen then seen else seen ++ [value]) seen) :
    (kept.map place).Nodup ∧
      forall v, v ∈ kept.map place <-> v ∈ seen.map place ∨ v ∈ cells.map place := by
  induction cells generalizing seen with
  | nil =>
      subst hkept
      exact ⟨hnodup, fun v => by simp⟩
  | cons cell rest ih =>
      rcases List.forall_mem_cons.1 hcells with ⟨hcell, hrest⟩
      rw [List.foldl_cons] at hkept
      by_cases hmember : cell.memberOf seen = true
      · have hplace := (memberOf_iff hcell hseen).1 hmember
        rw [if_pos hmember] at hkept
        rcases ih hrest hseen hnodup hkept with ⟨hkeptNodup, hiff⟩
        refine ⟨hkeptNodup, ?_⟩
        intro v
        rw [hiff, List.map_cons, List.mem_cons]
        constructor
        · exact Or.imp_right Or.inr
        · rintro (h | rfl | h)
          · exact Or.inl h
          · exact Or.inl hplace
          · exact Or.inr h
      · have hplace : cell.place ∉ seen.map place :=
          fun h => hmember ((memberOf_iff hcell hseen).2 h)
        have hmore : forall other, other ∈ seen ++ [cell] -> other.isDiscrete = true := by
          intro other hother
          rcases List.mem_append.1 hother with hother | hother
          · exact hseen other hother
          · rw [List.mem_singleton.1 hother]
            exact hcell
        have hmoreNodup : ((seen ++ [cell]).map place).Nodup := by
          rw [List.map_append, List.map_singleton, ← List.concat_eq_append]
          exact List.Nodup.concat hplace hnodup
        rw [if_neg hmember] at hkept
        rcases ih hrest hmore hmoreNodup hkept with ⟨hkeptNodup, hiff⟩
        refine ⟨hkeptNodup, ?_⟩
        intro v
        rw [hiff, List.map_append, List.map_singleton, List.mem_append, List.mem_singleton,
          List.map_cons, List.mem_cons, or_assoc]

theorem length_distinct {cells : List Value}
    (h : forall cell, cell ∈ cells -> cell.isDiscrete = true) :
    (distinct cells).length = (cells.map place).dedup.length := by
  rcases places_of_distinct h (fun _ hcell => absurd hcell List.not_mem_nil) List.nodup_nil
    (Eq.refl (distinct cells)) with ⟨hnodup, hiff⟩
  have hperm : ((distinct cells).map place).Perm (cells.map place).dedup := by
    rw [List.perm_ext_iff_of_nodup hnodup (List.nodup_dedup _)]
    intro v
    rw [hiff, List.mem_dedup]
    simp
  rw [← hperm.length_eq, List.length_map]

end Value

/-!
# Statistics
-/

/-- What can be computed from a column in whatever order its cells are. -/
inductive Statistic where
  | total
  | least
  | greatest
  | variety
  deriving DecidableEq, Repr

namespace Statistic

def function : Statistic -> LibraryFunction
  | total => .total
  | least => .minimum
  | greatest => .maximum
  | variety => .distinctCount

def name : Statistic -> String
  | total => "sum"
  | least => "minimum"
  | greatest => "maximum"
  | variety => "n_distinct"

theorem ofName?_name (statistic : Statistic) :
    LibraryFunction.ofName? statistic.name = some statistic.function := by
  cases statistic <;> rfl

def unlessMissing (cells : List Value) (result : Option Int) : Value :=
  if cells.any Value.isMissing then .missing else result.elim .missing .int

/-- The statistic of whole cells. -/
def value (cells : List Value) : Statistic -> Value
  | total => unlessMissing cells (some (cells.filterMap Value.asInt?).sum)
  | least => unlessMissing cells (cells.filterMap Value.asInt?).min?
  | greatest => unlessMissing cells (cells.filterMap Value.asInt?).max?
  | variety => .int (Int.ofNat (cells.map Value.place).dedup.length)

variable {cells others : List Value}

theorem isWhole_unlessMissing (cells : List Value) (result : Option Int) :
    (unlessMissing cells result).isWhole = true := by
  unfold unlessMissing
  split
  · rfl
  · cases result <;> rfl

theorem isWhole_value (cells : List Value) (statistic : Statistic) :
    (statistic.value cells).isWhole = true := by
  cases statistic with
  | total => rw [value, isWhole_unlessMissing]
  | least => rw [value, isWhole_unlessMissing]
  | greatest => rw [value, isWhole_unlessMissing]
  | variety => rfl

theorem unlessMissing_perm (h : cells.Perm others) (result : Option Int) :
    unlessMissing cells result = unlessMissing others result := by
  rw [unlessMissing, unlessMissing, h.any_eq]

theorem min?_perm {ms ns : List Int} (h : ms.Perm ns) : ms.min? = ns.min? := by
  apply Option.ext
  intro n
  simp only [List.min?_eq_some_iff, h.mem_iff]

theorem max?_perm {ms ns : List Int} (h : ms.Perm ns) : ms.max? = ns.max? := by
  apply Option.ext
  intro n
  simp only [List.max?_eq_some_iff, h.mem_iff]

theorem value_perm (h : cells.Perm others) (statistic : Statistic) :
    statistic.value cells = statistic.value others := by
  have hints : (cells.filterMap Value.asInt?).Perm (others.filterMap Value.asInt?) :=
    h.filterMap Value.asInt?
  cases statistic with
  | total => rw [value, value, unlessMissing_perm h, hints.sum_eq]
  | least => rw [value, value, unlessMissing_perm h, min?_perm hints]
  | greatest => rw [value, value, unlessMissing_perm h, max?_perm hints]
  | variety => rw [value, value, (h.map Value.place).dedup.length_eq]

theorem unlessMissing_of_integers (ns : List Int) (result : Option Int) :
    unlessMissing (ns.map .int) result = result.elim .missing .int := by
  rw [unlessMissing, if_neg]
  rw [List.any_map, Bool.not_eq_true, List.any_eq_false]
  exact fun _ _ => Bool.false_ne_true

theorem total_of_integers (ns : List Int) : total.value (ns.map .int) = .int ns.sum := by
  rw [value, unlessMissing_of_integers, Value.filterMap_asInt?]
  rfl

/-!
# Application
-/

theorem overNumbers_column (h : forall cell, cell ∈ cells -> cell.isWhole = true)
    {f : List Value -> Except Fault Value} {result : Option Int}
    (hf : forall ns : List Int, cells = ns.map .int ->
      f (ns.map .int) = .ok (unlessMissing cells result)) :
    Aggregate.overNumbers (.column cells) f = .ok (unlessMissing cells result) := by
  unfold Aggregate.overNumbers Value.numbers?
  show ((if cells.any Value.isMissing then .ok none
    else (cells.mapM Value.toNumber).map some) >>= _) = _
  cases hmissing : cells.any Value.isMissing with
  | true =>
      rw [unlessMissing, hmissing]
      rfl
  | false =>
      rcases Value.exists_integers h hmissing with ⟨ns, rfl⟩
      have hnumbers : (ns.map Value.int).mapM Value.toNumber = .ok (ns.map Value.int) := by
        rw [List.mapM_map]
        exact mapM_eq_ok fun _ _ => rfl
      rw [if_neg (by simp), hnumbers]
      exact hf ns rfl

theorem extreme_column (h : forall cell, cell ∈ cells -> cell.isWhole = true)
    {best : Value -> List Value -> Except Fault Value} {choose : Int -> List Int -> Int}
    {pick : List Int -> Option Int}
    (hbest : forall (n : Int) (ns : List Int),
      best (.int n) (ns.map .int) = .ok (.int (choose n ns)))
    (hnil : pick [] = none) (hcons : forall n ns, pick (n :: ns) = some (choose n ns)) :
    Aggregate.extreme best (.column cells) =
      .ok (unlessMissing cells (pick (cells.filterMap Value.asInt?))) := by
  have hopened : Aggregate.extreme best (.column cells) =
      if cells.isEmpty then .ok .missing
      else if cells.any Value.isMissing then .ok .missing
      else match cells with
        | [] => .ok .missing
        | first :: rest => best first rest := by
    cases cells with
    | nil => rfl
    | cons first rest => rfl
  rw [hopened]
  cases hmissing : cells.any Value.isMissing with
  | true =>
      rw [unlessMissing, hmissing, if_pos rfl, if_pos rfl, ite_self]
  | false =>
      rcases Value.exists_integers h hmissing with ⟨ns, rfl⟩
      rw [unlessMissing_of_integers, Value.filterMap_asInt?]
      cases ns with
      | nil =>
          rw [hnil]
          rfl
      | cons n ns =>
          rw [hcons]
          exact hbest n ns

theorem applyBound_variety (h : forall cell, cell ∈ cells -> cell.isDiscrete = true) :
    variety.function.applyBound [.column cells] = .ok (variety.value cells) := by
  have hkeys : Value.allCanBeKeys cells = true := Dataset.allCanBeKeys_of_forall
    fun cell hcell => Dataset.canBeKey_of_isPlain (Value.isPlain_of_isDiscrete (h cell hcell))
  show (Value.differing cells >>= _) = _
  rw [Value.differing, if_pos hkeys, value, ← Value.length_distinct h]
  rfl

theorem applyBound_eq (h : forall cell, cell ∈ cells -> cell.isWhole = true)
    (statistic : Statistic) :
    statistic.function.applyBound [.column cells] = .ok (statistic.value cells) := by
  cases statistic with
  | total =>
      show Aggregate.overNumbers (.column cells) _ = _
      apply overNumbers_column h
      intro ns hns
      subst hns
      rw [Value.foldlM_add, Value.filterMap_asInt?, Int.zero_add, unlessMissing_of_integers]
      rfl
  | least => exact extreme_column h Value.leastFrom_int rfl fun _ _ => rfl
  | greatest => exact extreme_column h Value.greatestFrom_int rfl fun _ _ => rfl
  | variety =>
      exact applyBound_variety fun cell hcell => Value.isDiscrete_of_isWhole (h cell hcell)

theorem apply_eq (h : forall cell, cell ∈ cells -> cell.isWhole = true) (statistic : Statistic)
    (callers : CallerFunctions) :
    (Function.library statistic.function).apply callers [.column cells] [] =
      .ok (statistic.value cells) := by
  have hbind : statistic.function.signature.bind [.column cells] [] = .ok [.column cells] := by
    cases statistic <;> rfl
  show statistic.function.apply _ _ [.column cells] [] = _
  rw [LibraryFunction.apply, hbind]
  cases statistic with
  | total => exact congrArg Outcome.ofFault (applyBound_eq h total)
  | least => exact congrArg Outcome.ofFault (applyBound_eq h least)
  | greatest => exact congrArg Outcome.ofFault (applyBound_eq h greatest)
  | variety => exact congrArg Outcome.ofFault (applyBound_eq h variety)

/-!
# Sums of sums
-/

theorem isMissing_total (cells : List Value) :
    (total.value cells).isMissing = cells.any Value.isMissing := by
  rw [value, unlessMissing]
  cases cells.any Value.isMissing with
  | true => rfl
  | false => rfl

theorem total_flatMap {alpha : Type} (items : List alpha) (f : alpha -> List Value) :
    total.value (items.map fun item => total.value (f item)) = total.value (items.flatMap f) := by
  have hmissing : (items.map fun item => total.value (f item)).any Value.isMissing =
      (items.flatMap f).any Value.isMissing := by
    rw [List.any_map, List.any_flatMap]
    exact congrArg items.any (funext fun item => isMissing_total (f item))
  rw [value, value, unlessMissing, unlessMissing, hmissing]
  cases hnone : (items.flatMap f).any Value.isMissing with
  | true => rfl
  | false =>
      have hsums : forall item, item ∈ items ->
          (total.value (f item)).asInt? = some ((f item).filterMap Value.asInt?).sum := by
        intro item hitem
        rw [List.any_flatMap, List.any_eq_false] at hnone
        rw [value, unlessMissing, if_neg (hnone item hitem)]
        rfl
      have hints : (items.map fun item => total.value (f item)).filterMap Value.asInt? =
          items.map fun item => ((f item).filterMap Value.asInt?).sum := by
        rw [List.filterMap_map, ← List.filterMap_eq_map]
        exact List.filterMap_congr hsums
      rw [hints, List.filterMap_flatMap, List.flatMap_def, List.sum_flatten, List.map_map]
      rfl

theorem total_lengths {alpha beta : Type} (items : List alpha) (f : alpha -> List beta) :
    total.value (items.map fun item => .int (Int.ofNat (f item).length)) =
      .int (Int.ofNat (items.flatMap f).length) := by
  have hcells : (items.map fun item => Value.int (Int.ofNat (f item).length)) =
      (items.map fun item => Int.ofNat (f item).length).map .int := by
    rw [List.map_map]
    rfl
  have hsum : (items.map fun item => Int.ofNat (f item).length).sum =
      Int.ofNat (items.flatMap f).length := by
    rw [List.length_flatMap, Int.ofNat_eq_natCast, Nat.cast_list_sum, List.map_map]
    rfl
  rw [hcells, total_of_integers, hsum]

end Statistic

/-!
# Reducers

A reducer makes one value of a whole column: a statistic, the value at an end of the
column, or its length.
-/

open Value

inductive Reducer where
  | statistic (of : Statistic)
  | first
  | last
  | length
  deriving DecidableEq, Repr

namespace Reducer

def function : Reducer -> LibraryFunction
  | statistic of => of.function
  | first => .first
  | last => .last
  | length => .length

def name : Reducer -> String
  | statistic of => of.name
  | first => "first"
  | last => "last"
  | length => "length"

theorem ofName?_name (reducer : Reducer) :
    LibraryFunction.ofName? reducer.name = some reducer.function := by
  cases reducer with
  | statistic of => exact of.ofName?_name
  | _ => rfl

/-- What a reducer makes of the cells of a column. -/
def value (reducer : Reducer) (cells : List Value) : Except Fault Value :=
  reducer.function.applyBound [.column cells]

theorem apply_eq (reducer : Reducer) (cells : List Value) (callers : CallerFunctions) :
    (Function.library reducer.function).apply callers [.column cells] [] =
      Outcome.ofFault (reducer.value cells) := by
  have hbind : reducer.function.signature.bind [.column cells] [] = .ok [.column cells] := by
    cases reducer with
    | statistic of => cases of <;> rfl
    | _ => rfl
  show reducer.function.apply _ _ [.column cells] [] = _
  rw [LibraryFunction.apply, hbind]
  cases reducer with
  | statistic of => cases of <;> rfl
  | _ => rfl

theorem isRowAligned_function (reducer : Reducer) : reducer.function.isRowAligned = false := by
  cases reducer with
  | statistic of => cases of <;> rfl
  | _ => rfl

theorem value_clear {asking : Prop} {cells : List Value} (h : Kept (IsClear asking) cells)
    (reducer : Reducer) : Ends (fun _ => True) (IsClear asking) (reducer.value cells) := by
  have hcells : Ends (fun _ => True) (Kept (IsClear asking)) (Value.column cells).iterate := h
  have hint : forall n : Int, (Value.int n).IsClear asking :=
    fun _ => (isFirm_of_isAtom rfl).toIsClear
  cases reducer with
  | statistic of =>
      cases of with
      | total => exact Aggregate.total_keeps closed_isClear hcells
      | least =>
          exact Aggregate.extreme_keeps closed_isClear.missing
            (fun _ _ hfirst hrest => Aggregate.leastFrom_keeps hfirst hrest) hcells
      | greatest =>
          exact Aggregate.extreme_keeps closed_isClear.missing
            (fun _ _ hfirst hrest => Aggregate.greatestFrom_keeps hfirst hrest) hcells
      | variety => exact (ends_any _).bind_any fun items => (ends_any _).bind_any fun kept => hint _
  | first => exact Aggregate.atEnd_keeps closed_isClear.missing h 0
  | last => exact Aggregate.atEnd_keeps closed_isClear.missing h (-1)
  | length => exact hint _

end Reducer
end Wrangle
