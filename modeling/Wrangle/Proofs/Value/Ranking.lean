import Mathlib.Data.List.Lex
import Mathlib.Data.Prod.Lex
import Mathlib.Data.String.Basic
import Wrangle.Proofs.Value.Comparing
import Wrangle.Proofs.Value.Sorting

/-!
# Places of discrete cells

Numbers come first, in the order of their values, then texts in the order of their
characters, and missing values last.  Comparing ranks is comparing places, so what
is sorted by rank is in the order of places.
-/

namespace Wrangle

/-!
# Sorting by places
-/

section Sorting

variable {alpha beta : Type} [LinearOrder beta]
variable {less : alpha -> alpha -> Except Fault Bool} {place : alpha -> beta} {keep : alpha -> Prop}

def ComparesPlaces (keep : alpha -> Prop) (place : alpha -> beta)
    (less : alpha -> alpha -> Except Fault Bool) : Prop :=
  forall a b, keep a -> keep b -> less a b = .ok (decide (place a < place b))

def IsAscending (place : alpha -> beta) (items : List alpha) : Prop :=
  items.Pairwise fun a b => place a ≤ place b

theorem insertSorted_isAscending (hless : ComparesPlaces keep place less) {x : alpha} (hx : keep x)
    {items sorted : List alpha} (hitems : Kept keep items) (hascending : IsAscending place items)
    (h : insertSorted less x items = .ok sorted) : IsAscending place sorted := by
  induction items generalizing sorted with
  | nil =>
      cases h
      exact List.pairwise_singleton _ _
  | cons y rest ih =>
      rcases Kept.cons_iff.1 hitems with ⟨hy, hrest⟩
      rcases List.pairwise_cons.1 hascending with ⟨hfirst, htail⟩
      rw [insertSorted, hless y x hy hx] at h
      by_cases hyx : place y < place x
      · rw [decide_eq_true hyx] at h
        rcases map_eq_ok_iff.1 h with ⟨inserted, hinserted, rfl⟩
        apply List.pairwise_cons.2
        refine ⟨?_, ih hrest htail hinserted⟩
        intro z hz
        rcases List.mem_cons.1 ((insertSorted_perm hinserted).mem_iff.1 hz) with rfl | hz
        · exact le_of_lt hyx
        · exact hfirst z hz
      · rw [decide_eq_false hyx] at h
        cases h
        have hxy : place x ≤ place y := not_lt.1 hyx
        apply List.pairwise_cons.2
        refine ⟨?_, hascending⟩
        intro z hz
        rcases List.mem_cons.1 hz with rfl | hz
        · exact hxy
        · exact le_trans hxy (hfirst z hz)

theorem sortWith_isAscending (hless : ComparesPlaces keep place less) {items sorted : List alpha}
    (hitems : Kept keep items) (h : sortWith less items = .ok sorted) :
    IsAscending place sorted := by
  induction items generalizing sorted with
  | nil =>
      cases h
      exact List.Pairwise.nil
  | cons x rest ih =>
      rcases Kept.cons_iff.1 hitems with ⟨hx, hrest⟩
      rw [sortWith] at h
      split at h
      · cases h
      · rename_i tail htail
        have hkept : Kept keep tail := by
          intro y hy
          exact hrest y ((sortWith_perm htail).mem_iff.1 hy)
        exact insertSorted_isAscending hless hx hkept (ih hrest htail) h

theorem Value.sortOn_isAscending {key : alpha -> Value}
    (hless : ComparesPlaces keep place fun a b => Value.lessThan (key a) (key b))
    {items sorted : List alpha} (hkeys : forall item, item ∈ items -> (key item).isOrdered = true)
    (hitems : Kept keep items) (h : Value.sortOn key items = .ok sorted) :
    IsAscending place sorted := by
  unfold Value.sortOn at h
  dsimp only at h
  rw [if_pos (List.all_eq_true.2 hkeys)] at h
  exact sortWith_isAscending hless hitems h

end Sorting

namespace Value

/-!
# Places
-/

/-- The place of a discrete cell among others. -/
def place : Value -> Int ×ₗ Int ×ₗ String
  | bool b => toLex (0, toLex (if b then 1 else 0, ""))
  | int n => toLex (0, toLex (n, ""))
  | str s => toLex (1, toLex (0, s))
  | _ => toLex (2, toLex (0, ""))

@[simp] theorem place_str (s : String) : (str s).place = toLex (1, toLex (0, s)) := rfl

@[simp] theorem place_missing : missing.place = toLex (2, toLex (0, "")) := rfl

theorem place_of_asInt? {a : Value} {n : Int} (h : a.asInt? = some n) :
    a.place = toLex (0, toLex (n, "")) := by
  cases a <;> cases h <;> rfl

theorem place_eq_iff {a b : Value} (ha : a.isDiscrete = true) (hb : b.isDiscrete = true) :
    a.place = b.place <-> a.standard = b.standard := by
  cases a <;> cases ha <;> cases b <;> cases hb <;> simp [place, standard]

theorem same?_eq_ok {a b : Value} (h : signals a b = false) :
    same? a b = .ok (identical a b || equals a b) := by
  unfold same? equals?
  rw [h]
  cases identical a b <;> rfl

theorem signals_of_isDiscrete {a b : Value} (ha : a.isDiscrete = true)
    (hb : b.isDiscrete = true) : signals a b = false := by
  cases a <;> cases ha <;> cases b <;> cases hb <;> rfl

theorem same?_of_isDiscrete {a b : Value} (ha : a.isDiscrete = true) (hb : b.isDiscrete = true) :
    same? a b = .ok (decide (a.place = b.place)) := by
  rw [same?_eq_ok (signals_of_isDiscrete ha hb)]
  congr 1
  rw [Bool.eq_iff_iff, decide_eq_true_iff, same_iff ha hb, place_eq_iff ha hb]

theorem signalsWithin_of_isDiscrete {as bs : List Value}
    (ha : forall a, a ∈ as -> a.isDiscrete = true)
    (hb : forall b, b ∈ bs -> b.isDiscrete = true) : signalsWithin as bs = false := by
  induction as generalizing bs with
  | nil => rfl
  | cons a as ih =>
      cases bs with
      | nil => rfl
      | cons b bs =>
          have hrest := ih (fun x hx => ha x (List.mem_cons_of_mem _ hx))
            (fun x hx => hb x (List.mem_cons_of_mem _ hx))
          rw [signalsWithin, hrest, signals_of_isDiscrete (ha a (List.mem_cons_self ..))
            (hb b (List.mem_cons_self ..))]
          simp

theorem same?_tuple {as bs : List Value} (ha : forall a, a ∈ as -> a.isDiscrete = true)
    (hb : forall b, b ∈ bs -> b.isDiscrete = true) :
    same? (.tuple as) (.tuple bs) = .ok (sameAll as bs) := by
  have hsignals : signals (.tuple as) (.tuple bs) = false := by
    rw [signals, signalsWithin_of_isDiscrete ha hb]
  rw [same?_eq_ok hsignals, equals]
  rfl

/-!
# Ranks
-/

def rankCells : Value -> List Value
  | missing => [.int 2, .str "", .int 0]
  | str s => [.int 1, .str "str", .str s]
  | value => [.int 0, .str "", value]

theorem rank_eq_rankCells {a : Value} (h : a.isDiscrete = true) :
    a.rank = .tuple a.rankCells := by
  cases a <;> cases h <;> rfl

theorem isDiscrete_of_mem_rankCells {a : Value} (h : a.isDiscrete = true) :
    forall cell, cell ∈ a.rankCells -> cell.isDiscrete = true := by
  cases a <;> cases h <;> simp [rankCells, isDiscrete]

theorem same?_rank_eq {a b : Value} (ha : a.isDiscrete = true) (hb : b.isDiscrete = true) :
    same? a.rank b.rank = .ok (decide (a.place = b.place)) := by
  have hcells := isDiscrete_of_mem_rankCells ha
  have hcells' := isDiscrete_of_mem_rankCells hb
  rw [rank_eq_rankCells ha, rank_eq_rankCells hb, same?_tuple hcells hcells']
  congr 1
  rw [Bool.eq_iff_iff, decide_eq_true_iff, sameAll_iff hcells hcells', place_eq_iff ha hb]
  cases a <;> cases ha <;> cases b <;> cases hb <;> simp [rankCells, standard]

theorem compareItems_cons_eq {a b : Value} {as bs : List Value} {c : Comparison} {same : Bool}
    (h : same? a b = .ok same) : compareItems c (a :: as) (b :: bs) =
      if same then compareItems c as bs else compareWith c a b := by
  rw [compareItems, h]
  cases same <;> rfl

theorem lessThan_of_asInt? {a b : Value} {m n : Int} (ha : a.asInt? = some m)
    (hb : b.asInt? = some n) : lessThan a b = .ok (decide (m < n)) := by
  have hsimple : lessThan a b = compareSimple .less a b := by
    cases a <;> cases ha <;> rfl
  rw [hsimple]
  unfold compareSimple
  rw [ha, hb]
  show Except.ok (compare m n == .lt) = _
  congr 1
  rw [Bool.eq_iff_iff, decide_eq_true_iff, beq_iff_eq, compare_lt_iff_lt]

theorem lessThan_str (s t : String) : lessThan (.str s) (.str t) = .ok (decide (s < t)) := by
  show Except.ok (compare s t == .lt) = _
  congr 1
  rw [Bool.eq_iff_iff, decide_eq_true_iff, beq_iff_eq, compare_lt_iff_lt]

theorem compareItems_kinds {i j : Int} (h : i ≠ j) (as bs : List Value) :
    compareItems .less (.int i :: as) (.int j :: bs) = .ok (decide (i < j)) := by
  rw [compareItems_cons_eq (same?_int i j), beq_false_of_ne h]
  exact lessThan_of_asInt? rfl rfl

theorem compareItems_same_kind {a b : Value} (ha : a.isDiscrete = true) (hb : b.isDiscrete = true)
    {less : Bool} (hless : lessThan a b = .ok less) (hne : less = true -> a.place ≠ b.place)
    (i : Int) (s : String) :
    compareItems .less [.int i, .str s, a] [.int i, .str s, b] = .ok less := by
  rw [compareItems_cons_eq (same?_int i i), compareItems_cons_eq (same?_str s s),
    compareItems_cons_eq (same?_of_isDiscrete ha hb)]
  simp only [beq_self_eq_true, if_true]
  by_cases hplace : a.place = b.place
  · have hfalse : less = false := by
      cases less with
      | false => rfl
      | true => exact absurd hplace (hne rfl)
    rw [decide_eq_true hplace, hfalse]
    rfl
  · rw [decide_eq_false hplace]
    exact hless

theorem rankCells_of_asInt? {a : Value} {n : Int} (h : a.asInt? = some n) :
    a.rankCells = [.int 0, .str "", a] := by
  cases a <;> cases h <;> rfl

theorem rankCells_eq_cons {a : Value} (h : a.isDiscrete = true) :
    exists rest, a.rankCells = .int (ofLex a.place).1 :: rest := by
  cases a <;> cases h <;> exact ⟨_, rfl⟩

theorem compareItems_rankCells_of_ne {a b : Value} (ha : a.isDiscrete = true)
    (hb : b.isDiscrete = true) (h : (ofLex a.place).1 ≠ (ofLex b.place).1) :
    compareItems .less a.rankCells b.rankCells = .ok (decide (a.place < b.place)) := by
  rcases rankCells_eq_cons ha with ⟨as, has⟩
  rcases rankCells_eq_cons hb with ⟨bs, hbs⟩
  rw [has, hbs, compareItems_kinds h]
  congr 1
  rw [decide_eq_decide, Prod.Lex.lt_iff]
  simp [h]

theorem lessThan_rank {a b : Value} (ha : a.isDiscrete = true) (hb : b.isDiscrete = true) :
    lessThan a.rank b.rank = .ok (decide (a.place < b.place)) := by
  rw [rank_eq_rankCells ha, rank_eq_rankCells hb, lessThan, compareWith]
  by_cases hkind : (ofLex a.place).1 = (ofLex b.place).1
  · rcases asInt?_cases ha with ⟨m, hm, _⟩ | rfl | ⟨s, rfl⟩
    · rcases asInt?_cases hb with ⟨n, hn, _⟩ | rfl | ⟨t, rfl⟩
      · rw [rankCells_of_asInt? hm, rankCells_of_asInt? hn,
          compareItems_same_kind ha hb (lessThan_of_asInt? hm hn)]
        · simp [place_of_asInt? hm, place_of_asInt? hn, Prod.Lex.toLex_lt_toLex]
        · intro hless heq
          simp [place_of_asInt? hm, place_of_asInt? hn] at hless heq
          omega
      · simp [place_of_asInt? hm] at hkind
      · simp [place_of_asInt? hm] at hkind
    · rcases asInt?_cases hb with ⟨n, hn, _⟩ | rfl | ⟨t, rfl⟩
      · simp [place_of_asInt? hn] at hkind
      · have hzero : lessThan (.int 0) (.int 0) = .ok false := rfl
        rw [rankCells, compareItems_same_kind rfl rfl hzero (by simp)]
        simp
      · simp at hkind
    · rcases asInt?_cases hb with ⟨n, hn, _⟩ | rfl | ⟨t, rfl⟩
      · simp [place_of_asInt? hn] at hkind
      · simp at hkind
      · rw [rankCells, rankCells, compareItems_same_kind ha hb (lessThan_str s t)]
        · simp [Prod.Lex.toLex_lt_toLex]
        · intro hless heq
          have hst : s = t := by simpa using heq
          exact ne_of_lt (of_decide_eq_true hless) hst
  · exact compareItems_rankCells_of_ne ha hb hkind

theorem compareItems_ranks_eq {as bs : List Value} (ha : forall a, a ∈ as -> a.isDiscrete = true)
    (hb : forall b, b ∈ bs -> b.isDiscrete = true) :
    compareItems .less (as.map rank) (bs.map rank) =
      .ok (decide (as.map place < bs.map place)) := by
  induction as generalizing bs with
  | nil =>
      cases bs with
      | nil => rfl
      | cons b bs =>
          simp [compareItems, Comparison.holds, Nat.compare_eq_lt]
  | cons a as ih =>
      cases bs with
      | nil =>
          simp [compareItems, Comparison.holds, Nat.compare_eq_lt]
      | cons b bs =>
          have hpa := ha a (List.mem_cons_self ..)
          have hpb := hb b (List.mem_cons_self ..)
          have hrest := ih (fun x hx => ha x (List.mem_cons_of_mem _ hx))
            (fun x hx => hb x (List.mem_cons_of_mem _ hx))
          have hfirst : compareWith .less a.rank b.rank = .ok (decide (a.place < b.place)) :=
            lessThan_rank hpa hpb
          simp only [List.map_cons, compareItems_cons_eq (same?_rank_eq hpa hpb), hrest, hfirst,
            List.cons_lt_cons_iff]
          by_cases hplace : a.place = b.place
          · simp [hplace]
          · simp [hplace]

end Value
end Wrangle
