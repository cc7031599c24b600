import Wrangle.Dataset.Partition
import Wrangle.Proofs.Outcome

/-!
# Faults of comparisons

A comparison fails when the values are of different kinds, or when it meets an
undefined decimal.  Plain cells hold no decimals, and by rank any two of them can
be compared.
-/

namespace Wrangle

open Number

namespace Value

/-!
# Parts of values
-/

mutual

/-- Whether a value that holds no others passes a test, or any value that a container holds. -/
def holds (test : Value -> Bool) : Value -> Bool
  | list items => anyHolds test items
  | column items => anyHolds test items
  | tuple items => anyHolds test items
  | dict entries => anyEntryHolds test entries
  | value => test value

def anyHolds (test : Value -> Bool) : List Value -> Bool
  | [] => false
  | value :: rest => holds test value || anyHolds test rest

def anyEntryHolds (test : Value -> Bool) : List (Value × Value) -> Bool
  | [] => false
  | (_, value) :: rest => holds test value || anyEntryHolds test rest

end

theorem anyHolds_of_asList? {test : Value -> Bool} {b : Value} {others : List Value}
    (h : b.asList? = some others) : anyHolds test others = b.holds test := by
  cases b with
  | list items =>
      cases h
      simp [holds]
  | column items =>
      cases h
      simp [holds]
  | _ => cases h

theorem anyEntryHolds_of_mem {test : Value -> Bool} {entries : List (Value × Value)}
    {entry : Value × Value} (h : entry ∈ entries) (hu : entry.2.holds test = true) :
    anyEntryHolds test entries = true := by
  induction entries with
  | nil => cases h
  | cons first rest ih =>
      rcases List.mem_cons.1 h with rfl | h
      · simp [anyEntryHolds, hu]
      · simp [anyEntryHolds, ih h]

/-!
# Equality
-/

section Signals

variable {test : Value -> Bool}

theorem holds_of_isSignaling (htest : forall v : Value, v.isSignaling = true -> test v = true)
    {a : Value} (h : a.isSignaling = true) : a.holds test = true := by
  cases a with
  | decimal d origin =>
      rw [holds]
      · exact htest _ h
      all_goals
        intros
        contradiction
  | _ => cases h

theorem holds_of_signalsSimple (htest : forall v : Value, v.isSignaling = true -> test v = true)
    {a b : Value} (h : signalsSimple a b = true) :
    a.holds test = true ∨ b.holds test = true := by
  simp only [signalsSimple, Bool.or_eq_true, Bool.and_eq_true] at h
  rcases h with ⟨h, _⟩ | ⟨h, _⟩
  · exact Or.inl (holds_of_isSignaling htest h)
  · exact Or.inr (holds_of_isSignaling htest h)

mutual

theorem holds_of_signals (htest : forall v : Value, v.isSignaling = true -> test v = true)
    (a b : Value) (h : signals a b = true) : a.holds test = true ∨ b.holds test = true := by
  unfold signals at h
  split at h
  · rename_i items
    split at h
    · rename_i others hothers
      rw [← anyHolds_of_asList? hothers, holds]
      exact holds_of_signalsWithin htest items others (Bool.and_eq_true_iff.1 h).2
    · cases h
  · rename_i items
    split at h
    · rename_i others hothers
      rw [← anyHolds_of_asList? hothers, holds]
      exact holds_of_signalsWithin htest items others (Bool.and_eq_true_iff.1 h).2
    · cases h
  · rename_i items others
    rw [holds, holds]
    exact holds_of_signalsWithin htest items others h
  · rename_i entries others
    rw [holds, holds]
    exact holds_of_signalsAmong htest entries others (Bool.and_eq_true_iff.1 h).2
  · exact holds_of_signalsSimple htest h
termination_by sizeOf a

theorem holds_of_signalsWithin
    (htest : forall v : Value, v.isSignaling = true -> test v = true) :
    forall (items others : List Value), signalsWithin items others = true ->
      anyHolds test items = true ∨ anyHolds test others = true
  | [], _, h => by simp [signalsWithin] at h
  | _ :: _, [], h => by simp [signalsWithin] at h
  | a :: as, b :: bs, h => by
      rw [signalsWithin] at h
      simp only [anyHolds, Bool.or_eq_true]
      split at h
      · rcases holds_of_signalsWithin htest as bs h with h | h
        · exact Or.inl (Or.inr h)
        · exact Or.inr (Or.inr h)
      · simp only [Bool.or_eq_true, Bool.and_eq_true] at h
        rcases h with h | ⟨_, h⟩
        · rcases holds_of_signals htest a b h with h | h
          · exact Or.inl (Or.inl h)
          · exact Or.inr (Or.inl h)
        · rcases holds_of_signalsWithin htest as bs h with h | h
          · exact Or.inl (Or.inr h)
          · exact Or.inr (Or.inr h)
termination_by items => sizeOf items

theorem holds_of_signalsAmong
    (htest : forall v : Value, v.isSignaling = true -> test v = true) :
    forall (entries others : List (Value × Value)), signalsAmong entries others = true ->
      anyEntryHolds test entries = true ∨ anyEntryHolds test others = true
  | [], _, h => by simp [signalsAmong] at h
  | (k, v) :: rest, others, h => by
      rw [signalsAmong] at h
      simp only [anyEntryHolds, Bool.or_eq_true]
      split at h
      · cases h
      · rename_i found hfound
        split at h
        · rcases holds_of_signalsAmong htest rest others h with h | h
          · exact Or.inl (Or.inr h)
          · exact Or.inr h
        · simp only [Bool.or_eq_true, Bool.and_eq_true] at h
          rcases h with h | ⟨_, h⟩
          · rcases holds_of_signals htest v found.2 h with h | h
            · exact Or.inl (Or.inl h)
            · exact Or.inr (anyEntryHolds_of_mem (List.mem_of_find?_eq_some hfound) h)
          · rcases holds_of_signalsAmong htest rest others h with h | h
            · exact Or.inl (Or.inr h)
            · exact Or.inr h
termination_by entries => sizeOf entries

end

end Signals

/-!
# Undefined numbers beside decimals
-/

def isUndefinedNumber : Value -> Bool
  | float x _ => Binary.isUndefined x
  | decimal d _ => d.isUndefined
  | _ => false

def MeetUndefined (a b : Value) : Prop :=
  (a.holds isUndefinedNumber = true ∨ b.holds isUndefinedNumber = true) ∧
    (a.holds isDecimal = true ∨ b.holds isDecimal = true)

theorem isUndefinedNumber_of_isSignaling {a : Value} (h : a.isSignaling = true) :
    isUndefinedNumber a = true := by
  cases a with
  | decimal d origin =>
      cases d with
      | undefined negative signaling payload => rfl
      | _ => cases h
  | _ => cases h

theorem isDecimal_of_isSignaling {a : Value} (h : a.isSignaling = true) :
    isDecimal a = true := by
  cases a with
  | decimal d origin => rfl
  | _ => cases h

theorem meetUndefined_of_signals {a b : Value} (h : signals a b = true) : MeetUndefined a b :=
  ⟨holds_of_signals (fun _ hv => isUndefinedNumber_of_isSignaling hv) a b h,
    holds_of_signals (fun _ hv => isDecimal_of_isSignaling hv) a b h⟩

theorem isUndefined_of_ofFloat {x : Float} (h : Extended.ofFloat x = .undefined) :
    Binary.isUndefined x = true := by
  unfold Extended.ofFloat Binary.exact at h
  unfold Binary.isUndefined
  cases hx : Binary.parts x with
  | finite negative mantissa exponent =>
      rw [hx] at h
      by_cases he : 0 <= exponent
      · simp [he] at h
      · simp [he] at h
  | infinite negative =>
      rw [hx] at h
      cases h
  | undefined => rfl

theorem isUndefined_of_ofDecimal {d : Decimal} (h : Extended.ofDecimal d = .undefined) :
    d.isUndefined = true := by
  cases d with
  | undefined negative signaling payload => rfl
  | infinite negative => cases h
  | finite negative coefficient exponent =>
      by_cases he : 0 <= exponent
      · simp [Extended.ofDecimal, Decimal.exact, he] at h
      · simp [Extended.ofDecimal, Decimal.exact, he] at h

theorem isUndefinedNumber_of_extended? {a : Value} (h : a.extended? = some .undefined) :
    a.holds isUndefinedNumber = true := by
  cases a with
  | float x origin => simpa [holds, isUndefinedNumber] using isUndefined_of_ofFloat (by
      simpa [extended?] using h)
  | decimal d origin => simpa [holds, isUndefinedNumber] using isUndefined_of_ofDecimal (by
      simpa [extended?] using h)
  | _ => cases h

theorem holds_isDecimal {a : Value} (h : a.isDecimal = true) : a.holds isDecimal = true := by
  cases a with
  | decimal d origin => simp [holds, isDecimal]
  | _ => cases h

/-!
# Comparisons
-/

def ComparisonFault (met : Prop) (f : Fault) : Prop :=
  f = .badType ∨ (f = .invalidDecimal ∧ met)

theorem same?_ends (a b : Value) :
    Ends (ComparisonFault (MeetUndefined a b)) (fun _ => True) (same? a b) := by
  unfold same? equals?
  split
  · trivial
  · split
    · rename_i h
      exact Or.inr ⟨rfl, meetUndefined_of_signals h⟩
    · trivial

theorem undefined_of_compare? {x y : Extended} (h : x.compare? y = none) :
    x = .undefined ∨ y = .undefined := by
  cases x with
  | undefined => exact Or.inl rfl
  | finite q =>
      cases y with
      | undefined => exact Or.inr rfl
      | finite r => cases h
      | infinite negative => cases negative <;> cases h
  | infinite negative =>
      cases y with
      | undefined => exact Or.inr rfl
      | finite r => cases negative <;> cases h
      | infinite other => cases negative <;> cases other <;> cases h

/-- A comparison of numbers fails only when an undefined one meets a decimal. -/
theorem compareNumbers_ends (c : Comparison) {a b : Value} {x y : Extended}
    (ha : a.extended? = some x) (hb : b.extended? = some y) :
    Ends (ComparisonFault (MeetUndefined a b)) (fun _ => True) (compareNumbers c a b x y) := by
  unfold compareNumbers
  split
  · trivial
  · rename_i hxy
    split
    · rename_i hd
      refine Or.inr ⟨rfl, ?_, ?_⟩
      · rcases undefined_of_compare? hxy with rfl | rfl
        · exact Or.inl (isUndefinedNumber_of_extended? ha)
        · exact Or.inr (isUndefinedNumber_of_extended? hb)
      · rcases Bool.or_eq_true_iff.1 hd with hd | hd
        · exact Or.inl (holds_isDecimal hd)
        · exact Or.inr (holds_isDecimal hd)
    · trivial

theorem compareSimple_ends (c : Comparison) (a b : Value) :
    Ends (ComparisonFault (MeetUndefined a b)) (fun _ => True) (compareSimple c a b) := by
  unfold compareSimple
  split
  · trivial
  · split
    · rename_i x y hx hy
      exact compareNumbers_ends c hx hy
    · split
      all_goals first | trivial | exact Or.inl rfl

theorem meetUndefined_tuple_cons {a b : Value} {as bs : List Value} (h : MeetUndefined a b) :
    MeetUndefined (.tuple (a :: as)) (.tuple (b :: bs)) := by
  simp only [MeetUndefined, holds, anyHolds, Bool.or_eq_true] at h ⊢
  rcases h with ⟨hu, hd⟩
  constructor
  · rcases hu with hu | hu
    · exact Or.inl (Or.inl hu)
    · exact Or.inr (Or.inl hu)
  · rcases hd with hd | hd
    · exact Or.inl (Or.inl hd)
    · exact Or.inr (Or.inl hd)

theorem meetUndefined_tuple_tail {a b : Value} {as bs : List Value}
    (h : MeetUndefined (.tuple as) (.tuple bs)) :
    MeetUndefined (.tuple (a :: as)) (.tuple (b :: bs)) := by
  simp only [MeetUndefined, holds, anyHolds, Bool.or_eq_true] at h ⊢
  rcases h with ⟨hu, hd⟩
  constructor
  · rcases hu with hu | hu
    · exact Or.inl (Or.inr hu)
    · exact Or.inr (Or.inr hu)
  · rcases hd with hd | hd
    · exact Or.inl (Or.inr hd)
    · exact Or.inr (Or.inr hd)

theorem meetUndefined_of_asList? {a b : Value} {items others : List Value}
    (ha : a.asList? = some items) (hb : b.asList? = some others)
    (h : MeetUndefined (.tuple items) (.tuple others)) : MeetUndefined a b := by
  simp only [MeetUndefined, holds, anyHolds_of_asList? ha, anyHolds_of_asList? hb] at h
  exact h

theorem ComparisonFault.mono {met more : Prop} {f : Fault} (h : ComparisonFault met f)
    (hmore : met -> more) : ComparisonFault more f := by
  rcases h with h | ⟨h, hm⟩
  · exact Or.inl h
  · exact Or.inr ⟨h, hmore hm⟩

mutual

/-- A comparison fails only for want of an order or when an undefined number meets a decimal. -/
theorem compareWith_ends (c : Comparison) (a b : Value) :
    Ends (ComparisonFault (MeetUndefined a b)) (fun _ => True) (compareWith c a b) := by
  unfold compareWith
  split
  · rename_i items
    split
    · rename_i others hothers
      exact (compareItems_ends c items others).imp
        (fun _ hf => hf.mono (meetUndefined_of_asList? rfl hothers)) (fun _ _ => trivial)
    · exact Or.inl rfl
  · rename_i items
    split
    · rename_i others hothers
      exact (compareItems_ends c items others).imp
        (fun _ hf => hf.mono (meetUndefined_of_asList? rfl hothers)) (fun _ _ => trivial)
    · exact Or.inl rfl
  · rename_i items others
    exact compareItems_ends c items others
  · exact compareSimple_ends c a b
termination_by sizeOf a

theorem compareItems_ends (c : Comparison) :
    forall (items others : List Value),
      Ends (ComparisonFault (MeetUndefined (.tuple items) (.tuple others))) (fun _ => True)
        (compareItems c items others)
  | a :: as, b :: bs => by
      have hsame := same?_ends a b
      rw [compareItems]
      split
      · rename_i f hf
        rw [hf] at hsame
        exact ComparisonFault.mono hsame meetUndefined_tuple_cons
      · exact (compareItems_ends c as bs).imp
          (fun _ hf => hf.mono meetUndefined_tuple_tail) (fun _ _ => trivial)
      · exact (compareWith_ends c a b).imp
          (fun _ hf => hf.mono meetUndefined_tuple_cons) (fun _ _ => trivial)
  | [], _ => trivial
  | _ :: _, [] => trivial
termination_by items => sizeOf items

end

/-!
# Plain cells
-/

/-- Cells as they come from data: missing values, truth values, numbers but decimals, and texts. -/
def isPlain : Value -> Bool
  | missing => true
  | bool _ => true
  | int _ => true
  | float _ _ => true
  | str _ => true
  | _ => false

def Succeeds (x : Except Fault alpha) : Prop :=
  Ends (fun _ => False) (fun _ => True) x

def isReal : Value -> Bool
  | bool _ => true
  | int _ => true
  | float _ _ => true
  | _ => false

theorem same?_int (m n : Int) : same? (.int m) (.int n) = .ok (m == n) := by
  simp [same?, equals?, identical, signals, signalsSimple, isSignaling, equals, equalsSimple,
    numbersEqual, asInt?]

theorem same?_str (s t : String) : same? (.str s) (.str t) = .ok (s == t) := by
  simp [same?, equals?, identical, signals, signalsSimple, isSignaling, equals, equalsSimple,
    numbersEqual, asInt?, extended?]

theorem same?_real {a b : Value} (ha : a.isReal = true) (hb : b.isReal = true) :
    Succeeds (same? a b) := by
  have hs : signals a b = false := by
    cases a <;> cases ha <;> cases b <;> cases hb <;> rfl
  unfold same? equals?
  rw [hs]
  split <;> trivial

theorem compareWith_real (c : Comparison) {a b : Value} (ha : a.isReal = true)
    (hb : b.isReal = true) : Succeeds (compareWith c a b) := by
  have hx : exists x, a.extended? = some x := by
    cases a <;> cases ha <;> exact ⟨_, rfl⟩
  have hy : exists y, b.extended? = some y := by
    cases b <;> cases hb <;> exact ⟨_, rfl⟩
  have hd : (a.isDecimal || b.isDecimal) = false := by
    cases a <;> cases ha <;> cases b <;> cases hb <;> rfl
  have hw : compareWith c a b = compareSimple c a b := by
    cases a <;> cases ha <;> rfl
  rcases hx with ⟨x, hx⟩
  rcases hy with ⟨y, hy⟩
  rw [hw]
  unfold compareSimple
  split
  · trivial
  · rw [hx, hy]
    simp only [compareNumbers, hd]
    split <;> trivial

/-- Two sequences can be compared when their first items can, and what follows them too
unless these differ. -/
theorem compareItems_cons {c : Comparison} {a b : Value} {as bs : List Value} {answer : Bool}
    (hsame : same? a b = .ok answer) (hfirst : Succeeds (compareWith c a b))
    (hrest : answer = true -> Succeeds (compareItems c as bs)) :
    Succeeds (compareItems c (a :: as) (b :: bs)) := by
  rw [compareItems, hsame]
  cases answer with
  | true => exact hrest rfl
  | false => exact hfirst

theorem compareWith_int (c : Comparison) (m n : Int) :
    Succeeds (compareWith c (.int m) (.int n)) :=
  compareWith_real c rfl rfl

theorem compareWith_str (c : Comparison) (s t : String) :
    Succeeds (compareWith c (.str s) (.str t)) := by
  trivial

inductive Comparable : Value -> Value -> Prop where
  | real {a b : Value} (ha : a.isReal = true) (hb : b.isReal = true) : Comparable a b
  | str (s t : String) : Comparable (.str s) (.str t)

theorem Comparable.succeeds {a b : Value} (h : Comparable a b) (c : Comparison) :
    Succeeds (same? a b) ∧ Succeeds (compareWith c a b) := by
  cases h with
  | real ha hb => exact ⟨same?_real ha hb, compareWith_real c ha hb⟩
  | str s t =>
      constructor
      · rw [same?_str]
        trivial
      · exact compareWith_str c s t

theorem rank_eq_of_isPlain {a : Value} (h : a.isPlain = true) :
    exists (i : Int) (s : String) (v : Value), a.rank = .tuple [.int i, .str s, v] ∧
      ((i ≠ 1 ∧ v.isReal = true) ∨ (i = 1 ∧ exists t, v = .str t)) := by
  cases a with
  | missing => exact ⟨2, "", .int 0, rfl, Or.inl ⟨by decide, rfl⟩⟩
  | bool b => exact ⟨0, "", .bool b, rfl, Or.inl ⟨by decide, rfl⟩⟩
  | int n => exact ⟨0, "", .int n, rfl, Or.inl ⟨by decide, rfl⟩⟩
  | float x origin => exact ⟨0, "", .float x origin, rfl, Or.inl ⟨by decide, rfl⟩⟩
  | str t => exact ⟨1, "str", .str t, rfl, Or.inr ⟨rfl, t, rfl⟩⟩
  | _ => cases h

theorem compareItems_nil (c : Comparison) : Succeeds (compareItems c [] []) :=
  trivial

theorem holds_isSignaling_rank {a : Value} (h : a.isPlain = true) :
    a.rank.holds isSignaling = false := by
  cases a <;> cases h <;> rfl

theorem same?_rank {a b : Value} (ha : a.isPlain = true) (hb : b.isPlain = true) :
    Succeeds (same? a.rank b.rank) := by
  have hs : signals a.rank b.rank = false := by
    cases h : signals a.rank b.rank with
    | false => rfl
    | true =>
        have hholds := holds_of_signals (fun _ hv => hv) a.rank b.rank h
        rw [holds_isSignaling_rank ha, holds_isSignaling_rank hb] at hholds
        rcases hholds with hholds | hholds <;> cases hholds
  unfold same? equals?
  rw [hs]
  split <;> trivial

theorem compareWith_rank (c : Comparison) {a b : Value} (ha : a.isPlain = true)
    (hb : b.isPlain = true) : Succeeds (compareWith c a.rank b.rank) := by
  rcases rank_eq_of_isPlain ha with ⟨i, s, v, hra, hv⟩
  rcases rank_eq_of_isPlain hb with ⟨j, t, w, hrb, hw⟩
  rw [hra, hrb, compareWith]
  apply compareItems_cons (same?_int i j) (compareWith_int c i j)
  intro hij
  apply compareItems_cons (same?_str s t) (compareWith_str c s t)
  intro _
  have hvw : Comparable v w := by
    rcases hv with ⟨hi, hv⟩ | ⟨hi, x, rfl⟩
    · rcases hw with ⟨hj, hw⟩ | ⟨hj, _⟩
      · exact .real hv hw
      · exact absurd ((beq_iff_eq.1 hij).trans hj) hi
    · rcases hw with ⟨hj, hw⟩ | ⟨hj, y, rfl⟩
      · exact absurd ((beq_iff_eq.1 hij).symm.trans hi) hj
      · exact .str x y
  rcases Ends.exists_ok (hvw.succeeds c).1 with ⟨answer, hsame, _⟩
  exact compareItems_cons hsame (hvw.succeeds c).2 fun _ => compareItems_nil c

theorem compareItems_ranks (c : Comparison) {as bs : List Value}
    (ha : forall a, a ∈ as -> a.isPlain = true) (hb : forall b, b ∈ bs -> b.isPlain = true) :
    Succeeds (compareItems c (as.map rank) (bs.map rank)) := by
  induction as generalizing bs with
  | nil => trivial
  | cons a as ih =>
      cases bs with
      | nil => trivial
      | cons b bs =>
          have hpa := ha a (List.mem_cons_self ..)
          have hpb := hb b (List.mem_cons_self ..)
          rcases Ends.exists_ok (same?_rank hpa hpb) with ⟨answer, hsame, _⟩
          exact compareItems_cons hsame (compareWith_rank c hpa hpb) fun _ =>
            ih (fun x hx => ha x (List.mem_cons_of_mem _ hx))
              (fun x hx => hb x (List.mem_cons_of_mem _ hx))

/-!
# Sameness of discrete cells

Missing values, truth values, integers and texts are the same just when they stand
for the same thing, truth values for zero and one.  Among such cells, and among
keys that are made of them, sameness is an equivalence.
-/

/-- Cells that are the same only if they are alike, unlike numbers that are rounded or undefined. -/
def isDiscrete : Value -> Bool
  | missing => true
  | bool _ => true
  | int _ => true
  | str _ => true
  | _ => false

/-- What a discrete cell stands for. -/
def standard : Value -> Value
  | bool b => int (if b then 1 else 0)
  | value => value

theorem isPlain_of_isDiscrete {a : Value} (h : a.isDiscrete = true) : a.isPlain = true := by
  cases a <;> first | rfl | cases h

theorem identical_of_isDiscrete {a b : Value} (h : a.isDiscrete = true) :
    identical a b = false := by
  cases a <;> first | rfl | cases h

theorem equals_eq_equalsSimple {a b : Value} (h : a.isDiscrete = true) :
    equals a b = equalsSimple a b := by
  cases a <;> cases h <;> simp [equals]

theorem equalsSimple_of_asInt? {a b : Value} {m n : Int} (ha : a.asInt? = some m)
    (hb : b.asInt? = some n) : equalsSimple a b = (m == n) := by
  unfold equalsSimple numbersEqual
  rw [ha, hb]

theorem asInt?_cases {a : Value} (h : a.isDiscrete = true) :
    (exists n, a.asInt? = some n ∧ a.standard = .int n) ∨
      (a = .missing ∨ exists s, a = .str s) := by
  cases a with
  | missing => exact Or.inr (Or.inl rfl)
  | bool b => exact Or.inl ⟨_, rfl, rfl⟩
  | int n => exact Or.inl ⟨n, rfl, rfl⟩
  | str s => exact Or.inr (Or.inr ⟨s, rfl⟩)
  | _ => cases h

theorem same_iff {a b : Value} (ha : a.isDiscrete = true) (hb : b.isDiscrete = true) :
    (identical a b || equals a b) = true <-> a.standard = b.standard := by
  rw [identical_of_isDiscrete ha, equals_eq_equalsSimple ha, Bool.false_or]
  rcases asInt?_cases ha with ⟨m, hm, hma⟩ | ha
  · rcases asInt?_cases hb with ⟨n, hn, hnb⟩ | hb
    · rw [equalsSimple_of_asInt? hm hn, hma, hnb]
      simp
    · rw [hma]
      rcases hb with rfl | ⟨t, rfl⟩ <;> cases a <;> cases hm <;>
        simp [equalsSimple, numbersEqual, asInt?, extended?, standard]
  · rcases asInt?_cases hb with ⟨n, hn, hnb⟩ | hb
    · rw [hnb]
      rcases ha with rfl | ⟨s, rfl⟩ <;> cases b <;> cases hn <;>
        simp [equalsSimple, numbersEqual, asInt?, extended?, standard]
    · rcases ha with rfl | ⟨s, rfl⟩ <;> rcases hb with rfl | ⟨t, rfl⟩ <;>
        simp [equalsSimple, numbersEqual, asInt?, extended?, standard]

theorem sameAll_iff {as bs : List Value} (ha : forall a, a ∈ as -> a.isDiscrete = true)
    (hb : forall b, b ∈ bs -> b.isDiscrete = true) :
    sameAll as bs = true <-> as.map standard = bs.map standard := by
  induction as generalizing bs with
  | nil => cases bs <;> simp [sameAll]
  | cons a as ih =>
      cases bs with
      | nil => simp [sameAll]
      | cons b bs =>
          have hhead := same_iff (ha a (List.mem_cons_self ..)) (hb b (List.mem_cons_self ..))
          have htail := ih (fun x hx => ha x (List.mem_cons_of_mem _ hx))
            (fun x hx => hb x (List.mem_cons_of_mem _ hx))
          rw [sameAll, Bool.and_eq_true, hhead, htail, List.map_cons, List.map_cons,
            List.cons.injEq]

/-!
# Ranks
-/

theorem isOrdered_rank {a : Value} (h : a.isDiscrete = true) : a.rank.isOrdered = true := by
  cases a <;> first | rfl | cases h

theorem areOrdered_of_forall {values : List Value}
    (h : forall value, value ∈ values -> value.isOrdered = true) : areOrdered values = true := by
  induction values with
  | nil => rfl
  | cons value rest ih =>
      rw [areOrdered, h value (List.mem_cons_self ..),
        ih fun other hother => h other (List.mem_cons_of_mem _ hother)]
      rfl

end Value
end Wrangle
