import Mathlib.Algebra.Order.Floor.Div
import Wrangle.Proofs.Function.Ranks

/-!
# Buckets of nearly equal size

The values of a column are split into buckets by their places in the order of the values.
The places of one bucket are those between two multiples of the size that a bucket would
have if it could be divided evenly, so the sizes of buckets differ by one at most.
-/

namespace Wrangle
namespace Window

variable {x : Value} {items : List Value} {m n : Nat}

/-!
# Places of a bucket
-/

def bucketNumber (m n place : Nat) : Nat :=
  place * n / m + 1

theorem bucket_int (m n place : Nat) (hplace : place < m) :
    bucket m place (.int n) = .ok (.int (bucketNumber m n place)) := by
  have hm : (m : Int) ≠ 0 := by omega
  have hquotient : ((place : Int) * n).fdiv m = ((place * n / m : Nat) : Int) := by
    rw [Int.fdiv_eq_ediv_of_nonneg _ (Int.natCast_nonneg m)]
    norm_cast
  have hdivide : Value.floorDivide (.int ((place : Int) * n)) (.int m) =
      .ok (.int ((place : Int) * n |>.fdiv m)) := if_neg hm
  show (Value.floorDivide (.int ((place : Int) * n)) (.int m) >>= fun below =>
    below.add (.int 1)) = _
  rw [hdivide, ok_bind, hquotient]
  rfl

theorem bucketNumber_le (hn : 0 < n) {place : Nat} (hplace : place < m) :
    bucketNumber m n place ≤ n := by
  have hlt : place * n < m * n := Nat.mul_lt_mul_of_pos_right hplace hn
  exact Nat.div_lt_of_lt_mul hlt

theorem bucketNumber_mono {first second : Nat} (h : first ≤ second) :
    bucketNumber m n first ≤ bucketNumber m n second :=
  Nat.succ_le_succ (Nat.div_le_div_right (Nat.mul_le_mul_right n h))

theorem bucketNumber_eq_iff (hn : 0 < n) {k place : Nat} (hplace : place < m) :
    bucketNumber m n place = k + 1 <->
      (k * m) ⌈/⌉ n ≤ place ∧ place < ((k + 1) * m) ⌈/⌉ n := by
  have hm : 0 < m := by omega
  have hbetween : bucketNumber m n place = k + 1 <->
      k ≤ place * n / m ∧ place * n / m < k + 1 := by
    unfold bucketNumber
    omega
  rw [hbetween, Nat.le_div_iff_mul_le hm, Nat.div_lt_iff_lt_mul hm, Nat.mul_comm place,
    ceilDiv_le_iff_le_mul hn, ← not_le, ← not_le, ceilDiv_le_iff_le_mul hn]

theorem countP_between (low high : Nat) (hhigh : high ≤ m) :
    (List.range m).countP (fun place => decide (low ≤ place ∧ place < high)) = high - low := by
  have hcount : forall size, (List.range size).countP
      (fun place => decide (low ≤ place ∧ place < high)) = min high size - low := by
    intro size
    induction size with
    | zero => simp
    | succ size ih =>
        rw [List.range_succ, List.countP_append, ih, List.countP_singleton]
        by_cases hsize : low ≤ size ∧ size < high
        · rw [decide_eq_true hsize, if_pos rfl]
          omega
        · rw [decide_eq_false hsize, if_neg (by simp)]
          omega
  rw [hcount m, min_eq_left hhigh]

/-- The distance between two limits is the even size of a bucket, rounded down or up. -/
theorem limits_sub (hn : 0 < n) (k m : Nat) :
    ((k + 1) * m) ⌈/⌉ n - (k * m) ⌈/⌉ n = m / n ∨
      ((k + 1) * m) ⌈/⌉ n - (k * m) ⌈/⌉ n = m ⌈/⌉ n := by
  have hnext : (k + 1) * m = k * m + m := Nat.succ_mul k m
  have hlimit : (k + 1) * m ≤ n * (((k + 1) * m) ⌈/⌉ n) := (ceilDiv_le_iff_le_mul hn).1 le_rfl
  have hbefore : k * m ≤ n * ((k * m) ⌈/⌉ n) := (ceilDiv_le_iff_le_mul hn).1 le_rfl
  have hsize : m ≤ n * (m ⌈/⌉ n) := (ceilDiv_le_iff_le_mul hn).1 le_rfl
  have hfloor : n * (m / n) ≤ m := Nat.mul_div_le m n
  have hless : (k * m) ⌈/⌉ n ≤ ((k + 1) * m) ⌈/⌉ n - m / n := by
    rw [ceilDiv_le_iff_le_mul hn, Nat.mul_sub]
    omega
  have hmore : ((k + 1) * m) ⌈/⌉ n ≤ (k * m) ⌈/⌉ n + m ⌈/⌉ n := by
    rw [ceilDiv_le_iff_le_mul hn, Nat.mul_add]
    omega
  have hwithin : m / n ≤ ((k + 1) * m) ⌈/⌉ n := by
    apply Nat.le_of_mul_le_mul_left (Nat.le_trans hfloor ?_) hn
    omega
  have hnear : m ⌈/⌉ n ≤ m / n + 1 := by
    rw [ceilDiv_le_iff_le_mul hn, Nat.mul_succ]
    exact (Nat.lt_mul_div_succ m hn).le
  omega

theorem countP_bucketNumber (hn : 0 < n) {k : Nat} (hk : k < n) :
    (List.range m).countP (fun place => decide (bucketNumber m n place = k + 1)) =
      ((k + 1) * m) ⌈/⌉ n - (k * m) ⌈/⌉ n := by
  have hwithin : ((k + 1) * m) ⌈/⌉ n ≤ m := by
    rw [ceilDiv_le_iff_le_mul hn]
    exact Nat.mul_le_mul_right m hk
  rw [← countP_between _ _ hwithin]
  apply List.countP_congr
  intro place hplace
  rw [decide_eq_true_iff, decide_eq_true_iff, bucketNumber_eq_iff hn (List.mem_range.1 hplace)]

/-!
# Buckets of a column
-/

def bucketSize (buckets : List Value) (b : Nat) : Nat :=
  buckets.countP fun cell => decide (cell.asInt? = some (b : Int))

/-- Buckets for the integers of some cells: they are numbered, have nearly the same size, and ascend
with the integers, and with the positions of equal ones. -/
structure AreBuckets (n : Nat) (items buckets : List Value) : Prop where
  length : buckets.length = items.length
  missing : forall i : Nat, buckets[i]? = some .missing <-> items[i]? = some .missing
  numbered : forall (i : Nat) (v : Int), items[i]? = some (.int v) ->
    exists b : Nat, buckets[i]? = some (.int b) ∧ 1 ≤ b ∧ b ≤ n
  sized : forall b, 1 ≤ b -> b ≤ n ->
    bucketSize buckets b = (items.filterMap Value.asInt?).length / n ∨
      bucketSize buckets b = (items.filterMap Value.asInt?).length ⌈/⌉ n
  ascending : forall (i j : Nat) (v w a b : Int),
    items[i]? = some (.int v) -> items[j]? = some (.int w) ->
      buckets[i]? = some (.int a) -> buckets[j]? = some (.int b) ->
        v < w ∨ (v = w ∧ i < j) -> a ≤ b

def bucketsOf (n : Nat) (order : List (Nat × Int)) : List (Nat × Value) :=
  order.zipIdx.map fun entry => (entry.1.1, .int (bucketNumber order.length n entry.2))

theorem bucketsOf_positions (n : Nat) (order : List (Nat × Int)) :
    (bucketsOf n order).map Prod.fst = order.map Prod.fst := by
  have hcells := List.map_map (f := Prod.fst) (g := Prod.fst) (l := order.zipIdx)
  rw [List.zipIdx_map_fst] at hcells
  rw [bucketsOf, List.map_map]
  exact hcells.symm

theorem bucketsOf_ne_missing (n : Nat) (order : List (Nat × Int)) (entry : Nat × Value)
    (hentry : entry ∈ bucketsOf n order) : entry.2 ≠ .missing := by
  rcases List.mem_map.1 hentry with ⟨found, _, rfl⟩
  intro hmissing
  cases hmissing

theorem mem_bucketsOf {order : List (Nat × Int)} {place i : Nat} {v : Int}
    (h : order[place]? = some (i, v)) :
    (i, .int (bucketNumber order.length n place)) ∈ bucketsOf n order :=
  List.mem_map.2 ⟨((i, v), place), List.mem_zipIdx_iff_getElem?.2 h, rfl⟩

theorem countP_bucketsOf (order : List (Nat × Int)) (b : Nat) :
    (bucketsOf n order).countP (fun entry => decide (entry.2.asInt? = some (b : Int))) =
      (List.range order.length).countP
        fun place => decide (bucketNumber order.length n place = b) := by
  rw [bucketsOf, List.countP_map, List.range_eq_range', ← List.zipIdx_map_snd, List.countP_map]
  apply List.countP_congr
  intro entry _
  simp [Value.asInt?]

theorem places_ascend {order : List (Nat × Int)}
    (horder : IsArrangement Prod.snd (integersAt items) order) {first second i j : Nat} {v w : Int}
    (hfirst : order[first]? = some (i, v)) (hsecond : order[second]? = some (j, w))
    (hbefore : v < w ∨ (v = w ∧ i < j)) : first ≤ second := by
  rcases List.getElem?_eq_some_iff.1 hfirst with ⟨hfirstLt, hfirst⟩
  rcases List.getElem?_eq_some_iff.1 hsecond with ⟨hsecondLt, hsecond⟩
  by_contra hlt
  have hother := List.pairwise_iff_getElem.1 (horder.pairwise (integersAt_ascends items))
    second first hsecondLt hfirstLt (not_le.1 hlt)
  rw [hfirst, hsecond] at hother
  dsimp only at hother
  omega

theorem ntile_eq (hx : x.asList? = some items) {order : List (Nat × Int)}
    (hordered : Value.sortOn Prod.snd (present items) = .ok (order.map cellOf)) (n : Nat) :
    ntile x (.int n) = .ok (.list (scatter items.length (bucketsOf n order))) := by
  have hbuckets : ((order.map cellOf).zipIdx.mapM fun entry =>
      (bucket (order.map cellOf).length entry.2 (.int n)).map fun value => (entry.1.1, value)) =
        .ok (bucketsOf n order) := by
    rw [List.length_map, List.zipIdx_map, List.mapM_map]
    apply mapM_eq_ok
    rintro ⟨⟨i, v⟩, place⟩ hentry
    have hplace := List.mem_zipIdx_iff_getElem?.1 hentry
    have hlt : place < order.length := (List.getElem?_eq_some_iff.1 hplace).1
    show (bucket order.length place (.int n)).map (fun value => (i, value)) = _
    rw [bucket_int order.length n place hlt]
    rfl
  rw [ntile, ranked_eq hx hordered hbuckets]

/-- Integers that are split into buckets of nearly equal size, in their order. -/
theorem ntile_makes_buckets (hx : x.asList? = some items)
    (hwhole : forall item, item ∈ items -> item.isWhole = true) (hn : 1 ≤ n) :
    exists buckets, ntile x (.int n) = .ok (.list buckets) ∧ AreBuckets n items buckets := by
  rcases exists_ordered hwhole with ⟨order, hordered, horder⟩
  have hresults : AreResults items (bucketsOf n order) :=
    .of_order hwhole horder (bucketsOf_positions n order)
  have hcount : (items.filterMap Value.asInt?).length = order.length := by
    rw [← integersAt_values, List.length_map, horder.perm.length_eq]
  have hplaced : forall {i : Nat} {v : Int}, items[i]? = some (.int v) ->
      exists place, order[place]? = some (i, v) ∧
        (scatter items.length (bucketsOf n order))[i]? =
          some (.int (bucketNumber order.length n place)) := by
    intro i v hget
    have hentry := (horder.mem_iff (i, v)).2 ((mem_integersAt_iff hwhole).2 hget)
    rcases List.mem_iff_getElem?.1 hentry with ⟨place, hplace⟩
    exact ⟨place, hplace, hresults.getElem?_of_mem (mem_bucketsOf hplace)⟩
  refine ⟨_, ntile_eq hx hordered n, ?_, ?_, ?_, ?_, ?_⟩
  · exact scatter_length ..
  · exact fun i => hresults.getElem?_missing_iff hwhole (bucketsOf_ne_missing n order)
  · intro i v hget
    rcases hplaced hget with ⟨place, hplace, hbucket⟩
    have hlt := (List.getElem?_eq_some_iff.1 hplace).1
    exact ⟨_, hbucket, Nat.succ_pos _, bucketNumber_le hn hlt⟩
  · intro b hb hbn
    have hk : b - 1 < n := by omega
    have hsize : bucketSize (scatter items.length (bucketsOf n order)) b = _ :=
      hresults.countP_scatter (fun cell => decide (cell.asInt? = some (b : Int))) rfl
    rw [countP_bucketsOf, ← Nat.sub_add_cancel hb, countP_bucketNumber hn hk] at hsize
    rw [hcount, ← Nat.sub_add_cancel hb, hsize]
    exact limits_sub hn (b - 1) order.length
  · intro i j v w a b hi hj ha hb hbefore
    rcases hplaced hi with ⟨first, hfirst, hfirstBucket⟩
    rcases hplaced hj with ⟨second, hsecond, hsecondBucket⟩
    rw [ha] at hfirstBucket
    rw [hb] at hsecondBucket
    cases hfirstBucket
    cases hsecondBucket
    exact_mod_cast bucketNumber_mono (places_ascend horder hfirst hsecond hbefore)

/-- Four integers, of which two are equal, are split into three buckets. -/
theorem ntile_makes_buckets_tied :
    (Value.column tiedCells).asList? = some tiedCells ∧
      (forall item, item ∈ tiedCells -> item.isWhole = true) ∧ 1 ≤ 3 ∧
      exists buckets, ntile (.column tiedCells) (.int 3) = .ok (.list buckets) ∧
        AreBuckets 3 tiedCells buckets := by
  have hwhole : forall item, item ∈ tiedCells -> item.isWhole = true := by decide
  exact ⟨rfl, hwhole, by decide, ntile_makes_buckets rfl hwhole (by decide)⟩

example : ntile (.column tiedCells) (.int 3) =
    .ok (.list [.int 1, .missing, .int 1, .int 2, .int 3]) := rfl

end Window
end Wrangle
