import Wrangle.Function.Window
import Wrangle.Proofs.Dataset.Parts
import Wrangle.Proofs.Function.Statistics
import Wrangle.Proofs.Value.Stability

/-!
# Ranks of integers

A value is ranked by a walk through the values in their order, which only compares
neighbours.  For integers the ranks count values: all that are smaller, or the different
ones among them.  So they depend on the values alone, and on no order of these.
-/

namespace Wrangle

open Dataset

namespace Window

variable {x : Value} {items : List Value}

/-!
# Integers in their order
-/

def integersAt (items : List Value) : List (Nat × Int) :=
  items.zipIdx.filterMap fun entry => entry.1.asInt?.map fun n => (entry.2, n)

def cellOf (entry : Nat × Int) : Nat × Value :=
  (entry.1, .int entry.2)

theorem integersAt_values (items : List Value) :
    (integersAt items).map Prod.snd = items.filterMap Value.asInt? := by
  have hsnd : forall entry : Value × Nat,
      (entry.1.asInt?.map fun n => (entry.2, n)).map Prod.snd = entry.1.asInt? := by
    intro entry
    rw [Option.map_map]
    exact Option.map_id'
  rw [integersAt, List.map_filterMap]
  simp only [hsnd]
  have hcells := List.filterMap_map (f := Prod.fst) (g := Value.asInt?) (l := items.zipIdx)
  rw [List.zipIdx_map_fst] at hcells
  exact hcells.symm

theorem integersAt_ascends (items : List Value) :
    (integersAt items).Pairwise fun a b => a.1 < b.1 := by
  have hpositions : items.zipIdx.Pairwise fun a b => a.2 < b.2 := by
    rw [← List.pairwise_map (f := Prod.snd) (R := (· < ·)), List.zipIdx_map_snd]
    exact List.pairwise_lt_range'
  refine List.pairwise_filterMap.2 (hpositions.imp ?_)
  intro a b hab first hfirst second hsecond
  rcases Option.map_eq_some_iff.1 hfirst with ⟨_, _, rfl⟩
  rcases Option.map_eq_some_iff.1 hsecond with ⟨_, _, rfl⟩
  exact hab

theorem mem_integersAt_iff (hwhole : forall item, item ∈ items -> item.isWhole = true) {i : Nat}
    {n : Int} : (i, n) ∈ integersAt items <-> items[i]? = some (.int n) := by
  rw [integersAt, List.mem_filterMap]
  constructor
  · rintro ⟨⟨item, j⟩, hentry, hitem⟩
    rcases Option.map_eq_some_iff.1 hitem with ⟨m, hm, heq⟩
    cases heq
    have hget := List.mem_zipIdx_iff_getElem?.1 hentry
    have hkind := hwhole item (List.mem_of_getElem? hget)
    cases item with
    | int k =>
        cases hm
        exact hget
    | missing => cases hm
    | _ => cases hkind
  · intro hget
    exact ⟨(.int n, i), List.mem_zipIdx_iff_getElem?.2 hget, rfl⟩

theorem present_eq (hwhole : forall item, item ∈ items -> item.isWhole = true) :
    present items = (integersAt items).map cellOf := by
  rw [present, integersAt, List.map_filterMap]
  apply List.filterMap_congr
  intro entry hentry
  have hkind := hwhole entry.1 (List.fst_mem_of_mem_zipIdx hentry)
  rcases entry with ⟨item, i⟩
  cases item <;> first | rfl | cases hkind

theorem exists_ordered (hwhole : forall item, item ∈ items -> item.isWhole = true) :
    exists order, Value.sortOn Prod.snd (present items) = .ok (order.map cellOf) ∧
      IsArrangement Prod.snd (integersAt items) order := by
  have hless : ComparesPlaces (fun entry : Nat × Value => exists n, entry.2 = .int n)
      (fun entry => entry.2.asInt?.getD 0) fun a b => Value.lessThan a.2 b.2 := by
    rintro ⟨i, _⟩ ⟨j, _⟩ ⟨m, rfl⟩ ⟨n, rfl⟩
    exact Value.lessThan_of_asInt? rfl rfl
  have hints : forall entry, entry ∈ (integersAt items).map cellOf ->
      exists n, entry.2 = .int n := by
    intro entry hentry
    rcases List.mem_map.1 hentry with ⟨found, _, rfl⟩
    exact ⟨found.2, rfl⟩
  have hordered : forall entry, entry ∈ (integersAt items).map cellOf ->
      entry.2.isOrdered = true := by
    intro entry hentry
    rcases hints entry hentry with ⟨n, hn⟩
    rw [hn]
    rfl
  rcases Value.exists_sortOn hless hordered hints with ⟨sorted, hsorted, harranged⟩
  rcases harranged.exists_map with ⟨order, horder, rfl⟩
  refine ⟨order, ?_, horder⟩
  rw [present_eq hwhole, hsorted]

theorem itemAt_ofNat {item : Value} {i : Nat} (hget : items[i]? = some item) :
    Value.itemAt items (Int.ofNat i) = .ok item := by
  have hnonneg : ¬Int.ofNat i < 0 := Int.not_lt.2 (Int.natCast_nonneg i)
  unfold Value.itemAt
  rw [if_neg hnonneg]
  dsimp only
  rw [if_neg hnonneg, Int.ofNat_eq_natCast, Int.toNat_natCast, hget]

theorem positioned_of_asList? (hx : x.asList? = some items) :
    positioned x items = .ok (present items) := by
  have hfound : forall entry, entry ∈ present items ->
      ((x.valueAt (.int (Int.ofNat entry.1))).map fun value => (entry.1, value)) =
        .ok (id entry) := by
    rintro ⟨i, item⟩ hentry
    rcases List.mem_filterMap.1 hentry with ⟨⟨found, j⟩, hmem, hpresent⟩
    have hget := List.mem_zipIdx_iff_getElem?.1 hmem
    dsimp only at hpresent
    split at hpresent
    · cases hpresent
    · cases hpresent
      have hat : x.valueAt (.int (Int.ofNat i)) = Value.itemAt items (Int.ofNat i) := by
        cases x <;> cases hx <;> rfl
      rw [hat, itemAt_ofNat hget]
      rfl
  rw [positioned, mapM_eq_ok hfound, List.map_id]

theorem ranked_eq (hx : x.asList? = some items) {order results : List (Nat × Value)}
    {place : List (Nat × Value) -> Except Fault (List (Nat × Value))}
    (hordered : Value.sortOn Prod.snd (present items) = .ok order)
    (hplace : place order = .ok results) :
    ranked x place = .ok (.list (scatter items.length results)) := by
  have hsize : x.size = .ok items.length := by
    cases x <;> cases hx <;> rfl
  have hitems : x.iterate = .ok items := by
    cases x <;> cases hx <;> rfl
  rw [ranked, hsize, ok_bind, hitems, ok_bind, positioned_of_asList? hx, ok_bind, hordered,
    ok_bind, hplace, ok_bind]

/-!
# Results at their positions
-/

theorem lookup_iff_mem {results : List (Nat × Value)} (hkeys : (results.map Prod.fst).Nodup)
    {i : Nat} {value : Value} : results.lookup i = some value <-> (i, value) ∈ results := by
  induction results with
  | nil => simp
  | cons entry rest ih =>
      rcases List.nodup_cons.1 hkeys with ⟨hnew, hrest⟩
      rw [List.lookup_cons, List.mem_cons]
      by_cases hi : i = entry.1
      · have hother : (i, value) ∉ rest := fun hmem => hnew (hi ▸ List.mem_map_of_mem hmem)
        simp [hi, Prod.ext_iff, hi ▸ hother, eq_comm]
      · have hne : (i == entry.1) = false := by simpa using hi
        simp [hne, ih hrest, Prod.ext_iff, hi]

theorem scatter_length (size : Nat) (results : List (Nat × Value)) :
    (scatter size results).length = size := by
  simp [scatter]

/-- Results for the integers of some cells, one for each. -/
structure AreResults (items : List Value) (results : List (Nat × Value)) : Prop where
  distinct : (results.map Prod.fst).Nodup
  positions : forall i, i ∈ results.map Prod.fst <-> exists n, items[i]? = some (.int n)

namespace AreResults

variable {results : List (Nat × Value)} {i : Nat}

theorem of_order (hwhole : forall item, item ∈ items -> item.isWhole = true)
    {order : List (Nat × Int)} (horder : IsArrangement Prod.snd (integersAt items) order)
    (hresults : results.map Prod.fst = order.map Prod.fst) : AreResults items results := by
  constructor
  · rw [hresults, (horder.perm.map Prod.fst).nodup_iff, List.Nodup, List.pairwise_map]
    exact (integersAt_ascends items).imp fun hlt => Nat.ne_of_lt hlt
  · intro i
    rw [hresults, List.mem_map]
    constructor
    · rintro ⟨⟨i, n⟩, hentry, rfl⟩
      exact ⟨n, (mem_integersAt_iff hwhole).1 ((horder.mem_iff _).1 hentry)⟩
    · rintro ⟨n, hget⟩
      exact ⟨(i, n), (horder.mem_iff _).2 ((mem_integersAt_iff hwhole).2 hget), rfl⟩

variable (h : AreResults items results)
include h

theorem getElem?_of_mem {value : Value} (hentry : (i, value) ∈ results) :
    (scatter items.length results)[i]? = some value := by
  rcases (h.positions i).1 (List.mem_map_of_mem hentry) with ⟨n, hget⟩
  rcases List.getElem?_eq_some_iff.1 hget with ⟨hi, _⟩
  simp [scatter, hi, (lookup_iff_mem h.distinct).2 hentry]

theorem getElem?_of_missing (hget : items[i]? = some .missing) :
    (scatter items.length results)[i]? = some .missing := by
  rcases List.getElem?_eq_some_iff.1 hget with ⟨hi, _⟩
  have hnone : results.lookup i = none := by
    rw [Option.eq_none_iff_forall_ne_some]
    intro value hvalue
    rcases (h.positions i).1 (List.mem_map_of_mem ((lookup_iff_mem h.distinct).1 hvalue)) with
      ⟨n, hn⟩
    rw [hget] at hn
    cases hn
  simp [scatter, hi, hnone]

theorem getElem?_missing_iff (hwhole : forall item, item ∈ items -> item.isWhole = true)
    (hsome : forall entry, entry ∈ results -> entry.2 ≠ .missing) :
    (scatter items.length results)[i]? = some .missing <-> items[i]? = some .missing := by
  constructor
  · intro hfound
    have hi : i < items.length := by
      rw [← scatter_length items.length]
      exact (List.getElem?_eq_some_iff.1 hfound).1
    have hget := List.getElem?_eq_getElem hi
    have hkind := hwhole _ (List.getElem_mem hi)
    cases hitem : items[i] with
    | missing => rw [hget, hitem]
    | int n =>
        rw [hitem] at hget
        rcases List.mem_map.1 ((h.positions i).2 ⟨n, hget⟩) with ⟨⟨i, value⟩, hentry, rfl⟩
        rw [h.getElem?_of_mem hentry] at hfound
        exact absurd (Option.some.inj hfound) (hsome _ hentry)
    | _ =>
        rw [hitem] at hkind
        cases hkind
  · exact h.getElem?_of_missing

theorem countP_scatter (test : Value -> Bool) (htest : test .missing = false) :
    (scatter items.length results).countP test = results.countP fun entry => test entry.2 := by
  have hperm : ((List.range items.length).filter
      fun i => test ((results.lookup i).getD .missing)).Perm
        ((results.filter fun entry => test entry.2).map Prod.fst) := by
    rw [List.perm_ext_iff_of_nodup (List.nodup_range.filter _)
      (h.distinct.sublist (List.filter_sublist.map Prod.fst))]
    intro i
    rw [List.mem_filter, List.mem_range, List.mem_map]
    constructor
    · rintro ⟨_, hi⟩
      cases hvalue : results.lookup i with
      | none =>
          rw [hvalue, Option.getD_none, htest] at hi
          cases hi
      | some value =>
          rw [hvalue] at hi
          exact ⟨(i, value), List.mem_filter.2 ⟨(lookup_iff_mem h.distinct).1 hvalue, hi⟩, rfl⟩
    · rintro ⟨⟨i, value⟩, hentry, rfl⟩
      rcases List.mem_filter.1 hentry with ⟨hentry, hvalue⟩
      rcases (h.positions i).1 (List.mem_map_of_mem hentry) with ⟨n, hget⟩
      rw [(lookup_iff_mem h.distinct).2 hentry]
      exact ⟨(List.getElem?_eq_some_iff.1 hget).1, hvalue⟩
  have hlength := hperm.length_eq
  rw [List.length_map] at hlength
  rw [scatter, List.countP_map, List.countP_eq_length_filter, List.countP_eq_length_filter]
  exact hlength

end AreResults

def ofInteger (result : Int -> Value) : Value -> Value
  | .int n => result n
  | _ => .missing

theorem scatter_eq (hwhole : forall item, item ∈ items -> item.isWhole = true)
    {order : List (Nat × Int)} (horder : IsArrangement Prod.snd (integersAt items) order)
    (result : Int -> Value) :
    scatter items.length (order.map fun entry => (entry.1, result entry.2)) =
      items.map (ofInteger result) := by
  have hresults : AreResults items (order.map fun entry => (entry.1, result entry.2)) :=
    .of_order hwhole horder (List.map_map ..)
  apply List.ext_getElem?
  intro i
  rw [List.getElem?_map]
  cases hget : items[i]? with
  | none => simpa [scatter_length] using hget
  | some item =>
      have hkind := hwhole item (List.mem_of_getElem? hget)
      cases item with
      | missing => exact hresults.getElem?_of_missing hget
      | int n =>
          apply hresults.getElem?_of_mem
          exact List.mem_map_of_mem
            ((horder.mem_iff (i, n)).2 ((mem_integersAt_iff hwhole).2 hget))
      | _ => cases hkind

/-!
# Counting smaller integers
-/

/-- The number of integers that are smaller than one. -/
def smallerCount (ns : List Int) (n : Int) : Nat :=
  (ns.filter (· < n)).length

/-- The number of different integers that are smaller than one. -/
def distinctSmallerCount (ns : List Int) (n : Int) : Nat :=
  (ns.filter (· < n)).dedup.length

theorem filter_smaller {before after : List Int} {n : Int}
    (h : (before ++ n :: after).Pairwise (· ≤ ·)) :
    (before ++ n :: after).filter (· < n) = before.filter (· < n) := by
  have hnone : (n :: after).filter (fun m => decide (m < n)) = [] := by
    rw [List.filter_eq_nil_iff]
    intro m hm
    have hle : n ≤ m := by
      rcases List.mem_cons.1 hm with rfl | hm
      · exact le_rfl
      · exact (List.pairwise_cons.1 (List.pairwise_append.1 h).2.1).1 m hm
    simpa using hle
  rw [List.filter_append, hnone, List.append_nil]

theorem length_dedup_append {ns : List Int} {n : Int} (h : forall m, m ∈ ns -> m ≤ n) :
    (ns ++ [n]).dedup.length = distinctSmallerCount ns n + 1 := by
  have hperm : (ns ++ [n]).dedup.Perm (n :: (ns.filter (· < n)).dedup) := by
    rw [List.perm_ext_iff_of_nodup (List.nodup_dedup _)]
    · intro m
      simp only [List.mem_dedup, List.mem_append, List.mem_cons, List.mem_filter,
        List.not_mem_nil, or_false, decide_eq_true_iff]
      constructor
      · rintro (hm | rfl)
        · rcases lt_or_eq_of_le (h m hm) with hlt | heq
          · exact .inr ⟨hm, hlt⟩
          · exact .inl heq
        · exact .inl rfl
      · rintro (rfl | ⟨hm, _⟩)
        · exact .inr rfl
        · exact .inl hm
    · refine List.nodup_cons.2 ⟨?_, List.nodup_dedup _⟩
      simp
  rw [hperm.length_eq, List.length_cons, distinctSmallerCount]

/-!
# Walks through ascending integers
-/

theorem repeats_int (last : Option Int) (n : Int) :
    repeats (last.map .int) (.int n) = .ok (decide (last = some n)) := by
  cases last with
  | none => rfl
  | some m =>
      rw [Option.map_some, repeats, Value.equals?, Value.signals_of_isDiscrete rfl rfl,
        if_neg (by simp), Value.equals]
      · congr 1
        rw [Bool.eq_iff_iff, decide_eq_true_iff, Option.some.injEq]
        show (n == m) = true <-> m = n
        rw [beq_iff_eq, eq_comm]
      all_goals simp

section Walk

variable {before after : List Int} {n : Int}

/-- Where the last integer so far is not the next one, all integers so far are smaller. -/
theorem smaller_of_last_ne (h : (before ++ n :: after).Pairwise (· ≤ ·))
    (hlast : before.getLast? ≠ some n) : forall m, m ∈ before -> m < n := by
  rcases List.eq_nil_or_concat before with rfl | ⟨front, last, rfl⟩
  · intro m hm
    cases hm
  · rcases List.pairwise_append.1 h with ⟨hfront, _, hacross⟩
    have hle : last ≤ n := hacross last (by simp) n List.mem_cons_self
    have hlt : last < n := lt_of_le_of_ne hle fun heq => hlast (by simp [heq])
    intro m hm
    rcases List.mem_append.1 (List.concat_eq_append ▸ hm) with hm | hm
    · rw [List.concat_eq_append] at hfront
      exact lt_of_le_of_lt ((List.pairwise_append.1 hfront).2.2 m hm last (by simp)) hlt
    · rw [List.mem_singleton.1 hm]
      exact hlt

/-- Behind the integers so far, the next one is either their last or greater than all of them. -/
theorem rank_step (h : (before ++ n :: after).Pairwise (· ≤ ·)) {rank : Nat}
    (hrank : forall m, before.getLast? = some m -> rank = smallerCount before m + 1) :
    (if before.getLast? = some n then rank else before.length + 1) =
      smallerCount (before ++ n :: after) n + 1 := by
  rw [smallerCount, filter_smaller h]
  by_cases hlast : before.getLast? = some n
  · rw [if_pos hlast, hrank n hlast, smallerCount]
  · rw [if_neg hlast, List.filter_eq_self.2]
    exact fun m hm => decide_eq_true (smaller_of_last_ne h hlast m hm)

theorem dedup_step (h : (before ++ n :: after).Pairwise (· ≤ ·)) :
    (if before.getLast? = some n then before.dedup.length else before.dedup.length + 1) =
      (before ++ [n]).dedup.length := by
  by_cases hlast : before.getLast? = some n
  · have hmem : n ∈ before := List.mem_of_getLast? hlast
    have hperm : (before ++ [n]).dedup.Perm before.dedup := by
      rw [List.perm_ext_iff_of_nodup (List.nodup_dedup _) (List.nodup_dedup _)]
      intro m
      simp only [List.mem_dedup, List.mem_append, List.mem_singleton]
      exact ⟨fun hm => hm.elim id (fun heq => heq ▸ hmem), Or.inl⟩
    rw [if_pos hlast, hperm.length_eq]
  · have hsmaller := smaller_of_last_ne h hlast
    have hall : before.filter (· < n) = before :=
      List.filter_eq_self.2 fun m hm => decide_eq_true (hsmaller m hm)
    rw [if_neg hlast, length_dedup_append fun m hm => le_of_lt (hsmaller m hm),
      distinctSmallerCount, hall]

end Walk

theorem minRanksFrom_eq {rest : List (Nat × Int)} : forall (before : List Int) {rank : Nat},
    (before ++ rest.map Prod.snd).Pairwise (· ≤ ·) ->
      (forall m, before.getLast? = some m -> rank = smallerCount before m + 1) ->
        minRanksFrom (before.length + 1) rank (before.getLast?.map .int) (rest.map cellOf) =
          .ok (rest.map fun entry =>
            (entry.1, smallerCount (before ++ rest.map Prod.snd) entry.2 + 1)) := by
  induction rest with
  | nil => exact fun _ _ _ _ => rfl
  | cons entry rest ih =>
      intro before rank h hrank
      rw [List.map_cons] at h
      have hstep := rank_step h hrank
      have hmoved := (List.append_cons before entry.2 (rest.map Prod.snd)).symm
      have hnext : forall m, (before ++ [entry.2]).getLast? = some m ->
          smallerCount (before ++ entry.2 :: rest.map Prod.snd) entry.2 + 1 =
            smallerCount (before ++ [entry.2]) m + 1 := by
        intro m hm
        rw [List.getLast?_concat] at hm
        cases hm
        have hprefix : (before ++ [entry.2]).Pairwise (· ≤ ·) := by
          rw [← hmoved] at h
          exact (List.pairwise_append.1 h).1
        rw [smallerCount, smallerCount, filter_smaller h, filter_smaller hprefix]
      have hrest := ih (before ++ [entry.2]) (hmoved ▸ h) hnext
      rw [List.length_append, List.length_singleton, List.getLast?_concat, hmoved] at hrest
      rw [List.map_cons, cellOf, minRanksFrom, repeats_int]
      dsimp only
      simp only [decide_eq_true_iff]
      rw [Option.map_some] at hrest
      rw [hstep, hrest]
      rfl

theorem denseRanksFrom_eq {rest : List (Nat × Int)} : forall (before : List Int),
    (before ++ rest.map Prod.snd).Pairwise (· ≤ ·) ->
      denseRanksFrom before.dedup.length (before.getLast?.map .int) (rest.map cellOf) =
        .ok (rest.map fun entry =>
          (entry.1, distinctSmallerCount (before ++ rest.map Prod.snd) entry.2 + 1)) := by
  induction rest with
  | nil => exact fun _ _ => rfl
  | cons entry rest ih =>
      intro before h
      rw [List.map_cons] at h
      have hstep := dedup_step h
      have hmoved := (List.append_cons before entry.2 (rest.map Prod.snd)).symm
      have hupTo : forall m, m ∈ before -> m ≤ entry.2 := fun m hm =>
        (List.pairwise_append.1 h).2.2 m hm entry.2 List.mem_cons_self
      have hrank : (before ++ [entry.2]).dedup.length =
          distinctSmallerCount (before ++ entry.2 :: rest.map Prod.snd) entry.2 + 1 := by
        rw [length_dedup_append hupTo, distinctSmallerCount, distinctSmallerCount, filter_smaller h]
      have hrest := ih (before ++ [entry.2]) (hmoved ▸ h)
      rw [List.getLast?_concat, hmoved, hrank] at hrest
      rw [List.map_cons, cellOf, denseRanksFrom, repeats_int]
      by_cases hlast : before.getLast? = some entry.2
      · rw [decide_eq_true hlast]
        rw [if_pos hlast, hrank] at hstep
        dsimp only
        rw [hlast, hstep]
        rw [Option.map_some] at hrest ⊢
        rw [hrest]
        rfl
      · rw [decide_eq_false hlast]
        rw [if_neg hlast, hrank] at hstep
        dsimp only
        rw [hstep]
        rw [Option.map_some] at hrest
        rw [hrest]
        rfl

/-!
# Ranks of columns
-/

/-- The cells with a rank for each integer, which is one more than what is counted for it. -/
def rankedBy (count : List Int -> Int -> Nat) (items : List Value) : List Value :=
  items.map (ofInteger fun n => .int (count (items.filterMap Value.asInt?) n + 1))

theorem rankedBy_missing_iff (hwhole : forall item, item ∈ items -> item.isWhole = true)
    (count : List Int -> Int -> Nat) (i : Nat) :
    (rankedBy count items)[i]? = some .missing <-> items[i]? = some .missing := by
  rw [rankedBy, List.getElem?_map]
  cases hget : items[i]? with
  | none => simp
  | some item =>
      have hkind := hwhole item (List.mem_of_getElem? hget)
      cases item with
      | missing => simp [ofInteger]
      | int n => simp [ofInteger]
      | _ => cases hkind

def CountsUnordered (count : List Int -> Int -> Nat) : Prop :=
  forall {first second : List Int}, first.Perm second -> count first = count second

theorem smallerCount_unordered : CountsUnordered smallerCount := by
  intro first second hperm
  funext n
  exact (hperm.filter _).length_eq

theorem distinctSmallerCount_unordered : CountsUnordered distinctSmallerCount := by
  intro first second hperm
  funext n
  exact ((hperm.filter _).dedup).length_eq

theorem cellsAt_perm {positions : List Nat}
    (hpositions : positions.Perm (List.range items.length)) :
    (cellsAt positions items).Perm items := by
  have hcells := hpositions.map fun i => cellAt i items
  rwa [← cellsAt, ← cellsAt, cellsAt_range rfl] at hcells

theorem rankedBy_cellsAt {count : List Int -> Int -> Nat} (hcount : CountsUnordered count)
    {positions : List Nat} (hpositions : positions.Perm (List.range items.length)) :
    rankedBy count (cellsAt positions items) = cellsAt positions (rankedBy count items) := by
  unfold rankedBy
  rw [hcount ((cellsAt_perm hpositions).filterMap Value.asInt?), cellsAt, cellsAt, List.map_map]
  apply List.map_congr_left
  intro i hi
  have hlt : i < items.length := List.mem_range.1 (hpositions.mem_iff.1 hi)
  simp [cellAt, hlt]

theorem counts_of_order {count : List Int -> Int -> Nat} (hcount : CountsUnordered count)
    {order : List (Nat × Int)} (horder : IsArrangement Prod.snd (integersAt items) order) :
    count (order.map Prod.snd) = count (items.filterMap Value.asInt?) := by
  rw [← integersAt_values]
  exact hcount (horder.perm.map Prod.snd)

theorem scatter_rankValues {count : List Int -> Int -> Nat} (hcount : CountsUnordered count)
    (hwhole : forall item, item ∈ items -> item.isWhole = true) {order : List (Nat × Int)}
    (horder : IsArrangement Prod.snd (integersAt items) order) :
    scatter items.length
        (rankValues (order.map fun entry => (entry.1, count (order.map Prod.snd) entry.2 + 1))) =
      rankedBy count items := by
  rw [rankValues, List.map_map, counts_of_order hcount horder]
  exact scatter_eq hwhole horder fun n => .int (count (items.filterMap Value.asInt?) n + 1)

theorem minRank_eq (hx : x.asList? = some items)
    (hwhole : forall item, item ∈ items -> item.isWhole = true) :
    minRank x = .ok (.list (rankedBy smallerCount items)) := by
  rcases exists_ordered hwhole with ⟨order, hordered, horder⟩
  have hranks : minRanksFrom 1 1 none (order.map cellOf) =
      .ok (order.map fun entry => (entry.1, smallerCount (order.map Prod.snd) entry.2 + 1)) :=
    minRanksFrom_eq [] (List.pairwise_map.2 horder.ascending) (fun m hm => by cases hm)
  rw [minRank, ranked_eq hx hordered (congrArg (Except.map rankValues) hranks),
    scatter_rankValues smallerCount_unordered hwhole horder]

theorem denseRank_eq (hx : x.asList? = some items)
    (hwhole : forall item, item ∈ items -> item.isWhole = true) :
    denseRank x = .ok (.list (rankedBy distinctSmallerCount items)) := by
  rcases exists_ordered hwhole with ⟨order, hordered, horder⟩
  have hranks : denseRanksFrom 0 none (order.map cellOf) =
      .ok (order.map fun entry =>
        (entry.1, distinctSmallerCount (order.map Prod.snd) entry.2 + 1)) :=
    denseRanksFrom_eq [] (List.pairwise_map.2 horder.ascending)
  rw [denseRank, ranked_eq hx hordered (congrArg (Except.map rankValues) hranks),
    scatter_rankValues distinctSmallerCount_unordered hwhole horder]

/-- The ranks of integers count the smaller ones, or the different ones among these, and missing
values have no rank.  Cells in another order have their ranks in this order. -/
theorem ranks_count_smaller (hx : x.asList? = some items)
    (hwhole : forall item, item ∈ items -> item.isWhole = true) :
    minRank x = .ok (.list (rankedBy smallerCount items)) ∧
      denseRank x = .ok (.list (rankedBy distinctSmallerCount items)) ∧
      (forall (count : List Int -> Int -> Nat) (i : Nat),
        (rankedBy count items)[i]? = some .missing <-> items[i]? = some .missing) ∧
      forall positions, positions.Perm (List.range items.length) ->
        minRank (.list (cellsAt positions items)) =
            .ok (.list (cellsAt positions (rankedBy smallerCount items))) ∧
          denseRank (.list (cellsAt positions items)) =
            .ok (.list (cellsAt positions (rankedBy distinctSmallerCount items))) := by
  refine ⟨minRank_eq hx hwhole, denseRank_eq hx hwhole, rankedBy_missing_iff hwhole, ?_⟩
  intro positions hpositions
  have hmoved : forall item, item ∈ cellsAt positions items -> item.isWhole = true :=
    fun item hitem => hwhole item ((cellsAt_perm hpositions).mem_iff.1 hitem)
  rw [← rankedBy_cellsAt smallerCount_unordered hpositions,
    ← rankedBy_cellsAt distinctSmallerCount_unordered hpositions]
  exact ⟨minRank_eq rfl hmoved, denseRank_eq rfl hmoved⟩

/-- Equal integers beside a smaller one, with a missing value in between. -/
def tiedCells : List Value := [.int 3, .missing, .int 1, .int 3, .int 7]

theorem ranks_count_smaller_tied :
    (Value.column tiedCells).asList? = some tiedCells ∧
      (forall item, item ∈ tiedCells -> item.isWhole = true) ∧
      [4, 3, 2, 1, 0].Perm (List.range tiedCells.length) ∧
      minRank (.column tiedCells) = .ok (.list [.int 2, .missing, .int 1, .int 2, .int 4]) ∧
      denseRank (.list (cellsAt [4, 3, 2, 1, 0] tiedCells)) =
        .ok (.list [.int 3, .int 2, .int 1, .missing, .int 2]) := by
  have hwhole : forall item, item ∈ tiedCells -> item.isWhole = true := by decide
  have hpositions : [4, 3, 2, 1, 0].Perm (List.range tiedCells.length) := by decide
  rcases ranks_count_smaller (x := .column tiedCells) rfl hwhole with ⟨hmin, -, -, hperm⟩
  exact ⟨rfl, hwhole, hpositions, hmin, (hperm _ hpositions).2⟩

end Window
end Wrangle
