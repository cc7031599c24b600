import Mathlib.Data.Finset.Sort
import Wrangle.Proofs.Value.Ranking

/-!
# Stable orders

An arrangement of items has them in ascending order of their places, and those of
one place in the order in which they came.  There is one such order, so two ways of
sorting that are both stable agree.
-/

namespace Wrangle

variable {alpha beta gamma : Type}

def itemsAt [LinearOrder beta] (place : alpha -> beta) (v : beta) (items : List alpha) :
    List alpha :=
  items.filter fun x => decide (place x = v)

section Items

variable [LinearOrder beta] {place : alpha -> beta} {v : beta}

@[simp] theorem itemsAt_nil : itemsAt place v [] = [] := rfl

theorem itemsAt_cons_of_eq {x : alpha} (h : place x = v) (items : List alpha) :
    itemsAt place v (x :: items) = x :: itemsAt place v items :=
  List.filter_cons_of_pos (decide_eq_true h)

theorem itemsAt_cons_of_ne {x : alpha} (h : place x ≠ v) (items : List alpha) :
    itemsAt place v (x :: items) = itemsAt place v items :=
  List.filter_cons_of_neg (by simpa using h)

@[simp] theorem itemsAt_append (items more : List alpha) :
    itemsAt place v (items ++ more) = itemsAt place v items ++ itemsAt place v more :=
  List.filter_append ..

theorem mem_itemsAt_iff {x : alpha} {items : List alpha} :
    x ∈ itemsAt place v items <-> x ∈ items ∧ place x = v := by
  rw [itemsAt, List.mem_filter, decide_eq_true_iff]

theorem itemsAt_congr {other : alpha -> beta} {items : List alpha}
    (h : forall x, x ∈ items -> place x = other x) : itemsAt place v items = itemsAt other v items := by
  apply List.filter_congr
  intro x hx
  rw [h x hx]

theorem filter_eq_itemsAt {test : alpha -> Bool} {items : List alpha}
    (h : forall x, test x = true <-> place x = v) : items.filter test = itemsAt place v items := by
  rw [itemsAt]
  congr 1
  funext x
  rw [Bool.eq_iff_iff, decide_eq_true_iff]
  exact h x

theorem itemsAt_eq_nil_iff {items : List alpha} :
    itemsAt place v items = [] <-> forall x, x ∈ items -> place x ≠ v := by
  simp [itemsAt]

theorem itemsAt_map (f : gamma -> alpha) (items : List gamma) :
    itemsAt place v (items.map f) = (itemsAt (fun x => place (f x)) v items).map f :=
  List.filter_map ..

theorem itemsAt_comm {other : alpha -> gamma} [LinearOrder gamma] (w : gamma) (items : List alpha) :
    itemsAt other w (itemsAt place v items) = itemsAt place v (itemsAt other w items) := by
  rw [itemsAt, itemsAt, itemsAt, itemsAt, List.filter_filter, List.filter_filter]
  apply List.filter_congr
  intro x _
  rw [Bool.and_comm]

theorem itemsAt_filter {test : alpha -> Bool}
    {items : List alpha} (h : forall x, x ∈ items -> place x = v -> test x = true) :
    itemsAt place v (items.filter test) = itemsAt place v items := by
  rw [itemsAt, itemsAt, List.filter_filter]
  apply List.filter_congr
  intro x hx
  by_cases hplace : place x = v
  · simp [hplace, h x hx hplace]
  · simp [hplace]

theorem itemsAt_within {other : alpha -> gamma} [LinearOrder gamma] {w : gamma} {items : List alpha}
    (h : forall x, x ∈ items -> place x = v -> other x = w) :
    itemsAt place v (itemsAt other w items) = itemsAt place v items :=
  itemsAt_filter fun x hx hplace => decide_eq_true (h x hx hplace)

theorem itemsAt_itemsAt (w : beta) (items : List alpha) :
    itemsAt place v (itemsAt place w items) = if w = v then itemsAt place v items else [] := by
  split
  · rename_i h
    rw [h, itemsAt, List.filter_eq_self]
    exact fun x hx => decide_eq_true (mem_itemsAt_iff.1 hx).2
  · rename_i h
    rw [itemsAt_eq_nil_iff]
    exact fun x hx hplace => h ((mem_itemsAt_iff.1 hx).2.symm.trans hplace)

theorem itemsAt_flatMap (f : gamma -> List alpha) (items : List gamma) :
    itemsAt place v (items.flatMap f) = items.flatMap fun x => itemsAt place v (f x) :=
  List.filter_flatMap

theorem itemsAt_gather {places : List beta} (hplaces : places.Nodup) (items : List alpha)
    (hcover : v ∈ places ∨ itemsAt place v items = []) :
    itemsAt place v (places.flatMap fun w => itemsAt place w items) = itemsAt place v items := by
  rw [itemsAt_flatMap]
  simp only [itemsAt_itemsAt]
  induction places with
  | nil => exact (hcover.resolve_left List.not_mem_nil).symm
  | cons w rest ih =>
      rcases List.nodup_cons.1 hplaces with ⟨hw, hrest⟩
      rw [List.flatMap_cons]
      by_cases hwv : w = v
      · subst hwv
        have hothers : (rest.flatMap fun u => if u = w then itemsAt place w items else []) = [] := by
          rw [List.flatMap_eq_nil_iff]
          intro u hu
          exact if_neg fun (h : u = w) => hw (h ▸ hu)
        rw [if_pos rfl, hothers, List.append_nil]
      · rw [if_neg hwv, List.nil_append]
        apply ih hrest
        rcases hcover with hmem | hnone
        · exact .inl ((List.mem_cons.1 hmem).resolve_left fun h => hwv h.symm)
        · exact .inr hnone

theorem itemsAt_cons_eq {tail : alpha -> List beta} (w : List beta)
    (items : List alpha) :
    itemsAt (fun x => place x :: tail x) (v :: w) items =
      itemsAt tail w (itemsAt place v items) := by
  rw [itemsAt, itemsAt, itemsAt, List.filter_filter]
  apply List.filter_congr
  intro x _
  rw [Bool.eq_iff_iff]
  simp [and_comm]

end Items

section Ordered

variable [LinearOrder beta]

theorem mem_iff_of_itemsAt_eq {place : alpha -> beta} {first second : List alpha}
    (h : forall v, itemsAt place v first = itemsAt place v second) (x : alpha) :
    x ∈ first <-> x ∈ second := by
  have hiff : x ∈ itemsAt place (place x) first <-> x ∈ itemsAt place (place x) second := by
    rw [h]
  simpa [mem_itemsAt_iff] using hiff

theorem IsAscending.head_le {place : alpha -> beta} {x y : alpha} {rest : List alpha}
    (h : IsAscending place (x :: rest)) (hy : y ∈ x :: rest) : place x ≤ place y := by
  rcases List.mem_cons.1 hy with rfl | hy
  · exact le_rfl
  · exact (List.pairwise_cons.1 h).1 y hy

theorem eq_of_itemsAt_eq {place : alpha -> beta} {first second : List alpha}
    (hfirst : IsAscending place first) (hsecond : IsAscending place second)
    (h : forall v, itemsAt place v first = itemsAt place v second) : first = second := by
  have hsame := mem_iff_of_itemsAt_eq h
  induction first generalizing second with
  | nil =>
      have hempty : forall x, x ∉ second := fun x hx => by simpa using (hsame x).2 hx
      exact (List.eq_nil_iff_forall_not_mem.2 hempty).symm
  | cons x rest ih =>
      cases second with
      | nil => exact absurd ((hsame x).1 List.mem_cons_self) List.not_mem_nil
      | cons y others =>
          have hplace : place x = place y := by
            apply le_antisymm
            · exact hfirst.head_le ((hsame y).2 List.mem_cons_self)
            · exact hsecond.head_le ((hsame x).1 List.mem_cons_self)
          have hheads := h (place y)
          rw [itemsAt_cons_of_eq hplace, itemsAt_cons_of_eq rfl] at hheads
          rcases List.cons.inj hheads with ⟨rfl, _⟩
          have hrest : forall v, itemsAt place v rest = itemsAt place v others := by
            intro v
            have hv := h v
            by_cases hxv : place x = v
            · rw [itemsAt_cons_of_eq hxv, itemsAt_cons_of_eq hxv] at hv
              exact (List.cons.inj hv).2
            · rwa [itemsAt_cons_of_ne hxv, itemsAt_cons_of_ne hxv] at hv
          rw [ih (List.pairwise_cons.1 hfirst).2 (List.pairwise_cons.1 hsecond).2 hrest
            (mem_iff_of_itemsAt_eq hrest)]

/-!
# Arrangements
-/

/-- Items in ascending order of their places, where items of one place keep their order. -/
structure IsArrangement (place : alpha -> beta) (items arranged : List alpha) : Prop where
  ascending : IsAscending place arranged
  stable : forall v, itemsAt place v arranged = itemsAt place v items

namespace IsArrangement

variable {place : alpha -> beta} {items arranged : List alpha}

theorem mem_iff (h : IsArrangement place items arranged) (x : alpha) :
    x ∈ arranged <-> x ∈ items :=
  mem_iff_of_itemsAt_eq h.stable x

theorem perm (h : IsArrangement place items arranged) : arranged.Perm items := by
  classical
  rw [List.perm_iff_count]
  intro x
  have hcount : forall list : List alpha, list.count x = (itemsAt place (place x) list).count x := by
    intro list
    exact (List.count_filter (p := fun y => decide (place y = place x)) (decide_eq_true rfl)).symm
  rw [hcount arranged, h.stable, ← hcount]

theorem unique {other : List alpha} (h : IsArrangement place items arranged)
    (hother : IsArrangement place items other) : arranged = other :=
  eq_of_itemsAt_eq h.ascending hother.ascending fun v => (h.stable v).trans (hother.stable v).symm

theorem of_same (h : forall x, x ∈ items -> forall y, y ∈ items -> place x = place y) :
    IsArrangement place items items where
  ascending := List.pairwise_of_forall_mem_list fun x hx y hy => le_of_eq (h x hx y hy)
  stable := fun _ => rfl

theorem congr {other : alpha -> beta} (h : IsArrangement place items arranged)
    (hsame : forall x, x ∈ items -> place x = other x) : IsArrangement other items arranged := by
  have harranged : forall x, x ∈ arranged -> place x = other x :=
    fun x hx => hsame x ((h.mem_iff x).1 hx)
  constructor
  · apply h.ascending.imp_of_mem
    intro x y hx hy hxy
    rwa [harranged x hx, harranged y hy] at hxy
  · intro v
    rw [← itemsAt_congr harranged, ← itemsAt_congr hsame, h.stable]

theorem map {other : gamma -> beta} (f : alpha -> gamma)
    (h : IsArrangement (fun x => other (f x)) items arranged) :
    IsArrangement other (items.map f) (arranged.map f) where
  ascending := List.pairwise_map.2 h.ascending
  stable := fun v => by rw [itemsAt_map, itemsAt_map, h.stable]

theorem of_strictMono [LinearOrder gamma] {f : gamma -> beta} (hf : StrictMono f)
    {other : alpha -> gamma} (h : IsArrangement (fun x => f (other x)) items arranged) :
    IsArrangement other items arranged where
  ascending := h.ascending.imp fun hxy => hf.le_iff_le.1 hxy
  stable := by
    intro v
    have hsame : forall list : List alpha,
        itemsAt (fun x => f (other x)) (f v) list = itemsAt other v list := by
      intro list
      simp only [itemsAt, hf.injective.eq_iff]
    rw [← hsame, ← hsame, h.stable]

theorem strictMono [LinearOrder gamma] {f : beta -> gamma} (hf : StrictMono f)
    (h : IsArrangement place items arranged) : IsArrangement (fun x => f (place x)) items arranged where
  ascending := h.ascending.imp fun hxy => hf.monotone hxy
  stable := by
    intro w
    by_cases hw : exists v, f v = w
    · rcases hw with ⟨v, rfl⟩
      have hsame : forall list : List alpha,
          itemsAt (fun x => f (place x)) (f v) list = itemsAt place v list := by
        intro list
        simp only [itemsAt, hf.injective.eq_iff]
      rw [hsame, hsame, h.stable]
    · have hnone : forall list : List alpha, itemsAt (fun x => f (place x)) w list = [] := by
        intro list
        rw [itemsAt_eq_nil_iff]
        exact fun x _ hx => hw ⟨place x, hx⟩
      rw [hnone, hnone]

theorem reverse (h : IsArrangement place items.reverse arranged) :
    IsArrangement (fun x => OrderDual.toDual (place x)) items arranged.reverse where
  ascending := List.pairwise_reverse.2 h.ascending
  stable := by
    intro v
    have hat : itemsAt place (OrderDual.ofDual v) arranged.reverse =
        itemsAt place (OrderDual.ofDual v) items := by
      have hstable := congrArg List.reverse (h.stable (OrderDual.ofDual v))
      rwa [itemsAt, itemsAt, ← List.filter_reverse, ← List.filter_reverse,
        List.reverse_reverse] at hstable
    exact hat

theorem append_last (top : beta) {test : alpha -> Bool}
    (h : IsArrangement place (items.filter test) arranged)
    (hbefore : forall x, x ∈ items -> test x = true -> place x < top)
    (hlast : forall x, x ∈ items -> test x = false -> place x = top) :
    IsArrangement place items (arranged ++ items.filter fun x => !test x) := by
  have hfirst : forall x, x ∈ arranged -> place x < top := by
    intro x hx
    rcases List.mem_filter.1 ((h.mem_iff x).1 hx) with ⟨hx, htest⟩
    exact hbefore x hx htest
  have hrest : forall x, x ∈ items.filter (fun x => !test x) -> place x = top := by
    intro x hx
    rcases List.mem_filter.1 hx with ⟨hx, htest⟩
    exact hlast x hx (by simpa using htest)
  constructor
  · apply List.pairwise_append.2
    refine ⟨h.ascending, (of_same ?_).ascending, ?_⟩
    · exact fun x hx y hy => (hrest x hx).trans (hrest y hy).symm
    · exact fun x hx y hy => (hrest y hy).symm ▸ le_of_lt (hfirst x hx)
  · intro v
    rw [itemsAt_append, h.stable]
    by_cases hv : v = top
    · have hnone : itemsAt place v (items.filter test) = [] := by
        rw [itemsAt_eq_nil_iff]
        intro x hx
        rcases List.mem_filter.1 hx with ⟨hx, htest⟩
        exact hv ▸ ne_of_lt (hbefore x hx htest)
      rw [hnone, List.nil_append, itemsAt_filter]
      intro x hx hplace
      cases htest : test x with
      | false => rfl
      | true => exact absurd (hplace.trans hv) (ne_of_lt (hbefore x hx htest))
    · have hnone : itemsAt place v (items.filter fun x => !test x) = [] := by
        rw [itemsAt_eq_nil_iff]
        exact fun x hx hplace => hv (hplace.symm.trans (hrest x hx))
      rw [hnone, List.append_nil, itemsAt_filter]
      intro x hx hplace
      cases htest : test x with
      | false => exact absurd (hplace.symm.trans (hlast x hx htest)) hv
      | true => rfl

theorem pairwise {before : alpha -> alpha -> Prop} (h : IsArrangement place items arranged)
    (hitems : items.Pairwise before) :
    arranged.Pairwise fun a b => place a < place b ∨ (place a = place b ∧ before a b) := by
  rw [List.pairwise_iff_forall_sublist]
  intro a b hab
  have hplaces : place a ≤ place b := List.pairwise_iff_forall_sublist.1 h.ascending hab
  rcases lt_or_eq_of_le hplaces with hlt | heq
  · exact .inl hlt
  · have hboth : itemsAt place (place b) [a, b] = [a, b] := by
      rw [itemsAt_cons_of_eq heq, itemsAt_cons_of_eq rfl, itemsAt_nil]
    have hbefore : [a, b].Sublist items := by
      have hat : (itemsAt place (place b) [a, b]).Sublist (itemsAt place (place b) arranged) :=
        hab.filter _
      rw [hboth, h.stable] at hat
      exact hat.trans List.filter_sublist
    exact .inr ⟨heq, List.pairwise_iff_forall_sublist.1 hitems hbefore⟩

/-- To arrange by a first place what is arranged by further places is to arrange by all of them. -/
theorem cons {tail : alpha -> List beta} {between : List alpha}
    (htail : IsArrangement tail items between) (hhead : IsArrangement place between arranged) :
    IsArrangement (fun x => place x :: tail x) items arranged := by
  constructor
  · apply (hhead.pairwise htail.ascending).imp
    rintro a b (hlt | ⟨heq, htails⟩)
    · exact le_of_lt (List.cons_lt_cons_iff.2 (.inl hlt))
    · show place a :: tail a ≤ place b :: tail b
      rw [heq]
      exact List.cons_le_cons _ htails
  · intro u
    cases u with
    | nil => simp [itemsAt]
    | cons v w =>
        rw [itemsAt_cons_eq, itemsAt_cons_eq, hhead.stable, itemsAt_comm, htail.stable,
          itemsAt_comm]

theorem gather {places : List beta} (hplaces : places.Pairwise (· < ·))
    (hcover : forall x, x ∈ items -> place x ∈ places) :
    IsArrangement place items (places.flatMap fun v => itemsAt place v items) := by
  constructor
  · apply List.pairwise_flatMap.2
    constructor
    · intro v _
      apply (of_same _).ascending
      intro x hx y hy
      rw [(mem_itemsAt_iff.1 hx).2, (mem_itemsAt_iff.1 hy).2]
    · apply hplaces.imp
      intro v w hvw x hx y hy
      rw [(mem_itemsAt_iff.1 hx).2, (mem_itemsAt_iff.1 hy).2]
      exact le_of_lt hvw
  · intro v
    apply itemsAt_gather (hplaces.imp fun h => ne_of_lt h)
    by_cases hv : v ∈ places
    · exact .inl hv
    · right
      rw [itemsAt_eq_nil_iff]
      exact fun x hx hplace => hv (hplace ▸ hcover x hx)

theorem exists_arranged (place : alpha -> beta) (items : List alpha) :
    exists arranged, IsArrangement place items arranged := by
  refine ⟨_, gather (items.map place).toFinset.sortedLT_sort.pairwise ?_⟩
  intro x hx
  rw [Finset.mem_sort, List.mem_toFinset]
  exact List.mem_map_of_mem hx

theorem exists_map {f : gamma -> alpha} {items : List gamma}
    (h : IsArrangement place (items.map f) arranged) :
    exists found, IsArrangement (fun x => place (f x)) items found ∧ arranged = found.map f := by
  rcases exists_arranged (fun x => place (f x)) items with ⟨found, hfound⟩
  exact ⟨found, hfound, h.unique (hfound.map f)⟩

end IsArrangement

/-!
# Stable sorting
-/

variable {less : alpha -> alpha -> Except Fault Bool} {place : alpha -> beta} {keep : alpha -> Prop}

theorem itemsAt_insertSorted (hless : ComparesPlaces keep place less) {x : alpha} (hx : keep x)
    {items sorted : List alpha} (hitems : Kept keep items)
    (h : insertSorted less x items = .ok sorted) (v : beta) :
    itemsAt place v sorted = itemsAt place v (x :: items) := by
  induction items generalizing sorted with
  | nil =>
      cases h
      rfl
  | cons y rest ih =>
      rcases Kept.cons_iff.1 hitems with ⟨hy, hrest⟩
      rw [insertSorted, hless y x hy hx] at h
      by_cases hyx : place y < place x
      · rw [decide_eq_true hyx] at h
        rcases map_eq_ok_iff.1 h with ⟨inserted, hinserted, rfl⟩
        have hthen := ih hrest hinserted
        by_cases hyv : place y = v
        · have hxv : place x ≠ v := fun h => ne_of_lt hyx (hyv.trans h.symm)
          rw [itemsAt_cons_of_ne hxv] at hthen ⊢
          rw [itemsAt_cons_of_eq hyv, itemsAt_cons_of_eq hyv, hthen]
        · have hrests : itemsAt place v (x :: y :: rest) = itemsAt place v (x :: rest) := by
            by_cases hxv : place x = v
            · rw [itemsAt_cons_of_eq hxv, itemsAt_cons_of_eq hxv, itemsAt_cons_of_ne hyv]
            · rw [itemsAt_cons_of_ne hxv, itemsAt_cons_of_ne hxv, itemsAt_cons_of_ne hyv]
          rw [itemsAt_cons_of_ne hyv, hthen, hrests]
      · rw [decide_eq_false hyx] at h
        cases h
        rfl

theorem itemsAt_sortWith (hless : ComparesPlaces keep place less) {items sorted : List alpha}
    (hitems : Kept keep items) (h : sortWith less items = .ok sorted) (v : beta) :
    itemsAt place v sorted = itemsAt place v items := by
  induction items generalizing sorted with
  | nil =>
      cases h
      rfl
  | cons x rest ih =>
      rcases Kept.cons_iff.1 hitems with ⟨hx, hrest⟩
      rw [sortWith] at h
      split at h
      · cases h
      · rename_i tail htail
        have hkept : Kept keep tail := fun y hy => hrest y ((sortWith_perm htail).mem_iff.1 hy)
        rw [itemsAt_insertSorted hless hx hkept h]
        by_cases hxv : place x = v
        · rw [itemsAt_cons_of_eq hxv, itemsAt_cons_of_eq hxv, ih hrest htail]
        · rw [itemsAt_cons_of_ne hxv, itemsAt_cons_of_ne hxv, ih hrest htail]

theorem Value.exists_sortOn {key : alpha -> Value}
    (hless : ComparesPlaces keep place fun a b => Value.lessThan (key a) (key b))
    {items : List alpha} (hkeys : forall item, item ∈ items -> (key item).isOrdered = true)
    (hitems : Kept keep items) :
    exists sorted, Value.sortOn key items = .ok sorted ∧ IsArrangement place items sorted := by
  have hcompares : Compares (fun _ => False) keep
      fun a b => Value.lessThan (key a) (key b) := by
    intro a b ha hb
    rw [hless a b ha hb]
    trivial
  have hsort : Value.sortOn key items =
      sortWith (fun a b => Value.lessThan (key a) (key b)) items := by
    unfold Value.sortOn
    dsimp only
    rw [if_pos (List.all_eq_true.2 hkeys)]
  have hends := sortWith_ends hcompares hitems
  rw [hsort]
  cases hsorted : sortWith (fun a b => Value.lessThan (key a) (key b)) items with
  | error f =>
      rw [hsorted] at hends
      exact hends.elim
  | ok sorted =>
      refine ⟨sorted, rfl, ?_, itemsAt_sortWith hless hitems hsorted⟩
      exact sortWith_isAscending hless hitems hsorted

end Ordered
end Wrangle
