import Mathlib.Algebra.Order.Group.Multiset
import Mathlib.Tactic.Abel
import Wrangle.Proofs.Value.Sorting

/-!
# Sorted items

Sorting loses no item and makes none up, whatever the comparisons say.  A sort by runs
has its items in several lists at a time; each of its steps moves items between these
lists, and the multiset of them all stays the same.
-/

namespace Wrangle
namespace Runs

variable {alpha beta : Type} {less : Less alpha} {items more : Multiset alpha}

/-- A step whose result, if there is one, has these items. -/
abbrev Yields (items : Multiset alpha) (step : Except Fault (List alpha × beta)) : Prop :=
  Ends (fun _ => True) (fun out => (out.1 : Multiset alpha) = items) step

theorem Yields.of_eq {step : Except Fault (List alpha × beta)} (h : Yields items step)
    (heq : items = more) : Yields more step :=
  heq ▸ h

/-!
# Items of lists
-/

theorem coe_cons (x : alpha) (rest : List alpha) :
    ((x :: rest : List alpha) : Multiset alpha) = {x} + (rest : Multiset alpha) := by
  rw [← Multiset.cons_coe, Multiset.singleton_add]

theorem coe_append (front back : List alpha) :
    ((front ++ back : List alpha) : Multiset alpha) =
      (front : Multiset alpha) + (back : Multiset alpha) :=
  (Multiset.coe_add front back).symm

theorem coe_split (n : Nat) (list : List alpha) :
    (list : Multiset alpha) = (list.take n : Multiset alpha) + (list.drop n : Multiset alpha) := by
  rw [Multiset.coe_add, List.take_append_drop]

/-!
# Runs
-/

theorem extend_keeps (descending : Bool) {rest run : List alpha} {last : alpha} :
    Ends (fun _ => True)
      (fun out => (out.1 + out.2 : Multiset alpha) = run + rest ∧ out.2.length <= rest.length)
      (extend less descending last run rest) := by
  induction rest generalizing last run with
  | nil => exact ⟨rfl, Nat.le_refl 0⟩
  | cons x rest ih =>
      rw [extend]
      apply Ends.bind_any (ends_any _)
      intro answer
      split
      · apply ih.weaken
        rintro out ⟨hitems, hlength⟩
        refine ⟨?_, Nat.le_succ_of_le hlength⟩
        rw [hitems, coe_cons, coe_cons]
        abel
      · exact ⟨rfl, Nat.le_refl _⟩

theorem take_keeps {list : List alpha} (hsome : list ≠ []) :
    Ends (fun _ => True)
      (fun out => (out.1 + out.2 : Multiset alpha) = list ∧ out.2.length < list.length)
      (take less list) := by
  unfold take
  split
  · rename_i x y rest
    apply Ends.bind_any (ends_any _)
    intro descending
    apply Ends.bind (extend_keeps descending)
    rintro out ⟨hitems, hlength⟩
    have hrun : ((if descending then out.1 else out.1.reverse : List alpha) : Multiset alpha) =
        out.1 := by
      split
      · rfl
      · exact Multiset.coe_reverse out.1
    constructor
    · show ((if descending then out.1 else out.1.reverse : List alpha) : Multiset alpha) + out.2 = _
      rw [hrun, hitems]
      simp only [coe_cons]
      abel
    · simp only [List.length_cons]
      omega
  · exact ⟨add_zero _, List.length_pos_of_ne_nil hsome⟩

theorem insertAll_keeps {sorted rest : List alpha} :
    Ends (fun _ => True) (fun out : List alpha => (out : Multiset alpha) = sorted + rest)
      (insertAll less sorted rest) := by
  induction rest generalizing sorted with
  | nil => exact (add_zero _).symm
  | cons x rest ih =>
      rw [insertAll]
      apply Ends.bind_any (ends_any _)
      intro place
      apply ih.weaken
      intro out hout
      rw [hout, coe_split place sorted, coe_append, coe_cons, coe_cons]
      abel

/-!
# Merging
-/

theorem mergeFront_yields (rounds : Nat) (mode : Mode) (pace : Nat)
    (merged left right : List alpha) :
    Yields (merged + left + right : Multiset alpha)
      (mergeFront less rounds mode pace merged left right) := by
  fun_induction mergeFront less rounds mode pace merged left right with
  | case1 rounds pace merged x y left z right wins losses ihRight ihLeft =>
      apply Ends.bind_any (ends_any _)
      intro answer
      split
      · apply ihRight.of_eq
        simp only [coe_cons]
        abel
      · apply ihLeft.of_eq
        simp only [coe_cons]
        abel
  | case2 rounds pace merged x y left z right ihAhead ihSingle =>
      apply Ends.bind_any (ends_any _)
      intro count
      rw [coe_split count (x :: y :: left)]
      dsimp only
      split
      · rename_i hdrop
        simp only [Ends, hdrop, coe_append, coe_cons, Multiset.coe_reverse, Multiset.coe_nil]
        abel
      · rename_i last hdrop
        simp only [Ends, hdrop, coe_append, coe_cons, Multiset.coe_reverse, Multiset.coe_nil]
        abel
      · rename_i first left hkept hdrop
        rw [hdrop]
        split
        · rename_i hempty
          rw [List.isEmpty_iff.1 hempty]
          simp only [Ends, coe_append, coe_cons, Multiset.coe_reverse, Multiset.coe_nil]
          abel
        · apply Ends.bind_any (ends_any _)
          intro others
          rw [coe_cons z right, coe_split others right]
          split
          · rename_i hrest
            simp only [Ends, hrest, coe_append, coe_cons, Multiset.coe_reverse, Multiset.coe_nil]
            abel
          · split
            · simp only [Ends, coe_append, coe_cons, Multiset.coe_reverse]
              abel
            · split
              · apply (ihAhead count first left others _).of_eq
                simp only [coe_append, coe_cons, Multiset.coe_reverse]
                abel
              · apply (ihSingle count first left others _).of_eq
                simp only [coe_append, coe_cons, Multiset.coe_reverse]
                abel
  | case3 rounds mode pace merged last right =>
      simp only [Ends, coe_append, coe_cons, Multiset.coe_reverse, Multiset.coe_nil]
      abel
  | case4 rounds mode pace merged left right =>
      simp only [Ends, coe_append, Multiset.coe_reverse]

theorem mergeBack_yields (rounds : Nat) (mode : Mode) (pace : Nat)
    (merged left right : List alpha) :
    Yields (merged + left + right : Multiset alpha)
      (mergeBack less rounds mode pace merged left right) := by
  fun_induction mergeBack less rounds mode pace merged left right with
  | case1 rounds pace merged x left y z right wins losses ihLeft ihRight =>
      apply Ends.bind_any (ends_any _)
      intro answer
      split
      · apply ihLeft.of_eq
        simp only [coe_cons]
        abel
      · apply ihRight.of_eq
        simp only [coe_cons]
        abel
  | case2 rounds pace merged x left y z right size ihAhead ihSingle =>
      apply Ends.bind_any (ends_any _)
      intro place
      rw [coe_split (size - place) (x :: left)]
      dsimp only
      split
      · rename_i hdrop
        simp only [Ends, hdrop, coe_append, coe_cons, Multiset.coe_reverse, Multiset.coe_nil]
        abel
      · rename_i last left hdrop
        rw [hdrop]
        split
        · rename_i hempty
          rw [List.isEmpty_iff.1 hempty]
          simp only [Ends, coe_append, coe_cons, Multiset.coe_reverse, Multiset.coe_nil]
          abel
        · apply Ends.bind_any (ends_any _)
          intro next
          rw [coe_cons y, coe_split (right.length + 1 - next) (z :: right)]
          split
          · rename_i hrest
            simp only [Ends, hrest, coe_append, coe_cons, Multiset.coe_reverse, Multiset.coe_nil]
            abel
          · rename_i first hrest
            simp only [Ends, hrest, coe_append, coe_cons, Multiset.coe_reverse, Multiset.coe_nil]
            abel
          · split
            · rename_i hnone
              rw [List.isEmpty_iff.1 hnone]
              simp only [Ends, coe_append, coe_cons, Multiset.coe_reverse, Multiset.coe_nil]
              abel
            · split
              · apply (ihAhead place last left next _).of_eq
                simp only [coe_append, coe_cons, Multiset.coe_reverse]
                abel
              · apply (ihSingle place last left next _).of_eq
                simp only [coe_append, coe_cons, Multiset.coe_reverse]
                abel
  | case3 rounds mode pace merged left first =>
      simp only [Ends, coe_append, coe_cons, Multiset.coe_reverse, Multiset.coe_nil]
      abel
  | case4 rounds mode pace merged left right =>
      simp only [Ends, coe_append, Multiset.coe_reverse]
      abel

theorem merge_yields (pace : Nat) (left right : List alpha) :
    Yields (left + right : Multiset alpha) (merge less pace left right) := by
  unfold merge
  split
  · exact (add_zero _).symm
  · rename_i y others
    apply Ends.bind_any (ends_any _)
    intro start
    rw [coe_split start left]
    dsimp only
    split
    · rename_i hnone
      rw [List.getLast?_eq_none_iff.1 hnone]
      simp only [Ends, coe_append, Multiset.coe_nil]
      abel
    · rename_i last hlast
      apply Ends.bind_any (ends_any _)
      intro stop
      rw [coe_split stop (y :: others)]
      -- what is merged lies between what is in its place on either side
      have hfinish : forall out : List alpha × Nat,
          (out.1 : Multiset alpha) = (left.drop start + (y :: others).take stop : Multiset alpha) ->
          Yields (left.take start + left.drop start +
              ((y :: others).take stop + (y :: others).drop stop) : Multiset alpha)
            (.ok (left.take start ++ out.1 ++ (y :: others).drop stop, out.2) :
              Except Fault (List alpha × Nat)) := by
        intro out hout
        simp only [Ends, coe_append, hout]
        abel
      split
      · rename_i z right x before hright hbefore
        have hleft : ((left.drop start : List alpha) : Multiset alpha) = {x} + before := by
          rw [← Multiset.coe_reverse, hbefore, coe_cons]
        split
        · apply Ends.bind ((mergeFront_yields _ _ _ _ _ _).of_eq _) hfinish
          simp only [hright, coe_cons, Multiset.coe_nil]
          abel
        · apply Ends.bind ((mergeBack_yields _ _ _ _ _ _).of_eq _) hfinish
          simp only [hright, hleft, Multiset.coe_reverse, coe_cons, Multiset.coe_nil]
          abel
      · rename_i hnot
        apply hfinish
        cases hright : (y :: others).take stop with
        | nil => exact (add_zero _).symm
        | cons z right =>
            cases hbefore : (left.drop start).reverse with
            | nil =>
                rw [List.reverse_eq_nil_iff.1 hbefore] at hlast
                cases hlast
            | cons x before => exact (hnot z right x before hright hbefore).elim

/-!
# Sorting by runs
-/

def itemsOf (runs : List (Run alpha)) : Multiset alpha :=
  (runs.map fun run => (run.items : Multiset alpha)).sum

theorem itemsOf_cons (run : Run alpha) (rest : List (Run alpha)) :
    itemsOf (run :: rest) = (run.items : Multiset alpha) + itemsOf rest :=
  List.sum_cons

theorem collapse_keeps (power rounds pace : Nat) (runs : List (Run alpha)) :
    Ends (fun _ => True) (fun out => itemsOf out.1 = itemsOf runs)
      (collapse less power rounds pace runs) := by
  fun_induction collapse less power rounds pace runs with
  | case1 rounds pace top below rest hpower ih =>
      apply Ends.bind (merge_yields pace below.items top.items)
      intro out hout
      apply (ih out.1 out.2).weaken
      intro merged hmerged
      rw [hmerged, itemsOf_cons, itemsOf_cons, itemsOf_cons, hout]
      abel
  | case2 rounds pace top below rest hpower => exact rfl
  | case3 rounds pace runs => exact rfl

theorem coe_flatMap_items (runs : List (Run alpha)) :
    ((runs.flatMap Run.items : List alpha) : Multiset alpha) = itemsOf runs := by
  induction runs with
  | nil => rfl
  | cons run rest ih => rw [List.flatMap_cons, coe_append, ih, itemsOf_cons]

theorem mergeAll_keeps (rounds pace : Nat) (runs : List (Run alpha)) :
    Ends (fun _ => True) (fun out : List alpha => (out : Multiset alpha) = itemsOf runs)
      (mergeAll less rounds pace runs) := by
  fun_induction mergeAll less rounds pace runs with
  | case1 rounds pace top middle below rest hlength ih =>
      apply Ends.bind (merge_yields pace below.items middle.items)
      intro out hout
      apply (ih out.1 out.2).weaken
      intro sorted hsorted
      rw [hsorted]
      simp only [itemsOf_cons, hout]
      abel
  | case2 rounds pace top middle below rest hlength ih =>
      apply Ends.bind (merge_yields pace middle.items top.items)
      intro out hout
      apply (ih out.1 out.2).weaken
      intro sorted hsorted
      rw [hsorted]
      simp only [itemsOf_cons, hout]
      abel
  | case3 rounds pace top below =>
      apply (merge_yields pace below.items top.items).map
      intro out hout
      rw [hout, itemsOf_cons, itemsOf_cons, itemsOf, List.map_nil, List.sum_nil]
      abel
  | case4 rounds pace runs =>
      have hreverse : itemsOf runs.reverse = itemsOf runs := by
        rw [itemsOf, itemsOf, List.map_reverse, List.sum_reverse]
      exact (coe_flatMap_items runs.reverse).trans hreverse

theorem gather_keeps (size least rounds start pace : Nat) {runs : List (Run alpha)}
    {rest : List alpha} (hrounds : rest.length <= rounds) :
    Ends (fun _ => True) (fun out : List alpha => (out : Multiset alpha) = itemsOf runs + rest)
      (gather less size least rounds start pace runs rest) := by
  fun_induction gather less size least rounds start pace runs rest with
  | case1 start pace runs rest =>
      rw [List.length_eq_zero_iff.1 (Nat.le_zero.1 hrounds), Multiset.coe_nil, add_zero]
      exact mergeAll_keeps _ _ _
  | case2 rounds start pace runs =>
      rw [Multiset.coe_nil, add_zero]
      exact mergeAll_keeps _ _ _
  | case3 rounds start pace runs rest hrest ih =>
      apply Ends.bind (take_keeps hrest)
      rintro ⟨run, after⟩ ⟨hitems, hlength⟩
      have hitems : (run + after : Multiset alpha) = rest := hitems
      have hlength : after.length < rest.length := hlength
      apply Ends.bind insertAll_keeps
      intro longer hlonger
      have hdrop : (after.drop (least - run.length)).length <= rounds := by
        rw [List.length_drop]
        omega
      have hnext : forall (others : List (Run alpha)) (pace : Nat), itemsOf others = itemsOf runs ->
          Ends (fun _ => True) (fun out : List alpha => (out : Multiset alpha) = itemsOf runs + rest)
            (gather less size least rounds (start + longer.length) pace
              ({ start := start, items := longer, power := 0 } :: others)
              (after.drop (least - run.length))) := by
        intro others pace hothers
        apply (ih run after longer others pace hdrop).weaken
        intro out hout
        rw [hout, itemsOf_cons, hothers, hlonger, ← hitems, coe_split (least - run.length) after]
        abel
      dsimp only
      split
      · exact hnext [] pace rfl
      · rename_i top below
        apply Ends.bind (collapse_keeps _ _ _ (top :: below))
        intro out hout
        split
        · rename_i top' below' pace'
          exact hnext _ _ hout
        · exact hnext [] _ hout

theorem sort_keeps (list : List alpha) :
    Ends (fun _ => True) (fun out : List alpha => (out : Multiset alpha) = list)
      (sort less list) := by
  apply (gather_keeps _ _ _ _ _ (Nat.le_refl list.length)).weaken
  intro out hout
  rw [hout, itemsOf, List.map_nil, List.sum_nil, zero_add]

end Runs

/-!
# Sorting by keys
-/

theorem Value.sortOn_perm {alpha : Type} {key : alpha -> Value} {items sorted : List alpha}
    (h : sortOn key items = .ok sorted) : sorted.Perm items := by
  unfold sortOn at h
  dsimp only at h
  split at h
  · exact sortWith_perm h
  · have hkept : Ends (fun _ => True) (fun out : List alpha => (out : Multiset alpha) = items)
        (Runs.sort (fun a b => lessThan (key a) (key b)) items) := Runs.sort_keeps items
    rw [h] at hkept
    exact Multiset.coe_eq_coe.1 hkept

end Wrangle
