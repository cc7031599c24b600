import Mathlib.Data.List.Basic
import Wrangle.Proofs.Value.Sorting

/-!
# Sorting images

A sort asks for nothing but comparisons.  So to sort the images of some items is to sort
the items, comparing their images, and to take the images then.
-/

namespace Wrangle

variable {alpha beta : Type}

/-!
# Steps on images
-/

section Steps

variable {epsilon gamma delta : Type} {x : Except epsilon alpha} {g : alpha -> beta}

theorem bind_map_eq {k : alpha -> Except epsilon gamma} {k' : beta -> Except epsilon delta}
    {h : gamma -> delta} (hk : forall a, k' (g a) = (k a).map h) :
    (x.map g >>= k') = (x >>= k).map h := by
  cases x with
  | error e => rfl
  | ok a => exact hk a

theorem bind_eq_map {k : alpha -> Except epsilon gamma} {k' : alpha -> Except epsilon delta}
    {h : gamma -> delta} (hk : forall a, k' a = (k a).map h) : (x >>= k') = (x >>= k).map h := by
  cases x with
  | error e => rfl
  | ok a => exact hk a

theorem map_map_eq {h : beta -> gamma} {k : alpha -> delta} {j : delta -> gamma}
    (hj : forall a, h (g a) = j (k a)) : (x.map g).map h = (x.map k).map j := by
  cases x with
  | error e => rfl
  | ok a => exact congrArg Except.ok (hj a)

end Steps

def onImages (less : Runs.Less beta) (f : alpha -> beta) : Runs.Less alpha :=
  fun a b => less (f a) (f b)

variable (less : Runs.Less beta) (f : alpha -> beta)

/-!
# Sorting by insertion
-/

theorem insertSorted_map (x : alpha) (items : List alpha) :
    insertSorted less (f x) (items.map f) =
      (insertSorted (onImages less f) x items).map (List.map f) := by
  induction items with
  | nil => rfl
  | cons y rest ih =>
      rw [List.map_cons, insertSorted, insertSorted, onImages]
      cases less (f y) (f x) with
      | error e => rfl
      | ok smaller =>
          cases smaller with
          | true =>
              dsimp only
              rw [ih]
              exact map_map_eq fun _ => rfl
          | false => rfl

theorem sortWith_map (items : List alpha) :
    sortWith less (items.map f) = (sortWith (onImages less f) items).map (List.map f) := by
  induction items with
  | nil => rfl
  | cons x rest ih =>
      rw [List.map_cons, sortWith, sortWith, ih]
      cases sortWith (onImages less f) rest with
      | error e => rfl
      | ok sorted => exact insertSorted_map less f x sorted

/-!
# Runs
-/

namespace Runs

theorem extend_map (descending : Bool) (last : alpha) (run items : List alpha) :
    extend less descending (f last) (run.map f) (items.map f) =
      (extend (onImages less f) descending last run items).map
        (Prod.map (List.map f) (List.map f)) := by
  induction items generalizing last run with
  | nil => rfl
  | cons x rest ih =>
      rw [List.map_cons, extend, extend]
      apply bind_eq_map
      intro smaller
      split
      · exact ih x (x :: run)
      · rfl

theorem take_map (items : List alpha) :
    take less (items.map f) =
      (take (onImages less f) items).map (Prod.map (List.map f) (List.map f)) := by
  rcases items with _ | ⟨x, _ | ⟨y, rest⟩⟩
  · rfl
  · rfl
  · rw [List.map_cons, List.map_cons, take, take]
    apply bind_eq_map
    intro descending
    show (extend less descending (f y) ([y, x].map f) (rest.map f) >>= _) = _
    rw [extend_map]
    apply bind_map_eq
    intro out
    cases descending with
    | true => rfl
    | false =>
        show Except.ok ((out.1.map f).reverse, out.2.map f) = _
        rw [← List.map_reverse]
        rfl

theorem placeBetween_map (x : alpha) (items : List alpha) (rounds low high : Nat) :
    placeBetween less (f x) (items.map f).toArray rounds low high =
      placeBetween (onImages less f) x items.toArray rounds low high := by
  induction rounds generalizing low high with
  | zero => rfl
  | succ rounds ih =>
      rw [placeBetween, placeBetween]
      split
      · dsimp only
        rw [List.getElem?_toArray, List.getElem?_toArray, List.getElem?_map]
        cases items[low + (high - low) / 2]? with
        | none => rfl
        | some y =>
            show (less (f x) (f y) >>= _) = (less (f x) (f y) >>= _)
            congr 1
            funext smaller
            rw [ih, ih]
      · rfl

theorem insertAll_map (sorted items : List alpha) :
    insertAll less (sorted.map f) (items.map f) =
      (insertAll (onImages less f) sorted items).map (List.map f) := by
  induction items generalizing sorted with
  | nil => rfl
  | cons x rest ih =>
      rw [List.map_cons, insertAll, insertAll, placeBetween_map, List.length_map]
      apply bind_eq_map
      intro place
      rw [← ih, List.map_append, List.map_cons, List.map_take, List.map_drop]

/-!
# Looking ahead
-/

theorem countBefore_map (x : alpha) (items : List alpha) (hint : Nat) :
    countBefore less (f x) (items.map f) hint = countBefore (onImages less f) x items hint := by
  unfold countBefore
  dsimp only
  rw [List.length_map]
  congr 1
  funext i
  rw [List.getElem?_toArray, List.getElem?_toArray, List.getElem?_map]
  cases items[i]? <;> rfl

theorem countUpTo_map (x : alpha) (items : List alpha) (hint : Nat) :
    countUpTo less (f x) (items.map f) hint = countUpTo (onImages less f) x items hint := by
  unfold countUpTo
  dsimp only
  rw [List.length_map]
  congr 1
  funext i
  rw [List.getElem?_toArray, List.getElem?_toArray, List.getElem?_map]
  cases items[i]? <;> rfl

/-!
# Merging
-/

theorem mergeFront_map (rounds : Nat) (mode : Mode) (pace : Nat) (merged left right : List alpha) :
    mergeFront less rounds mode pace (merged.map f) (left.map f) (right.map f) =
      (mergeFront (onImages less f) rounds mode pace merged left right).map
        (Prod.map (List.map f) id) := by
  fun_induction mergeFront (onImages less f) rounds mode pace merged left right with
  | case1 rounds pace merged x y left z right wins losses ihRight ihLeft =>
      simp only [List.map_cons] at ihRight ihLeft ⊢
      rw [mergeFront]
      apply bind_eq_map
      intro smaller
      split
      · exact ihRight
      · exact ihLeft
  | case2 rounds pace merged x y left z right ihAhead ihSingle =>
      rw [List.map_cons, List.map_cons, List.map_cons, mergeFront]
      have hitems : f x :: f y :: left.map f = (x :: y :: left).map f := rfl
      rw [hitems, countUpTo_map]
      apply bind_eq_map
      intro count
      rw [← List.map_take, ← List.map_drop]
      rcases (x :: y :: left).drop count with _ | ⟨first, _ | ⟨second, rest⟩⟩
      · simp [Except.map]
      · simp [Except.map]
      · simp only [List.map_cons, List.isEmpty_map]
        split
        · simp [Except.map]
        · rw [countBefore_map]
          apply bind_eq_map
          intro others
          rw [← List.map_take, ← List.map_drop]
          rcases right.drop others with _ | ⟨next, more⟩
          · simp [Except.map]
          · simp only [List.map_cons, List.length_cons, List.length_map]
            split
            · simp [Except.map]
            · split
              · have hahead := ihAhead count first (second :: rest) others (next :: more)
                simpa using hahead
              · have hsingle := ihSingle count first (second :: rest) others (next :: more)
                simpa using hsingle
  | case3 rounds mode pace merged last right =>
      cases rounds <;> simp [mergeFront, Except.map]
  | case4 rounds mode pace merged left right hlast hfront =>
      -- no two runs with more than one item left in the first of them
      rcases left with _ | ⟨x, _ | ⟨y, left⟩⟩
      · cases rounds <;> simp [mergeFront, Except.map]
      · exact absurd rfl (hlast x)
      · rcases rounds with _ | rounds
        · simp [mergeFront, Except.map]
        · rcases right with _ | ⟨z, right⟩
          · simp [mergeFront, Except.map]
          · exact absurd rfl (hfront rounds x y left z right rfl rfl)

theorem mergeBack_map (rounds : Nat) (mode : Mode) (pace : Nat) (merged left right : List alpha) :
    mergeBack less rounds mode pace (merged.map f) (left.map f) (right.map f) =
      (mergeBack (onImages less f) rounds mode pace merged left right).map
        (Prod.map (List.map f) id) := by
  fun_induction mergeBack (onImages less f) rounds mode pace merged left right with
  | case1 rounds pace merged x left y z right wins losses ihLeft ihRight =>
      simp only [List.map_cons] at ihLeft ihRight ⊢
      rw [mergeBack]
      apply bind_eq_map
      intro smaller
      split
      · exact ihLeft
      · exact ihRight
  | case2 rounds pace merged x left y z right size ihAhead ihSingle =>
      rw [List.map_cons, List.map_cons, List.map_cons, mergeBack]
      have hitems : f x :: left.map f = (x :: left).map f := rfl
      have hothers : f z :: right.map f = (z :: right).map f := rfl
      dsimp only [size]
      rw [hitems, hothers, ← List.map_reverse, ← List.map_reverse, countUpTo_map, List.length_map,
        List.length_map]
      apply bind_eq_map
      intro place
      rw [← List.map_take, ← List.map_drop]
      rcases (x :: left).drop (left.length + 1 - place) with _ | ⟨last, before⟩
      · simp [Except.map]
      · simp only [List.map_cons, List.isEmpty_map]
        split
        · simp [Except.map]
        · have hlast : f z :: right.map f = (z :: right).map f := rfl
          rw [hlast, ← List.map_reverse, countBefore_map]
          apply bind_eq_map
          intro place'
          rw [← List.map_take, ← List.map_drop]
          rcases (z :: right).drop (right.length + 1 - place') with _ | ⟨first, _ | ⟨second, more⟩⟩
          · simp [Except.map]
          · simp [Except.map]
          · simp only [List.map_cons]
            split
            · simp [Except.map]
            · split
              · have hahead := ihAhead place last before place' (first :: second :: more)
                simpa using hahead
              · have hsingle := ihSingle place last before place' (first :: second :: more)
                simpa using hsingle
  | case3 rounds mode pace merged left first =>
      cases rounds <;> cases left <;> simp [mergeBack, Except.map]
  | case4 rounds mode pace merged left right hfirst hback =>
      rcases right with _ | ⟨y, _ | ⟨z, right⟩⟩
      · cases rounds <;> cases left <;> simp [mergeBack, Except.map]
      · exact absurd rfl (hfirst y)
      · rcases rounds with _ | rounds
        · simp [mergeBack, Except.map]
        · rcases left with _ | ⟨x, left⟩
          · simp [mergeBack, Except.map]
          · exact absurd rfl (hback rounds x left y z right rfl rfl)

theorem merge_map (pace : Nat) (left right : List alpha) :
    merge less pace (left.map f) (right.map f) =
      (merge (onImages less f) pace left right).map (Prod.map (List.map f) id) := by
  rcases right with _ | ⟨y, others⟩
  · rfl
  · rw [List.map_cons, merge, merge, countUpTo_map]
    apply bind_eq_map
    intro start
    dsimp only
    rw [← List.map_drop, ← List.map_take, List.getLast?_map]
    cases (left.drop start).getLast? with
    | none => simp [Except.map]
    | some x =>
        have hright : f y :: others.map f = (y :: others).map f := rfl
        dsimp only [Option.map_some]
        rw [hright, countBefore_map, List.length_map]
        apply bind_eq_map
        intro stop
        rw [← List.map_take, ← List.map_drop, ← List.map_reverse, List.length_map, List.length_map]
        generalize hrest : left.drop start = rest
        generalize hmore : (y :: others).take stop = more
        rcases more with _ | ⟨y', more⟩
        · simp [Except.map, bind, Except.bind]
        · rcases hlast : rest.reverse with _ | ⟨x', before⟩
          · simp [Except.map, bind, Except.bind]
          · simp only [List.map_cons, List.length_map]
            split
            · show (mergeFront less _ _ pace ([y'].map f) (rest.map f) (more.map f) >>= _) = _
              rw [mergeFront_map]
              apply bind_map_eq
              intro out
              simp [Except.map]
            · show (mergeBack less _ _ pace ([x'].map f) (before.map f)
                ((y' :: more).map f).reverse >>= _) = _
              rw [← List.map_reverse, mergeBack_map]
              apply bind_map_eq
              intro out
              simp [Except.map]

/-!
# Sorting by runs
-/

namespace Run

/-- The run of the images. -/
def map (f : alpha -> beta) (run : Run alpha) : Run beta :=
  { start := run.start, items := run.items.map f, power := run.power }

@[simp] theorem map_start (f : alpha -> beta) (run : Run alpha) : (run.map f).start = run.start :=
  rfl

@[simp] theorem map_items (f : alpha -> beta) (run : Run alpha) :
    (run.map f).items = run.items.map f := rfl

@[simp] theorem map_power (f : alpha -> beta) (run : Run alpha) : (run.map f).power = run.power :=
  rfl

end Run

theorem collapse_map (power rounds pace : Nat) (runs : List (Run alpha)) :
    collapse less power rounds pace (runs.map (Run.map f)) =
      (collapse (onImages less f) power rounds pace runs).map
        (Prod.map (List.map (Run.map f)) id) := by
  fun_induction collapse (onImages less f) power rounds pace runs with
  | case1 rounds pace top below rest hdeeper ih =>
      rw [List.map_cons, List.map_cons, collapse, Run.map_power, if_pos hdeeper, Run.map_items,
        Run.map_items, merge_map]
      apply bind_map_eq
      intro out
      exact ih out.1 out.2
  | case2 rounds pace top below rest hdeeper =>
      rw [List.map_cons, List.map_cons, collapse, Run.map_power, if_neg hdeeper]
      rfl
  | case3 rounds pace runs hfew =>
      rcases runs with _ | ⟨top, _ | ⟨below, rest⟩⟩
      · cases rounds <;> rfl
      · cases rounds <;> rfl
      · rcases rounds with _ | rounds
        · rfl
        · exact absurd rfl (hfew rounds top below rest rfl)

theorem mergeAll_map (rounds pace : Nat) (runs : List (Run alpha)) :
    mergeAll less rounds pace (runs.map (Run.map f)) =
      (mergeAll (onImages less f) rounds pace runs).map (List.map f) := by
  fun_induction mergeAll (onImages less f) rounds pace runs with
  | case1 rounds pace top middle below rest hsmaller ih =>
      rw [List.map_cons, List.map_cons, List.map_cons, mergeAll, Run.map_items, Run.map_items,
        Run.map_items, List.length_map, List.length_map, if_pos hsmaller, merge_map]
      apply bind_map_eq
      intro out
      exact ih out.1 out.2
  | case2 rounds pace top middle below rest hsmaller ih =>
      rw [List.map_cons, List.map_cons, List.map_cons, mergeAll, Run.map_items, Run.map_items,
        Run.map_items, List.length_map, List.length_map, if_neg hsmaller, merge_map]
      apply bind_map_eq
      intro out
      exact ih out.1 out.2
  | case3 rounds pace top below =>
      rw [List.map_cons, List.map_cons, List.map_nil, mergeAll, Run.map_items, Run.map_items,
        merge_map]
      exact map_map_eq fun _ => rfl
  | case4 rounds pace runs hthree htwo =>
      have hitems : mergeAll less rounds pace (runs.map (Run.map f)) =
          .ok ((runs.map (Run.map f)).reverse.flatMap Run.items) := by
        rcases runs with _ | ⟨top, _ | ⟨middle, _ | ⟨below, rest⟩⟩⟩
        · cases rounds <;> rfl
        · cases rounds <;> rfl
        · rcases rounds with _ | rounds
          · rfl
          · exact absurd rfl (htwo rounds top middle rfl)
        · rcases rounds with _ | rounds
          · rfl
          · exact absurd rfl (hthree rounds top middle below rest rfl)
      rw [hitems, ← List.map_reverse, List.flatMap_map]
      simp only [Except.map, List.map_flatMap, Run.map_items]

theorem gather_map (size least rounds start pace : Nat) (runs : List (Run alpha))
    (items : List alpha) :
    gather less size least rounds start pace (runs.map (Run.map f)) (items.map f) =
      (gather (onImages less f) size least rounds start pace runs items).map (List.map f) := by
  induction rounds generalizing start pace runs items with
  | zero =>
      rw [gather, gather, List.length_map]
      exact mergeAll_map less f runs.length pace runs
  | succ rounds ih =>
      cases items with
      | nil =>
          rw [List.map_nil, gather, gather, List.length_map]
          · exact mergeAll_map less f runs.length pace runs
          all_goals nofun
      | cons x items =>
          rw [List.map_cons, gather, gather]
          · have hitems : f x :: items.map f = (x :: items).map f := rfl
            rw [hitems, take_map]
            apply bind_map_eq
            intro out
            rcases out with ⟨run, rest⟩
            dsimp only [Prod.map_apply]
            rw [List.length_map, ← List.map_take, insertAll_map]
            apply bind_map_eq
            intro longer
            rw [List.length_map, List.length_map, ← List.map_drop]
            have hnext : forall (runs : List (Run alpha)) (pace : Nat),
                gather less size least rounds (start + longer.length) pace
                    ({ start := start, items := longer.map f, power := 0 } ::
                      runs.map (Run.map f))
                    ((rest.drop (least - run.length)).map f) =
                  (gather (onImages less f) size least rounds (start + longer.length) pace
                    ({ start := start, items := longer, power := 0 } :: runs)
                    (rest.drop (least - run.length))).map (List.map f) :=
              fun runs pace => ih _ pace ({ start := start, items := longer, power := 0 } :: runs) _
            cases runs with
            | nil => exact hnext [] pace
            | cons first others =>
                have hfirst : Run.map f first :: others.map (Run.map f) =
                    (first :: others).map (Run.map f) := rfl
                simp only [List.map_cons, Run.map_start, Run.map_items, List.length_map]
                generalize boundaryPower size (size + 1) _ _ 0 = power
                rw [hfirst, collapse_map]
                apply bind_map_eq
                intro out
                rcases out with ⟨_ | ⟨top, below⟩, pace⟩
                · exact hnext [] pace
                · exact hnext ({ top with power := power } :: below) pace
          all_goals nofun

theorem sort_map (items : List alpha) :
    sort less (items.map f) = (sort (onImages less f) items).map (List.map f) := by
  unfold sort
  dsimp only
  rw [List.length_map]
  exact gather_map less f _ _ _ 0 leastGallop [] items

end Runs

/-!
# Sorting by keys
-/

theorem Value.sortOn_map (key : beta -> Value) (items : List alpha) :
    sortOn key (items.map f) = (sortOn (key ∘ f) items).map (List.map f) := by
  have hordered : (items.map f).all (fun item => (key item).isOrdered) =
      items.all fun item => ((key ∘ f) item).isOrdered := List.all_map
  unfold sortOn
  dsimp only
  rw [hordered]
  split
  · exact sortWith_map _ f items
  · exact Runs.sort_map _ f items

end Wrangle
