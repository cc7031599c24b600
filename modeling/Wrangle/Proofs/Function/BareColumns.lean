import Wrangle.Function.Aggregate
import Wrangle.Function.Operator
import Wrangle.Function.Window
import Wrangle.Proofs.Value.Bare
import Wrangle.Proofs.Value.Making

/-!
# What aggregates keep

The sum of a sequence, its extremes and the values at its ends have every property that
its items have, as long as sums keep it.
-/

namespace Wrangle

open Value

namespace Aggregate

variable {keep : Value -> Prop} {x : Value}

theorem overNumbers_keeps (hclosed : Closed keep) (h : Ends (fun _ => True) (Kept keep) x.iterate)
    {f : List Value -> Except Fault Value}
    (hf : forall items, Kept keep items -> Ends (fun _ => True) keep (f items)) :
    Ends (fun _ => True) keep (overNumbers x f) := by
  unfold overNumbers Value.numbers?
  cases hiterate : x.iterate with
  | error f => trivial
  | ok items =>
      rw [hiterate] at h
      rw [ok_bind]
      split
      · exact hclosed.missing
      · have hnumbers := Ends.mapM fun item hitem => hclosed.toNumber (h item hitem)
        cases hfound : items.mapM Value.toNumber with
        | error f => trivial
        | ok numbers =>
            rw [hfound] at hnumbers
            exact hf numbers hnumbers

theorem total_keeps (hclosed : Closed keep) (h : Ends (fun _ => True) (Kept keep) x.iterate) :
    Ends (fun _ => True) keep (total x) := by
  apply overNumbers_keeps hclosed h
  intro items hitems
  exact Ends.foldlM (hclosed.atom rfl) fun sum item hsum hitem =>
    hclosed.add hsum (hitems item hitem)

theorem leastFrom_keeps {best : Value} (h : keep best) {items : List Value}
    (hitems : Kept keep items) : Ends (fun _ => True) keep (leastFrom best items) := by
  induction items generalizing best with
  | nil => exact h
  | cons value rest ih =>
      rcases Kept.cons_iff.1 hitems with ⟨hvalue, hrest⟩
      unfold leastFrom
      split
      · trivial
      · refine ih ?_ hrest
        split
        · exact hvalue
        · exact h

theorem greatestFrom_keeps {best : Value} (h : keep best) {items : List Value}
    (hitems : Kept keep items) : Ends (fun _ => True) keep (greatestFrom best items) := by
  induction items generalizing best with
  | nil => exact h
  | cons value rest ih =>
      rcases Kept.cons_iff.1 hitems with ⟨hvalue, hrest⟩
      unfold greatestFrom
      split
      · trivial
      · refine ih ?_ hrest
        split
        · exact hvalue
        · exact h

theorem extreme_keeps (hmissing : keep .missing)
    {best : Value -> List Value -> Except Fault Value}
    (hbest : forall first rest, keep first -> Kept keep rest ->
      Ends (fun _ => True) keep (best first rest))
    (h : Ends (fun _ => True) (Kept keep) x.iterate) :
    Ends (fun _ => True) keep (extreme best x) := by
  unfold extreme
  split
  · exact hmissing
  · apply h.bind
    intro items hitems
    split
    · exact hmissing
    · split
      · exact hmissing
      · rename_i first rest _
        rcases Kept.cons_iff.1 hitems with ⟨hfirst, hrest⟩
        exact hbest first rest hfirst hrest

theorem atEnd_keeps (hmissing : keep .missing) {cells : List Value} (h : Kept keep cells)
    (position : Int) : Ends (fun _ => True) keep (atEnd position (.column cells)) := by
  unfold atEnd
  rw [Value.size, ok_bind]
  split
  · exact hmissing
  · exact itemAt_keeps h position

end Aggregate

/-!
# Functions of columns make no columns

Operators, aggregates and window functions give bare values for bare values: what they
compute from the items of a value is a single value or a plain list.
-/

open Number

/-!
# Lists of values
-/

section Lists

variable {alpha : Type} {keep : alpha -> Prop}

theorem sortOn_keeps {key : alpha -> Value} {items : List alpha} (h : Kept keep items) :
    Ends (fun _ => True) (Kept keep) (Value.sortOn key items) :=
  Value.sortOn_ends (fun _ _ _ _ => ends_any _) h

theorem getD_bare {items : List Value} (h : AllBare items) (i : Nat) :
    ((items[i]?).getD .missing).isBare = true := by
  cases hi : items[i]? with
  | none => rfl
  | some value => exact h value (List.mem_of_getElem? hi)

theorem ends_ofFault {x : Except Fault alpha} (h : Ends (fun _ => True) keep x) :
    Ends (fun _ => True) keep (Outcome.ofFault x) := by
  cases x with
  | error f => trivial
  | ok a => exact h

end Lists

theorem allBare_single {x : Value} (h : AllBare [x]) : x.isBare = true :=
  h x (List.mem_cons_self ..)

/-!
# Operators
-/

theorem BinaryOperator.applyCoerced_bare (op : BinaryOperator) {a b : Value}
    (ha : a.isBare = true) (hb : b.isBare = true) : GivesBare (op.applyCoerced a b) := by
  cases op with
  | add => exact add_bare ha hb
  | subtract => exact subtract_bare ha
  | multiply => exact multiply_bare ha hb
  | divide => exact (quotient_atom a b).bare
  | modulo => exact (modulo_atom a b).bare
  | power => exact (power_atom a b).bare
  | conjunction => exact conjunction_bare a b
  | disjunction => exact disjunction_bare a b
  | equal | notEqual | membership | less | lessEqual | greater | greaterEqual =>
      exact givesBare_map fun _ => rfl

theorem BinaryOperator.apply_bare (op : BinaryOperator) {a b : Value}
    (ha : a.isBare = true) (hb : b.isBare = true) : GivesBare (op.apply a b) := by
  unfold BinaryOperator.apply
  split
  · exact op.applyCoerced_bare ha hb
  · have hpair := closed_isBare.coercePair ha hb
    split
    · rename_i x y hxy
      rw [hxy] at hpair
      exact op.applyCoerced_bare hpair.1 hpair.2
    · trivial

theorem UnaryOperator.apply_bare (op : UnaryOperator) (a : Value) : GivesBare (op.apply a) := by
  cases op with
  | negate => exact givesBare_bind fun x => (negate_atom x).bare
  | invert => rfl

/-!
# Aggregates
-/

namespace Aggregate

theorem overNumbers_bare {x : Value} (h : x.isBare = true)
    {f : List Value -> Except Fault Value}
    (hf : forall items, AllBare items -> GivesBare (f items)) : GivesBare (overNumbers x f) :=
  overNumbers_keeps closed_isBare (iterate_bare h) hf

theorem mean_bare {x : Value} (h : x.isBare = true) : GivesBare (mean x) := by
  apply overNumbers_bare h
  intro items _
  split
  · rfl
  · exact givesBare_bind fun sum => givesBare_bind fun total => givesBare_bind fun count => rfl

theorem middle_bare {sorted : List Value} (h : AllBare sorted) : GivesBare (middle sorted) := by
  unfold middle
  extract_lets half upper
  split
  · exact getD_bare h half
  · exact givesBare_bind fun total => (divide_atom total _).bare

theorem median_bare {x : Value} (h : x.isBare = true) : GivesBare (median x) := by
  apply overNumbers_bare h
  intro items hitems
  split
  · rfl
  · apply Ends.bind (sortOn_keeps hitems)
    intro sorted hsorted
    exact middle_bare hsorted

theorem rounded_bare (q : Rat) : GivesBare (ofExact.rounded q) := by
  unfold ofExact.rounded
  split
  · rfl
  · trivial

theorem ofExact_bare (kind : NumberKind) (q : Rat) : GivesBare (ofExact kind q) := by
  cases kind with
  | decimal => exact givesBare_map fun _ => rfl
  | float => exact rounded_bare q
  | whole =>
      unfold ofExact
      dsimp only
      split
      · rfl
      · exact rounded_bare q

theorem spread_bare (items : List Value) :
    Ends (fun _ => True) (fun found => forall share, found.2 = .inr share -> share.isBare = true)
      (spread items) := by
  unfold spread
  apply (ends_any _).bind_any
  rintro ⟨kinds, sum⟩
  apply (ends_any _).bind_any
  intro kind
  split
  · intro share hshare
    cases hshare
  · apply (divide_atom sum _).bare.bind
    intro share hshare other hother
    cases hother
    exact hshare

theorem variance_bare {x : Value} (h : x.isBare = true) : GivesBare (variance x) := by
  apply overNumbers_bare h
  intro items _
  split
  · rfl
  · apply (spread_bare items).bind
    intro found hfound
    split
    · exact ofExact_bare _ _
    · exact hfound _ rfl

theorem deviation_bare {x : Value} (h : x.isBare = true) : GivesBare (deviation x) := by
  apply overNumbers_bare h
  intro items _
  split
  · rfl
  · apply givesBare_bind
    intro found
    split
    · exact givesBare_map fun _ => rfl
    · split
      · rfl
      · trivial
    · trivial

theorem quantileAt_bare {sorted : List Value} (h : AllBare sorted) {q : Value}
    (hq : q.isBare = true) : GivesBare (quantileAt sorted q) := by
  have hint : forall n : Int, (Value.int n).isBare = true := fun _ => rfl
  unfold quantileAt
  apply (multiply_bare (hint _) hq).bind
  intro place hplace
  apply givesBare_bind
  intro below
  apply (itemAt_keeps h _).bind
  intro lower hlower
  apply (subtract_bare hplace).bind
  intro rest hrest
  apply (itemAt_keeps h _).bind
  intro upper hupper
  apply (subtract_bare hupper).bind
  intro gap hgap
  apply (multiply_bare hrest hgap).bind
  intro step hstep
  exact add_bare hlower hstep

theorem quantile_bare {x p : Value} (h : x.isBare = true) (hp : p.isBare = true) :
    GivesBare (quantile x p) := by
  apply overNumbers_bare h
  intro items hitems
  apply Ends.bind (sortOn_keeps hitems)
  intro sorted hsorted
  split
  · rename_i shares hshares
    apply (Ends.mapM fun share hshare =>
      quantileAt_bare hsorted (AllBare.asItems? hp hshares share hshare)).map
    exact fun _ => isBare_list.2
  · exact quantileAt_bare hsorted hp

theorem atEnd_bare (position : Int) {x : Value} (h : x.isBare = true) :
    GivesBare (atEnd position x) := by
  unfold atEnd
  apply givesBare_bind
  intro size
  split
  · rfl
  · exact valueAt_bare h _

theorem nth_bare {x : Value} (h : x.isBare = true) (i : Value) : GivesBare (nth x i) := by
  unfold nth
  apply givesBare_bind
  intro ahead
  split
  · apply givesBare_bind
    intro size
    apply givesBare_bind
    intro within
    split
    · exact givesBare_bind fun position => valueAt_bare h position
    · rfl
  · apply givesBare_bind
    intro back
    split
    · apply givesBare_bind
      intro size
      apply givesBare_bind
      intro distance
      apply givesBare_bind
      intro within
      split
      · exact valueAt_bare h i
      · rfl
    · rfl

theorem skipMissing_bare {x : Value} (h : x.isBare = true) : GivesBare (skipMissing x) := by
  apply (iterate_bare h).map
  intro items hitems
  exact isBare_list.2 fun value hvalue => hitems value (List.mem_filter.1 hvalue).1

theorem asItems?_getD_bare {x : Value} (h : x.isBare = true) : AllBare (x.asItems?.getD [x]) := by
  cases hitems : x.asItems? with
  | none =>
      intro value hvalue
      rw [List.mem_singleton.1 hvalue]
      exact h
  | some items => exact AllBare.asItems? h hitems

theorem combine_bare {values : List Value} (h : AllBare values) :
    (combine values).isBare = true := by
  apply isBare_list.2
  intro item hitem
  rcases List.mem_flatMap.1 hitem with ⟨value, hvalue, hitem⟩
  exact asItems?_getD_bare (h value hvalue) item hitem

theorem replicate_bare {x : Value} (h : x.isBare = true) (times : Value) :
    GivesBare (replicate x times) := by
  unfold replicate
  split
  · exact (repeated_keeps (asItems?_getD_bare h) _).map fun _ => isBare_list.2
  · trivial

theorem coalesce_bare {values : List Value} (h : AllBare values) :
    (coalesce values).isBare = true := by
  unfold coalesce
  cases hfound : values.find? fun value => !value.isMissing with
  | none => rfl
  | some value => exact h value (List.mem_of_find?_eq_some hfound)

end Aggregate

/-!
# Windows
-/

namespace Window

theorem lag_bare {x k blank : Value} (h : x.isBare = true) (hblank : blank.isBare = true) :
    GivesBare (lag x k blank) := by
  unfold lag
  apply (iterate_bare h).bind
  intro items hitems
  apply givesBare_bind
  intro none
  split
  · exact isBare_list.2 hitems
  · apply givesBare_bind
    intro places
    refine isBare_list.2 (Kept.append_iff.2 ⟨?_, hitems.take _⟩)
    intro value hvalue
    rw [List.eq_of_mem_replicate hvalue]
    exact hblank

theorem lead_bare {x k blank : Value} (h : x.isBare = true) (hblank : blank.isBare = true) :
    GivesBare (lead x k blank) := by
  unfold lead
  apply (iterate_bare h).bind
  intro items hitems
  apply givesBare_bind
  intro none
  split
  · exact isBare_list.2 hitems
  · split
    · refine isBare_list.2 (Kept.append_iff.2 ⟨hitems.drop _, ?_⟩)
      intro value hvalue
      rw [List.eq_of_mem_replicate hvalue]
      exact hblank
    · trivial

theorem running_bare {combine : Value -> Value -> Except Fault Value}
    (hcombine : forall {a b : Value}, a.isBare = true -> b.isBare = true ->
      GivesBare (combine a b)) {items : List Value} (hitems : AllBare items) {total : Value}
    (htotal : total.isBare = true) : GivesAllBare (running combine total items) := by
  induction items generalizing total with
  | nil => exact Kept.nil
  | cons value rest ih =>
      rcases Kept.cons_iff.1 hitems with ⟨hvalue, hrest⟩
      unfold running
      split
      · exact (ih hrest rfl).map fun _ hresults => Kept.cons_iff.2 ⟨rfl, hresults⟩
      · apply (closed_isBare.toNumber hvalue).bind
        intro number hnumber
        apply (hcombine htotal hnumber).bind
        intro next hnext
        apply (ih hrest hnext).bind
        intro results hresults
        exact Kept.cons_iff.2 ⟨hnext, hresults⟩

theorem cumulativeSum_bare {x : Value} (h : x.isBare = true) : GivesBare (cumulativeSum x) := by
  apply (iterate_bare h).bind
  intro items hitems
  exact (running_bare add_bare hitems rfl).map fun _ => isBare_list.2

theorem cumulativeProduct_bare {x : Value} (h : x.isBare = true) :
    GivesBare (cumulativeProduct x) := by
  apply (iterate_bare h).bind
  intro items hitems
  exact (running_bare multiply_bare hitems rfl).map fun _ => isBare_list.2

theorem scatter_bare {results : List (Nat × Value)}
    (h : forall entry, entry ∈ results -> entry.2.isBare = true) (size : Nat) :
    AllBare (scatter size results) := by
  apply allBare_map
  intro i
  cases hi : results.lookup i with
  | none => rfl
  | some value =>
      rcases List.lookup_eq_some_iff.1 hi with ⟨before, after, rfl, _⟩
      exact h (i, value) (List.mem_append_right _ (List.mem_cons_self ..))

theorem rankValues_bare (ranks : List (Nat × Nat)) :
    forall entry, entry ∈ rankValues ranks -> entry.2.isBare = true := by
  intro entry hentry
  rcases List.mem_map.1 hentry with ⟨rank, _, rfl⟩
  rfl

theorem ranked_bare {results : List (Nat × Value) -> Except Fault (List (Nat × Value))}
    (h : forall order, Ends (fun _ => True)
      (fun placed => forall entry, entry ∈ placed -> entry.2.isBare = true) (results order))
    (x : Value) : GivesBare (ranked x results) := by
  unfold ranked
  apply givesBare_bind
  intro size
  apply givesBare_bind
  intro items
  apply givesBare_bind
  intro found
  apply givesBare_bind
  intro order
  exact (h order).bind fun placed hplaced => isBare_list.2 (scatter_bare hplaced _)

theorem minRank_bare (x : Value) : GivesBare (minRank x) :=
  ranked_bare (fun _ => (ends_any _).map fun ranks _ => rankValues_bare ranks) x

theorem denseRank_bare (x : Value) : GivesBare (denseRank x) :=
  ranked_bare (fun _ => (ends_any _).map fun ranks _ => rankValues_bare ranks) x

theorem share_bare (count rank : Nat) : GivesBare (share count rank) := by
  unfold share
  split
  · rfl
  · exact (divideInts_atom _ _).bare

theorem percentRank_bare (x : Value) : GivesBare (percentRank x) := by
  apply ranked_bare
  intro order
  have hshare : forall entry : Nat × Nat,
      Ends (fun _ => True) (fun found : Nat × Value => found.2.isBare = true)
        ((share order.length entry.2).map fun value => (entry.1, value)) :=
    fun entry => (share_bare order.length entry.2).map fun _ hvalue => hvalue
  exact (ends_any _).bind_any fun _ => Ends.mapM fun entry _ => hshare entry

theorem bucket_bare {count place : Nat} {n : Value} : GivesBare (bucket count place n) :=
  givesBare_bind fun scaled => (floorDivide_atom scaled _).bare.bind fun _ hbelow =>
    add_bare hbelow rfl

theorem ntile_bare (x n : Value) : GivesBare (ntile x n) := by
  apply ranked_bare
  intro order
  have hbucket : forall entry : (Nat × Value) × Nat,
      Ends (fun _ => True) (fun found : Nat × Value => found.2.isBare = true)
        ((bucket order.length entry.2 n).map fun value => (entry.1.1, value)) :=
    fun entry => bucket_bare.map fun _ hvalue => hvalue
  exact Ends.mapM fun entry _ => hbucket entry

end Window

end Wrangle
