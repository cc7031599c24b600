import Wrangle.Proofs.Outcome
import Wrangle.Proofs.Fragment.Walking
import Wrangle.Proofs.Interpolation.Resolved
import Wrangle.Proofs.Value.Numbering

/-!
# Texts of fragments in their resolution

The text of a fragment is shown in errors, and it is what the undefined numbers that its markers
bring are numbered by.  Apart from that it makes no difference: with another text a tree is resolved
to the same tree, up to literals that are copies of each other.
-/

namespace Wrangle
namespace Interpolation

open Node

/-!
# Evaluation
-/

section Evaluation

variable {env : Environment} (source other : String)

theorem rejected_alike (message : String) (hint : Option String) :
    Alike (rejected message hint source : Outcome alpha) (rejected message hint other) :=
  .failure ⟨rfl, rfl⟩

theorem lookup_alike (name : String) : Alike (lookup env source name) (lookup env other name) := by
  unfold lookup
  split
  · exact Alike.refl _
  · split
    · exact Alike.refl _
    · exact rejected_alike source other _ _

theorem reported_alike (node : Node) (outcome : Outcome Value) :
    Alike (reported node source outcome) (reported node other outcome) := by
  unfold reported
  split
  · apply (Alike.refl (Outcome.ofFault node.canonicalText?)).bind
    intro text _
    exact rejected_alike source other _ _
  · exact Alike.refl _

theorem callValue_alike (node : Node) (head : String) (isOperator : Bool) (values : List Value)
    (named : List (String × Value)) :
    Alike (callValue env source node head isOperator values named)
      (callValue env other node head isOperator values named) := by
  unfold callValue
  split
  · split
    · exact Alike.refl _
    · split
      · exact reported_alike source other node _
      · exact Alike.refl _
  · apply (lookup_alike source other head).bind
    intro found _
    split
    · exact reported_alike source other node _
    · exact rejected_alike source other _ _

theorem rangeValues_alike (start stop : Value) :
    Alike (rangeValues source start stop) (rangeValues other start stop) := by
  unfold rangeValues
  split
  · exact Alike.refl _
  · exact rejected_alike source other _ _

theorem noValue_alike (node : Node) : Alike (noValue source node) (noValue other node) := by
  unfold noValue
  apply (Alike.refl (Outcome.ofFault node.canonicalText?)).bind
  intro text _
  exact rejected_alike source other _ _

mutual

theorem evaluate_alike : forall tree : Node,
    Alike (evaluate env source tree) (evaluate env other tree)
  | .literal value => Alike.refl _
  | .identifier name => lookup_alike source other name
  | .interpolate inner => evaluate_alike inner
  | .vector items => (evaluateAll_alike items).map
  | .tuple items => (evaluateAll_alike items).map
  | .range start stop => by
      rw [evaluate, evaluate]
      apply (evaluate_alike start).bind
      intro a _
      apply (evaluate_alike stop).bind
      intro b _
      exact rangeValues_alike source other a b
  | .call head args kwargs isOperator => by
      rw [evaluate, evaluate]
      apply (evaluateAll_alike args).bind
      intro values _
      apply (evaluateNamed_alike [] kwargs).bind
      intro named _
      exact callValue_alike source other _ head isOperator values named
  | .assignment target value => noValue_alike source other _
  | .pair left right => noValue_alike source other _
  | .splice items => noValue_alike source other _
  | .foreign value => noValue_alike source other _

theorem evaluateAll_alike : forall trees : List Node,
    Alike (evaluateAll env source trees) (evaluateAll env other trees)
  | [] => Alike.refl _
  | tree :: rest => by
      rw [evaluateAll, evaluateAll]
      apply (evaluate_alike tree).bind
      intro value _
      apply (evaluateAll_alike rest).bind
      intro values _
      exact Alike.refl _

theorem evaluateNamed_alike (named : List (String × Value)) : forall entries : List (String × Node),
    Alike (evaluateNamed env source named entries) (evaluateNamed env other named entries)
  | [] => Alike.refl _
  | (name, tree) :: rest => by
      rw [evaluateNamed, evaluateNamed]
      apply (evaluate_alike tree).bind
      intro value _
      exact evaluateNamed_alike _ rest

end

end Evaluation

/-!
# Values that are put in
-/

def IgnoresNumbers (f : Value -> Value) : Prop :=
  forall value n, isScalar value = true -> f (value.numbered n) = f value

/-- A value whose copies are all seen alike: the view tells no numbers, or there are none to
give. -/
def SeenAlike (f : Value -> Value) (value : Value) : Prop :=
  IgnoresNumbers f ∨ value.isSettled = true

/-- Copies of one value that are seen alike as literals. -/
structure Interchange (f : Value -> Value) (a b : Value) : Prop where
  twins : Value.Twins a b
  literal : isScalar a = true -> f a = f b

def SameTree (f : Value -> Value) (tree other : Node) : Prop :=
  tree.mapLiterals f = other.mapLiterals f

section Splicing

variable {f : Value -> Value} {source other : String} {value a b : Value}

theorem Interchange.refl (f : Value -> Value) (value : Value) : Interchange f value value :=
  ⟨Value.Twins.refl value, fun _ => rfl⟩

theorem isScalar_copy {base value : Value} (h : Value.Copy base value) :
    isScalar value = isScalar base := by
  cases h with
  | itself => rfl
  | numbered n => cases base <;> rfl

theorem IgnoresNumbers.copy (hf : IgnoresNumbers f) {base value : Value}
    (h : Value.Copy base value) (hscalar : isScalar base = true) : f value = f base := by
  cases h with
  | itself => rfl
  | numbered n => exact hf base n hscalar

theorem interchange_of_copies (h : SeenAlike f value) (ha : Value.Copy value a)
    (hb : Value.Copy value b) : Interchange f a b := by
  refine ⟨⟨value, ha, hb⟩, fun hscalar => ?_⟩
  rcases h with hf | hsettled
  · rw [isScalar_copy ha] at hscalar
    rw [hf.copy ha hscalar, hf.copy hb hscalar]
  · rw [ha.eq_of_isSettled hsettled, hb.eq_of_isSettled hsettled]

theorem spliceOne_corresponds (h : Interchange f a b) :
    Corresponds (fun node another => SameTree f node another ∧ itemKind node = itemKind another)
      (spliceOne source a) (spliceOne other b) := by
  rcases h with ⟨⟨base, ha, hb⟩, hliteral⟩
  cases base with
  | missing | bool _ | int _ | float _ _ | str _ | date _ | datetime _ | time _ | decimal _ _ =>
      cases ha <;> cases hb <;> exact .results ⟨congrArg Node.literal (hliteral rfl), rfl⟩
  | quoted _ | sym _ =>
      cases ha <;> cases hb <;> exact .results ⟨rfl, rfl⟩
  | _ => cases ha <;> cases hb <;> exact .failures ⟨rfl, rfl⟩

/-- Two values that are both single, or have items that are related one by one, or have items that
cannot be listed for one reason. -/
inductive Listed (related : Value -> Value -> Prop) :
    Option (Except Fault (List Value)) -> Option (Except Fault (List Value)) -> Prop where
  | single : Listed related none none
  | fault (f : Fault) : Listed related (some (.error f)) (some (.error f))
  | items {items others : List Value} (h : List.Forall₂ related items others) :
      Listed related (some (.ok items)) (some (.ok others))

theorem Listed.refl {related : Value -> Value -> Prop} (h : forall item, related item item)
    (listing : Option (Except Fault (List Value))) : Listed related listing listing := by
  rcases listing with _ | f | items
  · exact .single
  · exact .fault f
  · exact .items (List.forall₂_same.2 fun item _ => h item)

theorem setItems_copies (n : Nat) (items : List Value) :
    Listed Value.Copy (some (setItems items)) (some (setItems (Value.allNumbered n items))) := by
  unfold setItems
  rw [Value.areWritable_allNumbered]
  split
  · exact .items (Value.copies_mergeSort (Value.copies_allNumbered n items))
  · exact .fault _

theorem sequenceItems?_copy {base value : Value} (h : Value.Copy base value) :
    Listed Value.Copy (sequenceItems? base) (sequenceItems? value) := by
  cases h with
  | itself => exact Listed.refl (fun _ => .itself) _
  | numbered n =>
      cases base with
      | list items => exact .items (Value.copies_allNumbered n items)
      | tuple items => exact .items (Value.copies_allNumbered n items)
      | set items => exact setItems_copies n items
      | column items => exact Listed.refl (fun _ => .itself) (some (.ok items))
      | range start stop step => exact Listed.refl (fun _ => .itself) _
      | _ => exact .single

theorem interchange_of_forall₂ (hf : IgnoresNumbers f) {items some others : List Value}
    (hsome : List.Forall₂ Value.Copy items some) (hothers : List.Forall₂ Value.Copy items others) :
    List.Forall₂ (Interchange f) some others := by
  induction hsome generalizing others with
  | nil =>
      cases hothers
      exact List.Forall₂.nil
  | cons ha _ ih =>
      rcases hothers with _ | ⟨hb, hrest⟩
      exact List.Forall₂.cons (interchange_of_copies (.inl hf) ha hb) (ih hrest)

theorem items_interchange (h : SeenAlike f value) (ha : Value.Copy value a)
    (hb : Value.Copy value b) : Listed (Interchange f) (sequenceItems? a) (sequenceItems? b) := by
  rcases h with hf | hsettled
  · have hsome := sequenceItems?_copy ha
    have hothers := sequenceItems?_copy hb
    generalize sequenceItems? value = listing at hsome hothers
    generalize sequenceItems? a = some at hsome ⊢
    generalize sequenceItems? b = others at hothers ⊢
    cases hsome with
    | single =>
        cases hothers
        exact .single
    | fault f =>
        cases hothers
        exact .fault f
    | items hitems =>
        rcases hothers with _ | _ | hmore
        exact .items (interchange_of_forall₂ hf hitems hmore)
  · rw [ha.eq_of_isSettled hsettled, hb.eq_of_isSettled hsettled]
    exact Listed.refl (Interchange.refl f) _

theorem vectorOf_corresponds {nodes others : List Node}
    (h : List.Forall₂ (fun node another => SameTree f node another ∧
      itemKind node = itemKind another) nodes others) :
    Corresponds (SameTree f) (vectorOf source nodes) (vectorOf other others) := by
  have htrees : nodes.map (mapLiterals f) = others.map (mapLiterals f) :=
    map_eq_map_of_forall₂ (h.imp fun _ _ hitem => hitem.1)
  have hkinds : nodes.map itemKind = others.map itemKind :=
    map_eq_map_of_forall₂ (h.imp fun _ _ hitem => hitem.2)
  unfold vectorOf itemKinds
  rw [hkinds]
  dsimp only
  split
  · exact .failures ⟨rfl, rfl⟩
  · apply Corresponds.results
    rw [SameTree, mapLiterals, mapLiterals, mapLiteralsAll_eq, mapLiteralsAll_eq, htrees]

theorem splice_corresponds (h : SeenAlike f value) (ha : Value.Copy value a)
    (hb : Value.Copy value b) (several : Bool) :
    Corresponds (SameTree f) (splice source several a) (splice other several b) := by
  have hitems := items_interchange h ha hb
  unfold splice
  generalize sequenceItems? a = some at hitems ⊢
  generalize sequenceItems? b = others at hitems ⊢
  cases hitems with
  | single =>
      exact (spliceOne_corresponds (interchange_of_copies h ha hb)).mono fun _ _ hnode => hnode.1
  | fault f => exact .failures rfl
  | items hitems =>
      apply (Corresponds.mapM (hitems.imp fun _ _ hitem => spliceOne_corresponds hitem)).bind
      intro nodes more hnodes
      split
      · apply Corresponds.results
        rw [SameTree, mapLiterals, mapLiterals, mapLiteralsAll_eq, mapLiteralsAll_eq,
          map_eq_map_of_forall₂ (hnodes.imp fun _ _ hitem => hitem.1)]
      · exact vectorOf_corresponds hnodes

end Splicing

/-!
# Resolution
-/

theorem map_flatten (f : Value -> Value) (items : List Node) :
    (flatten items).map (mapLiterals f) = flatten (items.map (mapLiterals f)) := by
  induction items with
  | nil => rfl
  | cons item rest ih =>
      unfold flatten at ih ⊢
      rw [List.flatMap_cons, List.map_append, ih, List.map_cons, List.flatMap_cons]
      cases item with
      | splice inner =>
          rw [mapLiterals]
          exact congrArg (· ++ _) (mapLiteralsAll_eq inner).symm
      | _ => rfl

theorem mapLiterals_rebuild (f : Value -> Value) (tree : Node) (nodes : List Node) :
    (rebuild tree nodes).mapLiterals f =
      rebuild (tree.mapLiterals f) (nodes.map (mapLiterals f)) := by
  cases tree with
  | call head args kwargs isOperator =>
      rw [rebuild, mapLiterals, mapLiterals, rebuild, mapLiteralsNamed_names, mapLiteralsNamed_zip,
        mapLiteralsAll_eq, mapLiteralsAll_eq, map_flatten, List.map_take, List.map_drop,
        List.length_map]
  | assignment target value => rcases nodes with _ | ⟨node, _ | _⟩ <;> rfl
  | pair left right | range left right =>
      rcases nodes with _ | ⟨node, _ | ⟨next, _ | _⟩⟩ <;> rfl
  | vector items | tuple items | splice items =>
      rw [rebuild, mapLiterals, mapLiterals, rebuild, mapLiteralsAll_eq, map_flatten]
  | _ => rfl

def MarkersSeenAlike (f : Value -> Value) (env : Environment) (source : String) (tree : Node) :
    Prop :=
  forall inner, Marks inner tree -> forall value, evaluate env source inner = .ok value ->
    SeenAlike f value

section Resolution

variable {f : Value -> Value} {env : Environment} {source other : String}

theorem MarkersSeenAlike.place {tree : Node} (h : MarkersSeenAlike f env source tree)
    {part : Bool × Node} (hpart : part ∈ places tree) : MarkersSeenAlike f env source part.2 :=
  fun inner hmarks => h inner (.place hpart hmarks)

theorem marker_corresponds {inner : Node} (h : MarkersSeenAlike f env source (.interpolate inner))
    (several : Bool) :
    Corresponds (SameTree f) (resolveNode env source several (.interpolate inner))
      (resolveNode env other several (.interpolate inner)) := by
  have hvalues : Corresponds (fun value found => value = found ∧ SeenAlike f value)
      (evaluate env source inner) (evaluate env other inner) :=
    .of_alike (evaluate_alike source other inner) fun value hvalue =>
      ⟨rfl, h inner .marker value hvalue⟩
  rw [resolveNode, resolveNode]
  apply hvalues.bind
  rintro value _ ⟨rfl, hseen⟩
  exact splice_corresponds hseen (Value.Copy.itself.settled _ _) (Value.Copy.itself.settled _ _)
    several

theorem resolveNode_corresponds {tree : Node} (h : MarkersSeenAlike f env source tree)
    (several : Bool) :
    Corresponds (SameTree f) (resolveNode env source several tree)
      (resolveNode env other several tree) := by
  induction tree using places_induction generalizing several with
  | h tree ih =>
      by_cases hmarker : exists inner, tree = .interpolate inner
      · rcases hmarker with ⟨inner, rfl⟩
        exact marker_corresponds h several
      · by_cases hforeign : exists value, tree = .foreign value
        · rcases hforeign with ⟨value, rfl⟩
          exact .failures ⟨rfl, rfl⟩
        · have hnoMarker : forall inner, tree ≠ .interpolate inner :=
            fun inner hsame => hmarker ⟨inner, hsame⟩
          have hnoForeign : forall value, tree ≠ .foreign value :=
            fun value hsame => hforeign ⟨value, hsame⟩
          have hparts : List.Forall₂ (fun part same => Corresponds (SameTree f)
              (resolvePart env source part) (resolvePart env other same))
              (places tree) (places tree) :=
            List.forall₂_same.2 fun part hpart => ih part hpart (h.place hpart) part.1
          rw [resolveNode_eq_rebuild hnoMarker hnoForeign,
            resolveNode_eq_rebuild hnoMarker hnoForeign]
          apply (Corresponds.mapM hparts).map
          intro nodes others hnodes
          rw [SameTree, mapLiterals_rebuild, mapLiterals_rebuild, map_eq_map_of_forall₂ hnodes]

end Resolution

end Interpolation
end Wrangle
