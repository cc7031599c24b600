import Mathlib.Data.List.Forall2
import Wrangle.Proofs.Interpolation.Failures
import Wrangle.Proofs.Interpolation.Mentions

/-!
# Resolved trees

A tree that is no marker is resolved by resolving its parts and putting them together again, where
the items of splices take the place of these.  So what resolution does is shown by induction on the
parts of a tree.  It leaves no marker behind, and no splice but one at the root, and a resolved tree
is resolved to itself with any variables.
-/

namespace Wrangle
namespace Interpolation

open Node

/-!
# Parts
-/

theorem sizeOf_place {tree : Node} {part : Bool × Node} (h : part ∈ places tree) :
    sizeOf part.2 < sizeOf tree := by
  cases tree with
  | call head args kwargs isOperator =>
      rcases List.mem_append.1 h with h | h
      · rcases List.mem_map.1 h with ⟨arg, harg, rfl⟩
        have hsize := List.sizeOf_lt_of_mem harg
        simp only [call.sizeOf_spec]
        omega
      · rcases List.mem_map.1 h with ⟨entry, hentry, rfl⟩
        have hsize := List.sizeOf_lt_of_mem hentry
        rcases entry with ⟨name, value⟩
        simp only [Prod.mk.sizeOf_spec] at hsize
        simp only [call.sizeOf_spec]
        omega
  | assignment target value =>
      rw [List.mem_singleton.1 h, assignment.sizeOf_spec]
      dsimp only
      omega
  | pair left right =>
      rw [pair.sizeOf_spec]
      rcases List.mem_cons.1 h with rfl | h
      · dsimp only
        omega
      · rw [List.mem_singleton.1 h]
        dsimp only
        omega
  | range start stop =>
      rw [range.sizeOf_spec]
      rcases List.mem_cons.1 h with rfl | h
      · dsimp only
        omega
      · rw [List.mem_singleton.1 h]
        dsimp only
        omega
  | vector items | tuple items | splice items =>
      rcases List.mem_map.1 h with ⟨item, hitem, rfl⟩
      have hsize := List.sizeOf_lt_of_mem hitem
      simp only [vector.sizeOf_spec, tuple.sizeOf_spec, splice.sizeOf_spec]
      omega
  | _ => cases h

theorem places_induction {motive : Node -> Prop}
    (h : forall tree, (forall part, part ∈ places tree -> motive part.2) -> motive tree)
    (tree : Node) : motive tree :=
  h tree fun part _ => places_induction h part.2
termination_by sizeOf tree
decreasing_by exact sizeOf_place ‹_›

theorem mem_walk_of_place {tree node : Node} {part : Bool × Node} (h : part ∈ places tree)
    (hnode : node ∈ part.2.walk) : node ∈ tree.walk := by
  cases tree with
  | call head args kwargs isOperator =>
      rw [walk, List.mem_cons, List.mem_append]
      right
      rcases List.mem_append.1 h with h | h
      · rcases List.mem_map.1 h with ⟨arg, harg, rfl⟩
        exact Or.inl (mem_walkAll harg hnode)
      · rcases List.mem_map.1 h with ⟨entry, hentry, rfl⟩
        exact Or.inr (mem_walkNamed hentry hnode)
  | assignment target value =>
      rw [List.mem_singleton.1 h] at hnode
      exact List.mem_cons_of_mem _ hnode
  | pair left right | range left right =>
      rw [walk, List.mem_cons, List.mem_append]
      right
      rcases List.mem_cons.1 h with rfl | h
      · exact Or.inl hnode
      · rw [List.mem_singleton.1 h] at hnode
        exact Or.inr hnode
  | vector items | tuple items | splice items =>
      rcases List.mem_map.1 h with ⟨item, hitem, rfl⟩
      exact List.mem_cons_of_mem _ (mem_walkAll hitem hnode)
  | _ => cases h

theorem mem_walk_iff {tree node : Node} (htree : forall inner, tree ≠ .interpolate inner) :
    node ∈ tree.walk <-> node = tree ∨ exists part, part ∈ places tree ∧ node ∈ part.2.walk := by
  constructor
  · intro hnode
    cases tree with
    | call head args kwargs isOperator =>
        rw [walk, List.mem_cons, List.mem_append, mem_walkAll_iff, mem_walkNamed_iff] at hnode
        rcases hnode with rfl | ⟨arg, harg, hnode⟩ | ⟨entry, hentry, hnode⟩
        · exact Or.inl rfl
        · exact Or.inr ⟨_, List.mem_append_left _ (List.mem_map_of_mem harg), hnode⟩
        · exact Or.inr ⟨_, List.mem_append_right _ (List.mem_map_of_mem hentry), hnode⟩
    | interpolate inner => exact absurd rfl (htree inner)
    | vector items | tuple items | splice items =>
        rw [walk, List.mem_cons, mem_walkAll_iff] at hnode
        rcases hnode with rfl | ⟨item, hitem, hnode⟩
        · exact Or.inl rfl
        · exact Or.inr ⟨_, List.mem_map_of_mem hitem, hnode⟩
    | _ => simpa [walk, places] using hnode
  · intro h
    rcases h with rfl | ⟨part, hpart, hnode⟩
    · exact mem_walk_self _
    · exact mem_walk_of_place hpart hnode

/-!
# Putting parts together
-/

/-- A tree of the same kind with other parts; the items of splices among them take their place. -/
def rebuild : Node -> List Node -> Node
  | .call head args kwargs isOperator, parts =>
      .call head (flatten (parts.take args.length))
        ((kwargs.map Prod.fst).zip (parts.drop args.length)) isOperator
  | .assignment target _, [value] => .assignment target value
  | .pair _ _, [left, right] => .pair left right
  | .range _ _, [start, stop] => .range start stop
  | .vector _, parts => .vector (flatten parts)
  | .tuple _, parts => .tuple (flatten parts)
  | .splice _, parts => .splice (flatten parts)
  | tree, _ => tree

theorem resolveNode_eq_rebuild {env : Environment} {source : String} {tree : Node}
    (hmarker : forall inner, tree ≠ .interpolate inner)
    (hforeign : forall value, tree ≠ .foreign value) (several : Bool) :
    resolveNode env source several tree =
      ((places tree).mapM (resolvePart env source)).map (rebuild tree) := by
  cases tree with
  | interpolate inner => exact absurd rfl (hmarker inner)
  | foreign value => exact absurd rfl (hforeign value)
  | call head args kwargs isOperator =>
      rw [resolveNode, resolveAllNodes_eq, resolveNamed_eq, places, List.mapM_append]
      cases hargs : (args.map (!isOperator && !singleArgumentHeads.contains head, ·)).mapM
          (resolvePart env source) with
      | error failure => rfl
      | ok nodes =>
          have hlength := length_of_mapM_eq_ok hargs
          rw [List.length_map] at hlength
          rw [ok_bind, ok_bind]
          cases (kwargs.map fun entry => (false, entry.2)).mapM (resolvePart env source) with
          | error failure => rfl
          | ok named =>
              show Except.ok _ = Except.ok (rebuild _ (nodes ++ named))
              rw [rebuild, List.take_left' hlength, List.drop_left' hlength]
  | assignment target value =>
      rw [resolveNode, places, List.mapM_cons]
      show resolvePart env source (false, value) >>= _ = _
      cases resolvePart env source (false, value) <;> rfl
  | pair left right | range left right =>
      rw [resolveNode, places, List.mapM_cons, List.mapM_cons]
      show resolvePart env source (false, left) >>= _ = _
      cases resolvePart env source (false, left) with
      | error failure => rfl
      | ok a =>
          show resolvePart env source (false, right) >>= _ = _
          cases resolvePart env source (false, right) <;> rfl
  | vector items | tuple items | splice items =>
      rw [resolveNode, resolveAllNodes_eq, places]
      cases (items.map (true, ·)).mapM (resolvePart env source) <;> rfl
  | identifier name => rfl
  | literal value => rfl

end Interpolation

/-!
# Trees without markers
-/

namespace Node

/-- Whether a node is one that resolution has to replace: a marker, a splice, or a plain value in
the place of a tree. -/
def isPending : Node -> Bool
  | interpolate _ => true
  | splice _ => true
  | foreign _ => true
  | _ => false

/-- A tree in which nothing is left to replace. -/
def IsResolved (tree : Node) : Prop :=
  forall node, node ∈ tree.walk -> node.isPending = false

theorem IsResolved.root {tree : Node} (h : tree.IsResolved) : tree.isPending = false :=
  h tree (mem_walk_self tree)

theorem siblings_eq_self {tree : Node} (h : tree.IsResolved) : tree.siblings = [tree] := by
  cases tree with
  | splice items => cases h.root
  | _ => rfl

theorem isPending_of_isWritten {node : Node} (h : node.isWritten = true)
    (hmarker : forall inner, node ≠ interpolate inner) : node.isPending = false := by
  cases node with
  | interpolate inner => exact absurd rfl (hmarker inner)
  | splice items => cases h
  | foreign value => cases h
  | _ => rfl

end Node

namespace Interpolation

open Node

/-- What resolution may give: a resolved tree or, where several items may stand, a splice of
such. -/
inductive Settles (several : Bool) : Node -> Prop where
  | single {tree : Node} : tree.IsResolved -> Settles several tree
  | several {items : List Node} : several = true ->
      (forall item, item ∈ items -> item.IsResolved) -> Settles several (.splice items)

theorem Settles.isResolved {tree : Node} (h : Settles false tree) : tree.IsResolved := by
  cases h with
  | single h => exact h
  | several h _ => cases h

theorem Settles.anywhere {several : Bool} {tree : Node} (h : Settles several tree) :
    Settles true tree := by
  cases h with
  | single h => exact .single h
  | several _ h => exact .several rfl h

/-!
# Resolved parts
-/

theorem isResolved_iff {tree : Node} :
    tree.IsResolved <->
      tree.isPending = false ∧ forall part, part ∈ places tree -> part.2.IsResolved := by
  constructor
  · intro h
    exact ⟨h.root, fun part hpart node hnode => h node (mem_walk_of_place hpart hnode)⟩
  · intro h node hnode
    rcases h with ⟨hroot, hparts⟩
    have hmarker : forall inner, tree ≠ .interpolate inner := by
      rintro inner rfl
      cases hroot
    rcases (mem_walk_iff hmarker).1 hnode with rfl | ⟨part, hpart, hnode⟩
    · exact hroot
    · exact hparts part hpart node hnode

theorem flatten_eq_self {items : List Node}
    (h : forall item, item ∈ items -> forall inner, item ≠ .splice inner) :
    flatten items = items := by
  induction items with
  | nil => rfl
  | cons item rest ih =>
      rcases List.forall_mem_cons.1 h with ⟨hitem, hrest⟩
      have hsame := ih hrest
      unfold flatten at hsame ⊢
      rw [List.flatMap_cons, hsame]
      cases item with
      | splice inner => exact absurd rfl (hitem inner)
      | _ => rfl

theorem flatten_of_isResolved {items : List Node}
    (h : forall item, item ∈ items -> item.IsResolved) : flatten items = items := by
  apply flatten_eq_self
  rintro item hitem inner rfl
  cases (h _ hitem).root

theorem isResolved_of_mem_flatten {nodes : List Node} {item : Node}
    (h : forall node, node ∈ nodes -> Settles true node) (hitem : item ∈ flatten nodes) :
    item.IsResolved := by
  rcases List.mem_flatMap.1 hitem with ⟨node, hnode, hitem⟩
  cases h node hnode with
  | several _ hitems => exact hitems item hitem
  | single hresolved =>
      cases node with
      | splice inner => cases hresolved.root
      | _ =>
          rw [List.mem_singleton.1 hitem]
          exact hresolved

theorem rebuild_places {tree : Node}
    (h : forall part, part ∈ places tree -> part.2.IsResolved) :
    rebuild tree ((places tree).map Prod.snd) = tree := by
  cases tree with
  | call head args kwargs isOperator =>
      have hargs : forall arg, arg ∈ args -> arg.IsResolved := fun arg harg =>
        h _ (List.mem_append_left _ (List.mem_map_of_mem harg))
      have hparts : (places (.call head args kwargs isOperator)).map Prod.snd =
          args ++ kwargs.map Prod.snd := by
        simp [places, Function.comp_def]
      rw [hparts, rebuild, List.take_left' rfl, List.drop_left' rfl, flatten_of_isResolved hargs,
        ← List.zip_of_prod rfl rfl]
  | vector items | tuple items | splice items =>
      have hitems : forall item, item ∈ items -> item.IsResolved := fun item hitem =>
        h _ (List.mem_map_of_mem hitem)
      have hparts : (items.map fun item => (true, item)).map Prod.snd = items := by
        simp [Function.comp_def]
      rw [places, hparts, rebuild, flatten_of_isResolved hitems]
  | _ => rfl

section Resolution

variable {env : Environment} {source : String}

theorem resolveNode_of_parts {tree : Node} (hmarker : forall inner, tree ≠ .interpolate inner)
    (hforeign : forall value, tree ≠ .foreign value)
    (hparts : forall part, part ∈ places tree ->
      part.2.IsResolved ∧ resolvePart env source part = .ok part.2) (several : Bool) :
    resolveNode env source several tree = .ok tree := by
  rw [resolveNode_eq_rebuild hmarker hforeign,
    mapM_eq_ok fun part hpart => (hparts part hpart).2]
  exact congrArg Except.ok (rebuild_places fun part hpart => (hparts part hpart).1)

theorem resolveNode_of_isResolved {tree : Node} (h : tree.IsResolved) (several : Bool) :
    resolveNode env source several tree = .ok tree := by
  induction tree using places_induction generalizing several with
  | h tree ih =>
      rcases isResolved_iff.1 h with ⟨hroot, hparts⟩
      apply resolveNode_of_parts
      · rintro inner rfl
        cases hroot
      · rintro value rfl
        cases hroot
      · intro part hpart
        exact ⟨hparts part hpart, ih part hpart (hparts part hpart) part.1⟩

theorem resolveNode_of_settles {tree : Node} (h : Settles true tree) :
    resolveNode env source true tree = .ok tree := by
  cases h with
  | single hresolved => exact resolveNode_of_isResolved hresolved true
  | several _ hitems =>
      apply resolveNode_of_parts (fun _ h => by cases h) fun _ h => by cases h
      intro part hpart
      rcases List.mem_map.1 hpart with ⟨item, hitem, rfl⟩
      exact ⟨hitems item hitem, resolveNode_of_isResolved (hitems item hitem) true⟩

end Resolution

/-!
# Values that are put in
-/

/-- A quoted fragment that a value is, or that is one of its items. -/
inductive Quotes (text : String) : Value -> Prop where
  | itself : Quotes text (.quoted text)
  | item {value : Value} {items : List Value} :
      sequenceItems? value = some (.ok items) -> .quoted text ∈ items -> Quotes text value

theorem eq_quoted_of_numbered {n : Nat} {value : Value} {text : String}
    (h : value.numbered n = .quoted text) : value = .quoted text := by
  cases value with
  | quoted other => exact h
  | _ => cases h

theorem quoted_mem_of_allNumbered {n : Nat} {items : List Value} {text : String}
    (h : .quoted text ∈ Value.allNumbered n items) : .quoted text ∈ items := by
  induction items generalizing n with
  | nil => cases h
  | cons first rest ih =>
      rw [Value.allNumbered] at h
      rcases List.mem_cons.1 h with hfirst | h
      · rw [eq_quoted_of_numbered hfirst.symm]
        exact List.mem_cons_self
      · exact List.mem_cons_of_mem _ (ih h)

theorem setItems_eq_ok_iff {values items : List Value} :
    setItems values = .ok items <-> Value.areWritable values = true ∧
      values.mergeSort (fun a b => decide (a.printed <= b.printed)) = items := by
  unfold setItems
  split <;> simp [*]

theorem quotes_of_settled {text name : String} {sources : List Value} {value : Value}
    (h : Quotes text (value.settled name sources)) : Quotes text value := by
  unfold Value.settled at h
  split at h
  · exact h
  · generalize Value.digestAll _ _ = n at h
    generalize hvalue : value.numbered n = numbered at h
    cases h with
    | itself =>
        rw [eq_quoted_of_numbered hvalue]
        exact .itself
    | @item _ items hitems htext =>
        cases value with
        | list found | tuple found =>
            cases hvalue
            cases hitems
            exact .item rfl (quoted_mem_of_allNumbered htext)
        | set found =>
            cases hvalue
            rcases setItems_eq_ok_iff.1 (Option.some.inj hitems) with ⟨hwritable, rfl⟩
            rw [Value.areWritable_allNumbered] at hwritable
            have hfound : sequenceItems? (.set found) = some (.ok _) :=
              congrArg some (setItems_eq_ok_iff.2 ⟨hwritable, rfl⟩)
            apply Quotes.item hfound
            exact List.mem_mergeSort.2 (quoted_mem_of_allNumbered (List.mem_mergeSort.1 htext))
        | _ =>
            cases hvalue
            exact .item hitems htext

section Splicing

variable {source : String} {value : Value} {node : Node}

theorem isResolved_leaf {tree : Node} (hroot : tree.isPending = false)
    (hplaces : places tree = []) : tree.IsResolved := by
  rw [isResolved_iff, hplaces]
  exact ⟨hroot, nofun⟩

theorem spliceOne_isResolved
    (hquoted : forall text, value = .quoted text -> (quotedNode text).IsResolved)
    (h : spliceOne source value = .ok node) : node.IsResolved := by
  unfold spliceOne at h
  split at h
  · cases h
    exact hquoted _ rfl
  · cases h
    exact isResolved_leaf rfl rfl
  · split at h
    · cases h
      exact isResolved_leaf rfl rfl
    · cases h

theorem splice_settles {several : Bool}
    (hquotes : forall text, Quotes text value -> (quotedNode text).IsResolved)
    (h : splice source several value = .ok node) : Settles several node := by
  unfold splice at h
  split at h
  · apply Settles.single
    apply spliceOne_isResolved _ h
    rintro text rfl
    exact hquotes text .itself
  · rename_i values hvalues
    rcases bind_eq_ok_iff.1 h with ⟨found, hfound, h⟩
    rcases bind_eq_ok_iff.1 h with ⟨items, hitems, h⟩
    rw [ofFault_eq_ok_iff.1 hfound] at hvalues
    have heach : List.Forall₂ (fun (item : Node) (_ : Value) => item.IsResolved) items found :=
      forall₂_of_mapM_eq_ok hitems fun one hone item hitem => spliceOne_isResolved
        (fun text htext => hquotes text (.item hvalues (htext ▸ hone))) hitem
    have hresolved : forall item, item ∈ items -> item.IsResolved := by
      intro item hitem
      rcases exists_of_forall₂ heach hitem with ⟨_, _, hitem⟩
      exact hitem
    split at h
    · cases h
      exact .several (by assumption) hresolved
    · unfold vectorOf at h
      dsimp only at h
      split at h
      · cases h
      · cases h
        apply Settles.single
        rw [isResolved_iff]
        refine ⟨rfl, ?_⟩
        intro part hpart
        rcases List.mem_map.1 hpart with ⟨item, hitem, rfl⟩
        exact hresolved item hitem

theorem quotedNode_isResolved {text : String}
    (h : forall inner, .interpolate inner ∉ (quotedNode text).walk) :
    (quotedNode text).IsResolved := by
  intro node hnode
  apply isPending_of_isWritten
  · unfold quotedNode at hnode
    split at hnode
    · rename_i tree hparse
      exact Grammar.isWritten_of_parse hparse hnode
    · rw [List.mem_singleton.1 hnode]
      rfl
  · rintro inner rfl
    exact h inner hnode

end Splicing

/-!
# Resolution
-/

/-- A marker of a tree that stands in no other marker. -/
inductive Marks (inner : Node) : Node -> Prop where
  | marker : Marks inner (.interpolate inner)
  | place {tree : Node} {part : Bool × Node} :
      part ∈ places tree -> Marks inner part.2 -> Marks inner tree

/-- The values of the markers of a tree have quoted fragments only without markers. -/
def QuotesAreFinal (env : Environment) (source : String) (tree : Node) : Prop :=
  forall inner, Marks inner tree -> forall value, evaluate env source inner = .ok value ->
    forall text, Quotes text value ->
      forall marker, .interpolate marker ∉ (quotedNode text).walk

section Resolution

variable {env : Environment} {source : String}

/-- What each part of a tree resolves to, where several items may stand in some places. -/
abbrev AllSettle (nodes : List Node) (parts : List (Bool × Node)) : Prop :=
  List.Forall₂ (fun node part => Settles part.1 node) nodes parts

theorem isResolved_of_flatten {nodes : List Node} {parts : List (Bool × Node)}
    (h : AllSettle nodes parts) {item : Node} (hitem : item ∈ flatten nodes) : item.IsResolved := by
  apply isResolved_of_mem_flatten _ hitem
  intro node hnode
  rcases exists_of_forall₂ h hnode with ⟨part, _, hsettles⟩
  exact hsettles.anywhere

theorem rebuild_isResolved {tree : Node} {nodes : List Node} (htree : tree.isPending = false)
    (h : AllSettle nodes (places tree)) : (rebuild tree nodes).IsResolved := by
  cases tree with
  | call head args kwargs isOperator =>
      have hargs := List.forall₂_take_append nodes _ _ h
      have hkwargs := List.forall₂_drop_append nodes _ _ h
      rw [List.length_map] at hargs hkwargs
      refine isResolved_iff.2 ⟨rfl, ?_⟩
      intro part hpart
      rcases List.mem_append.1 hpart with hpart | hpart
      · rcases List.mem_map.1 hpart with ⟨item, hitem, rfl⟩
        exact isResolved_of_flatten hargs hitem
      · rcases List.mem_map.1 hpart with ⟨entry, hentry, rfl⟩
        have hnode := (List.of_mem_zip hentry).2
        rcases exists_of_forall₂ hkwargs hnode with ⟨named, hnamed, hsettles⟩
        rcases List.mem_map.1 hnamed with ⟨_, _, rfl⟩
        exact hsettles.isResolved
  | assignment target value =>
      rcases h with _ | ⟨hvalue, hnone⟩
      cases hnone
      exact isResolved_iff.2 ⟨rfl, List.forall_mem_singleton.2 hvalue.isResolved⟩
  | pair left right =>
      rcases h with _ | ⟨hleft, _ | ⟨hright, hnone⟩⟩
      cases hnone
      exact isResolved_iff.2 ⟨rfl, List.forall_mem_cons.2
        ⟨hleft.isResolved, List.forall_mem_singleton.2 hright.isResolved⟩⟩
  | range start stop =>
      rcases h with _ | ⟨hstart, _ | ⟨hstop, hnone⟩⟩
      cases hnone
      exact isResolved_iff.2 ⟨rfl, List.forall_mem_cons.2
        ⟨hstart.isResolved, List.forall_mem_singleton.2 hstop.isResolved⟩⟩
  | vector items | tuple items =>
      refine isResolved_iff.2 ⟨rfl, ?_⟩
      intro part hpart
      rcases List.mem_map.1 hpart with ⟨item, hitem, rfl⟩
      exact isResolved_of_flatten h hitem
  | identifier name => exact isResolved_leaf rfl rfl
  | literal value => exact isResolved_leaf rfl rfl
  | _ => cases htree

theorem resolveNode_settles {tree : Node} (hwritten : forall items, .splice items ∉ tree.walk)
    (hquotes : QuotesAreFinal env source tree) {several : Bool} {resolved : Node}
    (h : resolveNode env source several tree = .ok resolved) : Settles several resolved := by
  induction tree using places_induction generalizing several resolved with
  | h tree ih =>
      by_cases hmarker : exists inner, tree = .interpolate inner
      · rcases hmarker with ⟨inner, rfl⟩
        rw [resolveNode] at h
        rcases bind_eq_ok_iff.1 h with ⟨value, hvalue, h⟩
        apply splice_settles _ h
        intro text htext
        exact quotedNode_isResolved
          (hquotes inner .marker value hvalue text (quotes_of_settled htext))
      · by_cases hforeign : exists value, tree = .foreign value
        · rcases hforeign with ⟨value, rfl⟩
          cases h
        · have hroot : tree.isPending = false := by
            cases tree with
            | interpolate inner => exact absurd ⟨inner, rfl⟩ hmarker
            | foreign value => exact absurd ⟨value, rfl⟩ hforeign
            | splice items => exact absurd (mem_walk_self _) (hwritten items)
            | _ => rfl
          rw [resolveNode_eq_rebuild (fun inner hsame => hmarker ⟨inner, hsame⟩)
            fun value hsame => hforeign ⟨value, hsame⟩] at h
          rcases map_eq_ok_iff.1 h with ⟨nodes, hnodes, rfl⟩
          apply Settles.single
          apply rebuild_isResolved hroot
          apply forall₂_of_mapM_eq_ok hnodes
          intro part hpart node hnode
          apply ih part hpart _ _ hnode
          · exact fun items hitems => hwritten items (mem_walk_of_place hpart hitems)
          · exact fun inner hmarks => hquotes inner (.place hpart hmarks)

/-- Resolution is final.  A fragment without markers is resolved to itself.  Where no value brings a
quoted fragment with markers, a fragment is resolved to a tree without markers, whose only splice
may be the tree itself, and which is resolved to itself with any variables.  What fragments tell of
a row function is whether the tree of one of them calls it. -/
theorem resolve_final {allowAssignment : Bool} {text : String} {tree : Node}
    (hparse : parse allowAssignment text = .ok tree) :
    ((forall inner, .interpolate inner ∉ tree.walk) -> forall env source,
      resolve env tree source = .ok [.sibling source tree tree]) ∧
    (forall env source, QuotesAreFinal env source tree ->
      forall found, resolve env tree source = .ok found ->
        exists resolved, resolveNode env source true tree = .ok resolved ∧
          found = resolved.siblings.map (.sibling source resolved) ∧
          (resolved.IsResolved ∨
            exists items, resolved = .splice items ∧ forall item, item ∈ items -> item.IsResolved) ∧
          forall other again, resolveNode other again true resolved = .ok resolved) ∧
    forall env fragments found, resolveAll env fragments = .ok found ->
      (found.any ResolvedFragment.mentionsCount = true <->
        exists fragment, fragment ∈ found ∧ .apply countFunction [] ∈ fragment.node.walk) ∧
      (found.any ResolvedFragment.mentionsRowNumber = true <->
        exists fragment, fragment ∈ found ∧ .apply rowNumberFunction [] ∈ fragment.node.walk) := by
  refine ⟨?_, ?_, ?_⟩
  · intro hmarkers env source
    have hresolved : tree.IsResolved := fun node hnode => isPending_of_isWritten
      (Grammar.isWritten_of_parse hparse hnode) fun inner hsame => hmarkers inner (hsame ▸ hnode)
    rw [resolve_eq_map, resolveNode_of_isResolved hresolved]
    show Except.ok (tree.siblings.map _) = _
    rw [siblings_eq_self hresolved]
    rfl
  · intro env source hquotes found hfound
    rw [resolve_eq_map] at hfound
    rcases map_eq_ok_iff.1 hfound with ⟨resolved, hresolved, rfl⟩
    have hsettles := resolveNode_settles (fun items hitems => by
      cases Grammar.isWritten_of_parse hparse hitems) hquotes hresolved
    refine ⟨resolved, hresolved, rfl, ?_, fun other again => resolveNode_of_settles hsettles⟩
    cases hsettles with
    | single h => exact Or.inl h
    | several _ h => exact Or.inr ⟨_, rfl, h⟩
  · exact fun _ _ _ hfound => resolveAll_asks hfound

/-- The items of a list become arguments, and a quoted fragment among them stays as it is. -/
theorem resolve_final_call :
    let env : Environment :=
      { values := [("xs", .list [.quoted "n()", .int 2])], functions := [] }
    let resolved : Node := .apply "f" [.apply "n" [], .literal (.int 2)]
    exists tree, parse true "f(!!xs)" = .ok tree ∧ QuotesAreFinal env "f(!!xs)" tree ∧
      resolve env tree "f(!!xs)" = .ok [.sibling "f(!!xs)" resolved resolved] ∧
      resolved.IsResolved ∧
      forall other again, resolveNode other again true resolved = .ok resolved := by
  intro env resolved
  have hts : tokenize "f(!!xs)" =
      .ok [⟨.identifier "f", 0⟩, ⟨.symbol .openParen, 1⟩, ⟨.marker, 2⟩, ⟨.identifier "xs", 4⟩,
        ⟨.symbol .closeParen, 6⟩, ⟨.finish, 7⟩] := rfl
  have hparse : parse true "f(!!xs)" = .ok (.apply "f" [.interpolate (.identifier "xs")]) :=
    Grammar.parse_eq_ok_iff.2 ⟨by decide, _, hts, rfl⟩
  have hquoted : tokenize "n()" =
      .ok [⟨.identifier "n", 0⟩, ⟨.symbol .openParen, 1⟩, ⟨.symbol .closeParen, 2⟩,
        ⟨.finish, 3⟩] := rfl
  have hcount : quotedNode "n()" = .apply "n" [] := by
    rw [quotedNode, Grammar.parse_eq_ok_iff.2 ⟨by decide, _, hquoted, rfl⟩]
    rfl
  have hquotes : QuotesAreFinal env "f(!!xs)" (.apply "f" [.interpolate (.identifier "xs")]) := by
    intro inner hmarks value hvalue text htext marker hmarker
    rcases hmarks with _ | ⟨hpart, hmarks⟩
    cases List.mem_singleton.1 hpart
    rcases hmarks with _ | ⟨hpart, _⟩
    · cases hvalue
      rcases htext with _ | ⟨hitems, hmem⟩
      cases hitems
      have htext : text = "n()" := by simpa using hmem
      rw [htext, hcount] at hmarker
      cases List.mem_singleton.1 hmarker
    · cases hpart
  have hitem : spliceOne "f(!!xs)" (.quoted "n()") = .ok (.apply "n" []) := by
    rw [spliceOne, hcount]
  have hmarker : resolveNode env "f(!!xs)" true (.interpolate (.identifier "xs")) =
      .ok (.splice [.apply "n" [], .literal (.int 2)]) := by
    have hitems : [Value.quoted "n()", .int 2].mapM (spliceOne "f(!!xs)") =
        .ok [.apply "n" [], .literal (.int 2)] := by
      rw [List.mapM_cons, hitem]
      rfl
    show ([Value.quoted "n()", .int 2].mapM (spliceOne "f(!!xs)") >>= fun items =>
      (.ok (.splice items) : Outcome Node)) = _
    rw [hitems]
    rfl
  have hnode : resolveNode env "f(!!xs)" true (.apply "f" [.interpolate (.identifier "xs")]) =
      .ok resolved := by
    have hspread : (!false && !singleArgumentHeads.contains "f") = true := by decide
    rw [Node.apply, resolveNode, resolveAllNodes, hspread, hmarker]
    rfl
  have hfound : resolve env (.apply "f" [.interpolate (.identifier "xs")]) "f(!!xs)" =
      .ok [.sibling "f(!!xs)" resolved resolved] := by
    rw [resolve_eq_map, hnode]
    rfl
  rcases (resolve_final hparse).2.1 env "f(!!xs)" hquotes _ hfound with
    ⟨found, hresolved, hsiblings, hsettled, hagain⟩
  cases hnode.symm.trans hresolved
  refine ⟨_, hparse, hquotes, hfound, ?_, hagain⟩
  rcases hsettled with hsettled | ⟨items, hitems, _⟩
  · exact hsettled
  · exact Node.noConfusion hitems

end Resolution

/-!
# Trees of nodes
-/

section Proper

variable {env : Environment} {source : String}

end Proper

end Interpolation
end Wrangle
