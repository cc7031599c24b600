import Wrangle.Proofs.Interpolation.Sources

/-!
# Sequences that are put in item by item

Where several items may stand, the marker of a sequence does what the markers of its items do, one
after the other: among the arguments of a function, among the items of a list, and as a fragment of
its own.
-/

namespace Wrangle
namespace Interpolation

open Node

def markerOf (name : String) : Node :=
  .interpolate (.identifier name)

/-- Items that are related one by one; where several items may stand, the marker of a sequence may
be matched by the markers of its items. -/
inductive SpreadItems (xs : String) (names : List String) (related : Node -> Node -> Prop) :
    Bool -> List Node -> List Node -> Prop where
  | nil (several : Bool) : SpreadItems xs names related several [] []
  | item {several : Bool} {item other : Node} {items others : List Node} :
      related item other -> SpreadItems xs names related several items others ->
        SpreadItems xs names related several (item :: items) (other :: others)
  | spread {items others : List Node} :
      SpreadItems xs names related true items others ->
        SpreadItems xs names related true (markerOf xs :: items) (names.map markerOf ++ others)

/-- A tree, and the tree in which some markers of a sequence are replaced by the markers of its
items: among the arguments of a function that does not keep them together, and among the items of
lists, at any depth outside of markers. -/
inductive Spreads (xs : String) (names : List String) : Node -> Node -> Prop where
  | same (tree : Node) : Spreads xs names tree tree
  | call {head : String} {args others : List Node} {kwargs named : List (String × Node)}
      {isOperator : Bool} :
      SpreadItems xs names (Spreads xs names) (!isOperator && !singleArgumentHeads.contains head)
        args others ->
      kwargs.map Prod.fst = named.map Prod.fst ->
      List.Forall₂ (Spreads xs names) (kwargs.map Prod.snd) (named.map Prod.snd) ->
        Spreads xs names (.call head args kwargs isOperator) (.call head others named isOperator)
  | assignment {target : String} {value other : Node} :
      Spreads xs names value other ->
        Spreads xs names (.assignment target value) (.assignment target other)
  | pair {left right left' right' : Node} :
      Spreads xs names left left' -> Spreads xs names right right' ->
        Spreads xs names (.pair left right) (.pair left' right')
  | range {start stop start' stop' : Node} :
      Spreads xs names start start' -> Spreads xs names stop stop' ->
        Spreads xs names (.range start stop) (.range start' stop')
  | vector {items others : List Node} :
      SpreadItems xs names (Spreads xs names) true items others ->
        Spreads xs names (.vector items) (.vector others)
  | tuple {items others : List Node} :
      SpreadItems xs names (Spreads xs names) true items others ->
        Spreads xs names (.tuple items) (.tuple others)

/-- Fragments, and the fragments in which some markers of a sequence are replaced by the markers of
its items, be they whole fragments or within one. -/
inductive SpreadFragments (xs : String) (names : List String) :
    List (Node × String) -> List (Node × String) -> Prop where
  | nil : SpreadFragments xs names [] []
  | fragment {tree other : Node} {source text : String} {rest more : List (Node × String)} :
      Spreads xs names tree other -> SpreadFragments xs names rest more ->
        SpreadFragments xs names ((tree, source) :: rest) ((other, text) :: more)
  | whole {source : String} {markers rest more : List (Node × String)} :
      markers.map Prod.fst = names.map markerOf -> SpreadFragments xs names rest more ->
        SpreadFragments xs names ((markerOf xs, source) :: rest) (markers ++ more)

/-- A variable that stands for a list or a tuple of single values, and variables that stand for
these. -/
structure Binds (env : Environment) (xs : String) (names : List String) (values : List Value) :
    Prop where
  sequence : env.get? xs = some (.list values) ∨ env.get? xs = some (.tuple values)
  items : names.map env.get? = values.map some
  single : forall value, value ∈ values -> sequenceItems? value = none

/-!
# Items in a row
-/

/-- The same items but for literals that are seen alike, once splices are put in their place. -/
def SameItems (f : Value -> Value) (nodes others : List Node) : Prop :=
  (flatten nodes).map (mapLiterals f) = (flatten others).map (mapLiterals f)

section Rows

variable {f : Value -> Value} {alpha beta : Type} {run : alpha -> Outcome Node}
variable {rerun : beta -> Outcome Node}

theorem SameItems.append {nodes others more moreOthers : List Node} (h : SameItems f nodes others)
    (hmore : SameItems f more moreOthers) : SameItems f (nodes ++ more) (others ++ moreOthers) := by
  unfold SameItems flatten at *
  rw [List.flatMap_append, List.flatMap_append, List.map_append, List.map_append, h, hmore]

theorem sameItems_single {node other : Node} (h : SameTree f node other) :
    SameItems f [node] [other] := by
  rw [SameItems, map_flatten, map_flatten, List.map_cons, List.map_cons, h]

theorem sameItems_cons {item : alpha} {rest : List alpha} {front back : List beta}
    (hitem : Corresponds (fun node nodes => SameItems f [node] nodes) (run item)
      (front.mapM rerun))
    (hrest : Corresponds (SameItems f) (rest.mapM run) (back.mapM rerun)) :
    Corresponds (SameItems f) ((item :: rest).mapM run) ((front ++ back).mapM rerun) := by
  rw [List.mapM_cons, List.mapM_append]
  apply hitem.bind
  intro node nodes hnode
  apply hrest.bind
  intro more others hmore
  exact .results (hnode.append hmore)

theorem sameItems_of_sameTree {item : alpha} {other : beta}
    (h : Corresponds (SameTree f) (run item) (rerun other)) :
    Corresponds (fun node nodes => SameItems f [node] nodes) (run item) ([other].mapM rerun) := by
  have hmapM : [other].mapM rerun = (rerun other).map fun another => [another] := by
    rw [List.mapM_cons]
    cases rerun other <;> rfl
  rw [hmapM]
  exact h.map_right fun _ _ hnode => sameItems_single hnode

end Rows

/-!
# The marker of a sequence
-/

theorem spliceOne_isWritten {source : String} {value : Value} {node : Node}
    (h : spliceOne source value = .ok node) : node.isWritten = true := by
  unfold spliceOne at h
  split at h
  · cases h
    unfold quotedNode
    split
    · rename_i hparse
      exact Grammar.isWritten_of_parse hparse (mem_walk_self _)
    · rfl
  · cases h
    rfl
  · split at h
    · cases h
      rfl
    · cases h

section Markers

variable {f : Value -> Value} {env : Environment} {xs : String} {names : List String}
variable {values : List Value} {source : String}

theorem evaluate_identifier {name : String} {value : Value} (h : env.get? name = some value)
    (source : String) : evaluate env source (.identifier name) = .ok value := by
  rw [evaluate, lookup, h]

theorem resolveNode_single {name : String} {value : Value} (h : env.get? name = some value)
    (hsingle : sequenceItems? value = none) (source : String) (several : Bool) :
    exists copy, Value.Copy value copy ∧
      resolveNode env source several (markerOf name) = spliceOne source copy := by
  have hcopy : Value.Copy value (value.settled (source ++ (Node.identifier name).unparse) []) :=
    Value.Copy.itself.settled _ _
  refine ⟨_, hcopy, ?_⟩
  have hlisted := sequenceItems?_copy hcopy
  rw [hsingle] at hlisted
  rw [markerOf, resolveNode, evaluate_identifier h, ok_bind, splice]
  generalize sequenceItems? _ = listing at hlisted ⊢
  cases hlisted
  rfl

theorem resolveNode_sequence (hbinds : Binds env xs names values) (source : String) :
    exists items, List.Forall₂ Value.Copy values items ∧
      resolveNode env source true (markerOf xs) =
        (items.mapM (spliceOne source)).map .splice := by
  have hsequence : exists sequence, env.get? xs = some sequence ∧
      sequenceItems? sequence = some (.ok values) := by
    rcases hbinds.sequence with h | h
    · exact ⟨_, h, rfl⟩
    · exact ⟨_, h, rfl⟩
  rcases hsequence with ⟨sequence, hget, hitems⟩
  have hcopy : Value.Copy sequence (sequence.settled (source ++ (Node.identifier xs).unparse) []) :=
    Value.Copy.itself.settled _ _
  have hlisted := sequenceItems?_copy hcopy
  rw [hitems] at hlisted
  rw [markerOf, resolveNode, evaluate_identifier hget, ok_bind, splice]
  generalize sequenceItems? _ = listing at hlisted ⊢
  rcases hlisted with _ | _ | hcopies
  refine ⟨_, hcopies, ?_⟩
  show (List.mapM (spliceOne source) _ >>= fun items =>
    (Except.ok (.splice items) : Outcome Node)) = _
  cases List.mapM (spliceOne source) _ <;> rfl

theorem item_corresponds {name text : String} {value item : Value}
    (h : env.get? name = some value) (hsingle : sequenceItems? value = none)
    (hseen : SeenAlike f value) (hitem : Value.Copy value item) :
    Corresponds (fun node other => SameTree f node other ∧ other.isWritten = true)
      (spliceOne source item) (resolveNode env text true (markerOf name)) := by
  rcases resolveNode_single h hsingle text true with ⟨copy, hcopy, hresolved⟩
  rw [hresolved]
  apply (spliceOne_corresponds (interchange_of_copies hseen hitem hcopy)).with_results.mono
  rintro node other ⟨⟨htree, _⟩, _, hother⟩
  exact ⟨htree, spliceOne_isWritten hother⟩

theorem items_correspond {items : List Value} {markers : List (Node × String)}
    (hitems : List.Forall₂ Value.Copy values items) (hget : names.map env.get? = values.map some)
    (hmarkers : markers.map Prod.fst = names.map markerOf)
    (hsingle : forall value, value ∈ values -> sequenceItems? value = none)
    (hseen : forall value, value ∈ values -> SeenAlike f value) :
    List.Forall₂ (fun item marker => Corresponds
        (fun node other => SameTree f node other ∧ other.isWritten = true)
        (spliceOne source item) (resolveNode env marker.2 true marker.1)) items markers := by
  induction hitems generalizing names markers with
  | nil =>
      cases List.map_eq_nil_iff.1 hget
      cases List.map_eq_nil_iff.1 hmarkers
      exact List.Forall₂.nil
  | cons hitem _ ih =>
      rcases names with _ | ⟨name, names⟩
      · cases hget
      · rcases markers with _ | ⟨⟨tree, text⟩, markers⟩
        · cases hmarkers
        · simp only [List.map_cons, List.cons.injEq] at hget hmarkers
          rcases List.forall_mem_cons.1 hsingle with ⟨hone, hothers⟩
          rcases List.forall_mem_cons.1 hseen with ⟨hseenOne, hseenOthers⟩
          rcases hmarkers with ⟨rfl, hmarkers⟩
          exact List.Forall₂.cons (item_corresponds hget.1 hone hseenOne hitem)
            (ih hget.2 hmarkers hothers hseenOthers)

theorem seenAlike_items (hbinds : Binds env xs names values)
    (hseen : MarkersSeenAlike f env source (markerOf xs)) :
    forall value, value ∈ values -> SeenAlike f value := by
  intro value hvalue
  rcases hbinds.sequence with h | h
  all_goals
    rcases hseen _ .marker _ (evaluate_identifier h source) with hf | hsettled
    · exact .inl hf
    · rw [Value.isSettled] at hsettled
      exact .inr (Value.areSettled_iff.1 hsettled value hvalue)

theorem marker_spreads (hbinds : Binds env xs names values)
    (hseen : MarkersSeenAlike f env source (markerOf xs)) {markers : List (Node × String)}
    (hmarkers : markers.map Prod.fst = names.map markerOf) :
    Corresponds (fun node nodes => SameItems f [node] nodes)
      (resolveNode env source true (markerOf xs))
      (markers.mapM fun marker => resolveNode env marker.2 true marker.1) := by
  rcases resolveNode_sequence hbinds source with ⟨items, hitems, hresolved⟩
  rw [hresolved]
  apply (Corresponds.mapM (items_correspond hitems hbinds.items hmarkers hbinds.single
    (seenAlike_items hbinds hseen))).map_left
  intro nodes others h
  have hflat : flatten others = others := by
    apply flatten_eq_self
    rintro other hother inner rfl
    rcases exists_of_forall₂ h.flip hother with ⟨_, _, _, hwritten⟩
    cases hwritten
  have hsplice : flatten [.splice nodes] = nodes := List.append_nil nodes
  rw [SameItems, hflat, hsplice]
  exact map_eq_map_of_forall₂ (h.imp fun _ _ hitem => hitem.1)

end Markers

/-!
# Trees
-/

section Trees

variable {f : Value -> Value} {env : Environment} {xs : String} {names : List String}
variable {values : List Value} {source text : String}

theorem resolveAllNodes_eq_mapM (several : Bool) (nodes : List Node) :
    resolveAllNodes env source several nodes = nodes.mapM (resolveNode env source several) := by
  rw [resolveAllNodes_eq, List.mapM_map]
  rfl

/-- A tree that is resolved alike with the markers of items in some places. -/
structure SpreadsAlike (f : Value -> Value) (env : Environment) (source text : String) (xs : String)
    (names : List String) (tree : Node) : Prop where
  seen : MarkersSeenAlike f env source tree
  resolved : forall other, Spreads xs names tree other -> forall several,
    Corresponds (SameTree f) (resolveNode env source several tree)
      (resolveNode env text several other)

theorem items_spread (hbinds : Binds env xs names values) {several : Bool}
    {items others : List Node}
    (h : SpreadItems xs names (Spreads xs names) several items others)
    (hitems : forall item, item ∈ items -> SpreadsAlike f env source text xs names item) :
    Corresponds (SameItems f) (resolveAllNodes env source several items)
      (resolveAllNodes env text several others) := by
  rw [resolveAllNodes_eq_mapM, resolveAllNodes_eq_mapM]
  induction h with
  | nil several => exact .results rfl
  | @item several item other items others hitem _ ih =>
      rcases List.forall_mem_cons.1 hitems with ⟨hfirst, hrest⟩
      show Corresponds _ _ (([other] ++ others).mapM _)
      exact sameItems_cons (sameItems_of_sameTree (hfirst.resolved other hitem several)) (ih hrest)
  | spread _ ih =>
      rcases List.forall_mem_cons.1 hitems with ⟨hfirst, hrest⟩
      have hnames : (names.map fun name => (markerOf name, text)).map Prod.fst =
          names.map markerOf := by
        simp [Function.comp_def]
      have hmarkers := marker_spreads hbinds hfirst.seen hnames
      rw [List.mapM_map] at hmarkers
      apply sameItems_cons _ (ih hrest)
      rw [List.mapM_map]
      exact hmarkers

theorem named_spread {kwargs named : List (String × Node)}
    (hnames : kwargs.map Prod.fst = named.map Prod.fst)
    (h : List.Forall₂ (Spreads xs names) (kwargs.map Prod.snd) (named.map Prod.snd))
    (hentries : forall entry, entry ∈ kwargs -> SpreadsAlike f env source text xs names entry.2) :
    Corresponds (fun entries others => mapLiteralsNamed f entries = mapLiteralsNamed f others)
      (resolveNamed env source kwargs) (resolveNamed env text named) := by
  have hparts : List.Forall₂ (fun part other => Corresponds (SameTree f)
      (resolvePart env source part) (resolvePart env text other))
      (kwargs.map fun entry => (false, entry.2)) (named.map fun entry => (false, entry.2)) := by
    rw [List.forall₂_map_left_iff, List.forall₂_map_right_iff] at h ⊢
    apply ((List.forall₂_and_left _ _).2 ⟨hentries, h⟩).imp
    intro entry other hentry
    exact hentry.1.resolved other.2 hentry.2 false
  rw [resolveNamed_eq, resolveNamed_eq]
  apply (Corresponds.mapM hparts).map
  intro nodes others hnodes
  rw [mapLiteralsNamed_zip, mapLiteralsNamed_zip, hnames, map_eq_map_of_forall₂ hnodes]

/-- A tree with the markers of items in some places is resolved as the tree with the markers of the
sequence. -/
theorem resolveNode_spreads (hbinds : Binds env xs names values) {tree other : Node}
    (h : Spreads xs names tree other) (hseen : MarkersSeenAlike f env source tree)
    (several : Bool) :
    Corresponds (SameTree f) (resolveNode env source several tree)
      (resolveNode env text several other) := by
  induction tree using places_induction generalizing other several with
  | h tree ih =>
      have hpart : forall part, part ∈ places tree ->
          SpreadsAlike f env source text xs names part.2 := fun part hpart =>
        ⟨hseen.place hpart, fun other hother => ih part hpart hother (hseen.place hpart)⟩
      cases h with
      | same => exact resolveNode_corresponds hseen several
      | call hargs hnames hkwargs =>
          rw [resolveNode, resolveNode]
          apply (items_spread hbinds hargs fun arg harg =>
            hpart _ (List.mem_append_left _ (List.mem_map_of_mem harg))).bind
          intro args others hargs
          apply (named_spread hnames hkwargs fun entry hentry =>
            hpart _ (List.mem_append_right _ (List.mem_map_of_mem hentry))).bind
          intro kwargs named hkwargs
          apply Corresponds.results
          rw [SameTree, mapLiterals, mapLiterals, mapLiteralsAll_eq, mapLiteralsAll_eq, hargs,
            hkwargs]
      | assignment hvalue =>
          rw [resolveNode, resolveNode]
          apply ((hpart _ List.mem_cons_self).resolved _ hvalue false).bind
          intro value other hvalue
          apply Corresponds.results
          rw [SameTree, mapLiterals, mapLiterals, hvalue]
      | pair hleft hright =>
          rw [resolveNode, resolveNode]
          apply ((hpart _ List.mem_cons_self).resolved _ hleft false).bind
          intro left left' hleft
          apply ((hpart _ (List.mem_cons_of_mem _ List.mem_cons_self)).resolved _ hright false).bind
          intro right right' hright
          apply Corresponds.results
          rw [SameTree, mapLiterals, mapLiterals, hleft, hright]
      | range hstart hstop =>
          rw [resolveNode, resolveNode]
          apply ((hpart _ List.mem_cons_self).resolved _ hstart false).bind
          intro start start' hstart
          apply ((hpart _ (List.mem_cons_of_mem _ List.mem_cons_self)).resolved _ hstop false).bind
          intro stop stop' hstop
          apply Corresponds.results
          rw [SameTree, mapLiterals, mapLiterals, hstart, hstop]
      | vector hitems | tuple hitems =>
          rw [resolveNode, resolveNode]
          apply (items_spread hbinds hitems fun item hitem =>
            hpart _ (List.mem_map_of_mem hitem)).bind
          intro items others hitems
          apply Corresponds.results
          rw [SameTree, mapLiterals, mapLiterals, mapLiteralsAll_eq, mapLiteralsAll_eq, hitems]

end Trees

/-!
# Fragments
-/

section Fragments

variable {f : Value -> Value} {env : Environment} {xs : String} {names : List String}
variable {values : List Value} {fragments others : List (Node × String)}

theorem flatten_cons (tree : Node) (rest : List Node) :
    flatten (tree :: rest) = tree.siblings ++ flatten rest := by
  cases tree <;> rfl

theorem resolveAll_trees (env : Environment) (fragments : List (Node × String)) :
    (resolveAll env fragments).map (List.map ResolvedFragment.node) =
      (fragments.mapM fun fragment => resolveNode env fragment.2 true fragment.1).map flatten := by
  unfold resolveAll
  induction fragments with
  | nil => rfl
  | cons fragment rest ih =>
      rw [List.mapM_cons, List.mapM_cons, resolve_eq_map]
      cases resolveNode env fragment.2 true fragment.1 with
      | error failure => rfl
      | ok tree =>
          show Except.map _ (Except.map _ (_ >>= fun lists => Except.ok (_ :: lists))) =
            Except.map _ (_ >>= fun trees => Except.ok (tree :: trees))
          generalize (rest.mapM fun fragment => resolve env fragment.1 fragment.2) = lists at ih ⊢
          generalize (rest.mapM fun fragment => resolveNode env fragment.2 true fragment.1) =
            trees at ih ⊢
          cases lists with
          | error failure =>
              cases trees with
              | error other =>
                  cases ih
                  rfl
              | ok trees => cases ih
          | ok lists =>
              cases trees with
              | error other => cases ih
              | ok trees =>
                  have hrest := Except.ok.inj ih
                  apply congrArg Except.ok
                  rw [flatten_cons, ← hrest, List.flatten_cons, List.map_append, List.map_map]
                  exact congrArg (· ++ _) (List.map_id _)

theorem fragments_spread (hbinds : Binds env xs names values)
    (h : SpreadFragments xs names fragments others)
    (hseen : forall fragment, fragment ∈ fragments ->
      MarkersSeenAlike f env fragment.2 fragment.1) :
    Corresponds (SameItems f)
      (fragments.mapM fun fragment => resolveNode env fragment.2 true fragment.1)
      (others.mapM fun fragment => resolveNode env fragment.2 true fragment.1) := by
  induction h with
  | nil => exact .results rfl
  | @fragment tree other source text rest more htree _ ih =>
      rcases List.forall_mem_cons.1 hseen with ⟨hfirst, hrest⟩
      show Corresponds _ _ (([(other, text)] ++ more).mapM _)
      exact sameItems_cons (sameItems_of_sameTree (resolveNode_spreads hbinds htree hfirst true))
        (ih hrest)
  | whole hmarkers _ ih =>
      rcases List.forall_mem_cons.1 hseen with ⟨hfirst, hrest⟩
      exact sameItems_cons (marker_spreads hbinds hfirst hmarkers) (ih hrest)

/-- The trees of fragments, with their literals as they are seen. -/
def seenTrees (f : Value -> Value) (found : List ResolvedFragment) : List Node :=
  found.map fun fragment => fragment.node.mapLiterals f

theorem resolveAll_corresponds (hbinds : Binds env xs names values)
    (h : SpreadFragments xs names fragments others)
    (hseen : forall fragment, fragment ∈ fragments ->
      MarkersSeenAlike f env fragment.2 fragment.1) :
    Corresponds (fun found more => seenTrees f found = seenTrees f more) (resolveAll env fragments)
      (resolveAll env others) := by
  have htrees : Corresponds
      (fun nodes others => nodes.map (mapLiterals f) = others.map (mapLiterals f))
      ((fragments.mapM fun fragment => resolveNode env fragment.2 true fragment.1).map flatten)
      ((others.mapM fun fragment => resolveNode env fragment.2 true fragment.1).map flatten) :=
    (fragments_spread hbinds h hseen).map fun _ _ hsame => hsame
  rw [← resolveAll_trees, ← resolveAll_trees] at htrees
  apply htrees.of_map.mono
  intro found more hsame
  simpa [seenTrees, Function.comp_def] using hsame

theorem ignoresNumbers_withoutOrigin : IgnoresNumbers Value.withoutOrigin := by
  intro value n hscalar
  cases value with
  | list items | tuple items | set items => cases hscalar
  | dict entries => cases hscalar
  | iterator kind items stop origin => cases hscalar
  | other kind origin => cases hscalar
  | _ => rfl

theorem calls_iff {found more : List ResolvedFragment} (h : seenTrees f found = seenTrees f more)
    (name : String) :
    (exists fragment, fragment ∈ found ∧ .apply name [] ∈ fragment.node.walk) <->
      exists fragment, fragment ∈ more ∧ .apply name [] ∈ fragment.node.walk := by
  have hcalls : forall fragments : List ResolvedFragment,
      (exists fragment, fragment ∈ fragments ∧ .apply name [] ∈ fragment.node.walk) <->
        exists tree, tree ∈ seenTrees f fragments ∧ tree.mentionsBareCall name = true := by
    intro fragments
    simp only [← mentionsBareCall_iff]
    simp [seenTrees]
  rw [hcalls, hcalls, h]

/-- The marker of a sequence is worth the markers of its items.  Fragments and the fragments with
the markers of the items give the same trees, up to where undefined numbers in literals come from,
and ask for the same row functions; or they fail with errors of one class.  Where no marker brings
anything fresh, the trees are equal. -/
theorem resolveAll_spreads (hbinds : Binds env xs names values)
    (h : SpreadFragments xs names fragments others) :
    Corresponds
      (fun found more =>
        seenTrees Value.withoutOrigin found = seenTrees Value.withoutOrigin more ∧
        ((forall fragment, fragment ∈ fragments -> forall inner, Marks inner fragment.1 ->
            forall value, evaluate env fragment.2 inner = .ok value -> value.isSettled = true) ->
          found.map ResolvedFragment.node = more.map ResolvedFragment.node) ∧
        found.any ResolvedFragment.mentionsCount = more.any ResolvedFragment.mentionsCount ∧
        found.any ResolvedFragment.mentionsRowNumber = more.any ResolvedFragment.mentionsRowNumber)
      (resolveAll env fragments) (resolveAll env others) := by
  have hsame : Corresponds (fun found more =>
      seenTrees Value.withoutOrigin found = seenTrees Value.withoutOrigin more)
      (resolveAll env fragments) (resolveAll env others) :=
    resolveAll_corresponds hbinds h fun _ _ _ _ _ _ => .inl ignoresNumbers_withoutOrigin
  apply hsame.with_results.mono
  rintro found more ⟨hsame, hfound, hmore⟩
  have hasks := resolveAll_asks hfound
  have hasksMore := resolveAll_asks hmore
  refine ⟨hsame, fun hsettled => ?_, ?_, ?_⟩
  · have hexact : Corresponds (fun found more => seenTrees id found = seenTrees id more)
        (resolveAll env fragments) (resolveAll env others) :=
      resolveAll_corresponds hbinds h fun fragment hfragment inner hmarks value hvalue =>
        .inr (hsettled fragment hfragment inner hmarks value hvalue)
    rw [hfound, hmore] at hexact
    rcases hexact with ⟨hexact⟩
    simpa only [seenTrees, mapLiterals_id] using hexact
  · rw [Bool.eq_iff_iff, hasks.1, hasksMore.1]
    exact calls_iff hsame countFunction
  · rw [Bool.eq_iff_iff, hasks.2, hasksMore.2]
    exact calls_iff hsame rowNumberFunction

/-- A list among the arguments of a function, and as a fragment of its own. -/
theorem resolveAll_spreads_call :
    let env : Environment :=
      { values := [("xs", .list [.int 1, .str "a"]), ("a", .int 1), ("b", .str "a")]
        functions := [] }
    let fragments : List (Node × String) :=
      [(.apply "f" [markerOf "xs", .apply "n" []], "f(!!xs, n())"), (markerOf "xs", "!!xs")]
    let others : List (Node × String) :=
      [(.apply "f" [markerOf "a", markerOf "b", .apply "n" []], "f(!!a, !!b, n())"),
        (markerOf "a", "!!a"), (markerOf "b", "!!b")]
    Binds env "xs" ["a", "b"] [.int 1, .str "a"] ∧
      SpreadFragments "xs" ["a", "b"] fragments others ∧
      exists found more, resolveAll env fragments = .ok found ∧ resolveAll env others = .ok more ∧
        found.map ResolvedFragment.node = [.apply "f" [.literal (.int 1), .literal (.str "a"),
          .apply "n" []], .literal (.int 1), .literal (.str "a")] ∧
        seenTrees Value.withoutOrigin found = seenTrees Value.withoutOrigin more ∧
        found.any ResolvedFragment.mentionsCount = true ∧
        more.any ResolvedFragment.mentionsCount = true := by
  intro env fragments others
  have hbinds : Binds env "xs" ["a", "b"] [.int 1, .str "a"] := by
    refine ⟨.inl rfl, rfl, ?_⟩
    intro value hvalue
    rcases List.mem_pair.1 hvalue with rfl | rfl
    · rfl
    · rfl
  have hspread : SpreadFragments "xs" ["a", "b"] fragments others := by
    apply SpreadFragments.fragment
    · apply Spreads.call (.spread (.item (.same _) (.nil _))) rfl
      exact List.Forall₂.nil
    · have hmarkers : [(markerOf "a", "!!a"), (markerOf "b", "!!b")].map Prod.fst =
          ["a", "b"].map markerOf := rfl
      exact SpreadFragments.whole hmarkers .nil
  have hfound : exists found, resolveAll env fragments = .ok found ∧
      found.map ResolvedFragment.node = [.apply "f" [.literal (.int 1), .literal (.str "a"),
        .apply "n" []], .literal (.int 1), .literal (.str "a")] ∧
      found.any ResolvedFragment.mentionsCount = true := ⟨_, rfl, rfl, rfl⟩
  rcases hfound with ⟨found, hfound, hnodes, hcount⟩
  have hsame := resolveAll_spreads hbinds hspread
  rw [hfound] at hsame
  generalize hothers : resolveAll env others = outcome at hsame ⊢
  cases hsame with
  | results hsame =>
      rcases hsame with ⟨hseen, _, hcounts, _⟩
      exact ⟨hbinds, hspread, found, _, hfound, rfl, hnodes, hseen, hcount, hcounts ▸ hcount⟩

end Fragments

end Interpolation
end Wrangle
