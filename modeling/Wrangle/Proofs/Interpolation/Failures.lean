import Wrangle.Interpolation.Resolution
import Wrangle.Proofs.Interpolation.Evaluation

/-!
# Failures of interpolation

A fragment is resolved, or there is an error of interpolation about it, or a function from
outside has raised an error of its own.  Besides, faults of three operations get out as they
are: those of a sign, of a range, and of listing the items of a sequence that is put into
the fragment.  A function may also end the program, and nothing guards against that.
-/

namespace Wrangle

/-!
# Settling
-/

namespace Value

mutual

theorem isWritable_numbered (n : Nat) :
    forall value : Value, (value.numbered n).isWritable = value.isWritable
  | list items => areWritable_allNumbered n items
  | tuple items => areWritable_allNumbered n items
  | set items => areWritable_allNumbered n items
  | dict entries => entriesAreWritable_entriesNumbered n entries
  | missing | bool _ | int _ | float _ _ | complex _ _ _ | str _ | decimal _ _ | date _
  | datetime _ | time _ | duration _ | column _ | range _ _ _ | function _ | sym _ | quoted _
  | iterator _ _ _ _ | other _ _ => rfl

theorem areWritable_allNumbered (n : Nat) :
    forall items : List Value, areWritable (allNumbered n items) = areWritable items
  | [] => rfl
  | value :: rest => by
      rw [allNumbered, areWritable, areWritable, isWritable_numbered, areWritable_allNumbered]

theorem entriesAreWritable_entriesNumbered (n : Nat) :
    forall entries : List (Value × Value),
      entriesAreWritable (entriesNumbered n entries) = entriesAreWritable entries
  | [] => rfl
  | (key, value) :: rest => by
      rw [entriesNumbered, entriesAreWritable, entriesAreWritable, isWritable_numbered,
        isWritable_numbered, entriesAreWritable_entriesNumbered]

end

end Value

namespace Interpolation

attribute [local simp] resolveNode

/-- Whether the items of a value can be listed does not depend on the numbers in it. -/
theorem sequenceItems?_settled_eq_error {value : Value} {f : Fault} (name : String)
    (sources : List Value) :
    sequenceItems? (value.settled name sources) = some (.error f) <->
      sequenceItems? value = some (.error f) := by
  unfold Value.settled
  split
  · rfl
  · cases value with
    | list items => simp [Value.numbered, sequenceItems?]
    | tuple items => simp [Value.numbered, sequenceItems?]
    | set items =>
        rw [Value.numbered, sequenceItems?, sequenceItems?, setItems, setItems,
          Value.areWritable_allNumbered]
        split
        · simp
        · rfl
    | _ => rfl

open Grammar

/-!
# How resolution fails
-/

/-- The parts of a tree in the order of resolution; several items may stand in some places. -/
def places : Node -> List (Bool × Node)
  | .call head args kwargs isOperator =>
      args.map (!isOperator && !singleArgumentHeads.contains head, ·) ++
        kwargs.map fun entry => (false, entry.2)
  | .assignment _ value => [(false, value)]
  | .pair left right => [(false, left), (false, right)]
  | .range start stop => [(false, start), (false, stop)]
  | .vector items => items.map (true, ·)
  | .tuple items => items.map (true, ·)
  | .splice items => items.map (true, ·)
  | _ => []

def resolvePart (env : Environment) (source : String) (part : Bool × Node) : Outcome Node :=
  resolveNode env source part.1 part.2

/-- What ends the resolution of a tree as it is. -/
inductive Leaks (env : Environment) (source : String) : HostFault -> Node -> Prop where
  | value {inner f} : Breaks env source f inner -> Leaks env source f (.interpolate inner)
  | items {inner value f} :
      evaluate env source inner = .ok value -> sequenceItems? value = some (.error f) ->
        Leaks env source (.raised f) (.interpolate inner)
  | place {f tree front part back} :
      places tree = front ++ part :: back ->
        (forall other, other ∈ front -> exists node, resolvePart env source other = .ok node) ->
          Leaks env source f part.2 -> Leaks env source f tree

def Leaked (env : Environment) (source : String) (tree : Node) : Failure -> Prop
  | .user e => IsAbout source e ∨ env.functions.Raise e
  | .fault f => Leaks env source f tree

/-- The resolution of a tree ends with another tree, or with one of these failures. -/
abbrev IsSealed (env : Environment) (source : String) (several : Bool) (tree : Node) : Prop :=
  Ends (Leaked env source tree) (fun _ => True) (resolveNode env source several tree)

section Resolution

variable {env : Environment} {source : String}

theorem resolveAllNodes_eq (several : Bool) (nodes : List Node) :
    resolveAllNodes env source several nodes =
      (nodes.map (several, ·)).mapM (resolvePart env source) := by
  induction nodes with
  | nil => rfl
  | cons node rest ih =>
      rw [resolveAllNodes, List.map_cons, List.mapM_cons, ih]
      rfl

theorem resolveNamed_eq (entries : List (String × Node)) :
    resolveNamed env source entries =
      ((entries.map fun entry => (false, entry.2)).mapM (resolvePart env source)).map
        ((entries.map Prod.fst).zip ·) := by
  induction entries with
  | nil => rfl
  | cons entry rest ih =>
      rw [resolveNamed, List.map_cons, List.map_cons, List.mapM_cons, ih]
      show (resolvePart env source (false, entry.2) >>= _) = _
      cases resolvePart env source (false, entry.2) with
      | error failure => rfl
      | ok node =>
          rw [ok_bind, ok_bind]
          cases (rest.map fun entry => (false, entry.2)).mapM (resolvePart env source) with
          | error failure => rfl
          | ok nodes => rfl

/-!
# Leaking parts
-/

theorem leaked_rejected (tree : Node) (message : String) (hint : Option String) :
    Ends (Leaked env source tree) (fun _ => True) (rejected message hint source : Outcome alpha) :=
  .inl ⟨message, hint, rfl⟩

theorem leaked_of_place {tree : Node} (front : List (Bool × Node)) {back : List (Bool × Node)}
    {part : Bool × Node}
    (hplaces : places tree = front ++ part :: back)
    (hfront : forall other, other ∈ front -> exists node, resolvePart env source other = .ok node)
    {failure : Failure} (h : Leaked env source part.2 failure) :
    Leaked env source tree failure := by
  cases failure with
  | user e => exact h
  | fault f => exact .place hplaces hfront h

theorem leaked_parts (tree : Node) (front parts : List (Bool × Node)) {back : List (Bool × Node)}
    (hplaces : places tree = front ++ (parts ++ back))
    (hfront : forall other, other ∈ front -> exists node, resolvePart env source other = .ok node)
    (hparts : forall part, part ∈ parts ->
      Ends (Leaked env source part.2) (fun _ => True) (resolvePart env source part)) :
    Ends (Leaked env source tree)
      (fun nodes => parts.mapM (resolvePart env source) = .ok nodes)
      (parts.mapM (resolvePart env source)) := by
  apply Ends.mapM_front
  intro before part after hsplit hbefore
  apply (hparts part (hsplit ▸ by simp)).imp
  · intro failure hfailure
    have hrow : places tree = (front ++ before) ++ part :: (after ++ back) := by
      rw [hplaces, hsplit]
      simp
    apply leaked_of_place _ hrow _ hfailure
    intro other hother
    rcases List.mem_append.1 hother with hother | hother
    · exact hfront other hother
    · exact hbefore other hother
  · intro _ _
    trivial

theorem spliceOne_leaked (tree : Node) (value : Value) :
    Ends (Leaked env source tree) (fun _ => True) (spliceOne source value) := by
  unfold spliceOne
  split
  · trivial
  · trivial
  · split
    · trivial
    · exact leaked_rejected tree _ _

theorem vectorOf_leaked (tree : Node) (items : List Node) :
    Ends (Leaked env source tree) (fun _ => True) (vectorOf source items) := by
  unfold vectorOf
  dsimp only
  split
  · exact leaked_rejected tree _ _
  · trivial

theorem splice_leaked {inner : Node} {value : Value} (hvalue : evaluate env source inner = .ok value)
    (name : String) (several : Bool) :
    Ends (Leaked env source (.interpolate inner)) (fun _ => True)
      (splice source several (value.settled name [])) := by
  unfold splice
  split
  · exact spliceOne_leaked _ _
  · rename_i values hitems
    cases values with
    | error f => exact .items hvalue ((sequenceItems?_settled_eq_error name []).1 hitems)
    | ok values =>
        apply (Ends.mapM_any fun value _ => spliceOne_leaked (.interpolate inner) value).bind_any
        intro nodes
        split
        · trivial
        · exact vectorOf_leaked _ nodes

theorem leaked_marker {inner : Node} (h : Parsed inner) (several : Bool) :
    IsSealed env source several (.interpolate inner) := by
  have hguarded : IsGuarded env source inner := evaluate_guarded h
  unfold IsSealed
  rw [resolveNode]
  cases hvalue : evaluate env source inner with
  | error failure =>
      have hfailure := hguarded.bad_of_eq hvalue
      cases failure with
      | user e => exact hfailure
      | fault f => exact .value hfailure
  | ok value => exact splice_leaked hvalue _ several

theorem leaked_list {tree : Node} {items : List Node}
    (hplaces : places tree = items.map (true, ·))
    (hitems : forall item, item ∈ items -> IsSealed env source true item) :
    Ends (Leaked env source tree) (fun _ => True) (resolveAllNodes env source true items) := by
  rw [resolveAllNodes_eq]
  have hrow : places tree = [] ++ (items.map (true, ·) ++ []) := by
    rw [hplaces, List.append_nil]
    rfl
  apply (leaked_parts tree [] (items.map (true, ·)) hrow nofun ?_).weaken fun _ _ => trivial
  intro part hpart
  rcases List.mem_map.1 hpart with ⟨item, hitem, rfl⟩
  exact hitems item hitem

theorem leaked_two {tree left right : Node} (hplaces : places tree = [(false, left), (false, right)])
    (hleft : IsSealed env source false left) (hright : IsSealed env source false right)
    (build : Node -> Node -> Node) :
    Ends (Leaked env source tree) (fun _ => True) (do
      let a <- resolveNode env source false left
      let b <- resolveNode env source false right
      .ok (build a b)) := by
  cases ha : resolveNode env source false left with
  | error failure => exact leaked_of_place [] hplaces nofun (hleft.bad_of_eq ha)
  | ok a =>
      cases hb : resolveNode env source false right with
      | error failure =>
          exact leaked_of_place [(false, left)] hplaces
            (List.forall_mem_singleton.2 ⟨a, ha⟩) (hright.bad_of_eq hb)
      | ok b => trivial

theorem leaked_call {head : String} {args : List Node} {kwargs : List (String × Node)}
    {isOperator : Bool}
    (hargs : forall arg, arg ∈ args -> forall several, IsSealed env source several arg)
    (hkwargs : forall entry, entry ∈ kwargs -> IsSealed env source false entry.2)
    (several : Bool) :
    IsSealed env source several (.call head args kwargs isOperator) := by
  unfold IsSealed
  rw [resolveNode, resolveAllNodes_eq, resolveNamed_eq]
  have hrow : places (.call head args kwargs isOperator) =
      args.map (!isOperator && !singleArgumentHeads.contains head, ·) ++
        (kwargs.map (fun entry => (false, entry.2)) ++ []) := by
    rw [List.append_nil]
    rfl
  apply (leaked_parts _ [] _ rfl nofun ?_).bind
  · intro nodes hnodes
    have hfront := fun part hpart => exists_of_mapM_eq_ok (a := part) hnodes hpart
    have hnamed : forall part, part ∈ kwargs.map (fun entry => (false, entry.2)) ->
        Ends (Leaked env source part.2) (fun _ => True) (resolvePart env source part) := by
      intro part hpart
      rcases List.mem_map.1 hpart with ⟨entry, hentry, rfl⟩
      exact hkwargs entry hentry
    have hparts := leaked_parts _ _ _ hrow hfront hnamed
    apply ((hparts.weaken fun _ _ => trivial).map_any fun _ => trivial).bind_any
    intro named
    trivial
  · intro part hpart
    rcases List.mem_map.1 hpart with ⟨arg, harg, rfl⟩
    exact hargs arg harg _

theorem resolveNode_leaked {tree : Node} (h : Parsed tree) (several : Bool) :
    IsSealed env source several tree := by
  induction h generalizing several with
  | @leaf t tree _ hleaf =>
      cases t with
      | keyword k => cases k <;> cases hleaf <;> trivial
      | _ => cases hleaf <;> trivial
  | negativeInt _ => trivial
  | negativeFloat _ => trivial
  | joined hsign _ _ iha ihb =>
      rcases operator_of_join hsign with rfl | rfl | ⟨symbol, op, rfl, _⟩
      · unfold IsSealed
        rw [resolveNode]
        exact leaked_two rfl (iha false) (ihb false) .pair
      · unfold IsSealed
        rw [resolveNode]
        exact leaked_two rfl (iha false) (ihb false) .range
      · exact leaked_call (List.forall_mem_cons.2 ⟨iha, List.forall_mem_singleton.2 ihb⟩)
          (List.forall_mem_nil _) several
  | inverted _ ih =>
      exact leaked_call (List.forall_mem_singleton.2 ih) (List.forall_mem_nil _) several
  | negative _ _ ih =>
      exact leaked_call (List.forall_mem_singleton.2 ih) (List.forall_mem_nil _) several
  | call _ _ _ _ ihargs ihkwargs =>
      exact leaked_call ihargs (fun entry hentry => ihkwargs entry hentry false) several
  | marked hinner _ => exact leaked_marker hinner several
  | tuple _ ih =>
      unfold IsSealed
      rw [resolveNode]
      exact (leaked_list rfl fun item hitem => ih item hitem true).bind_any fun _ => trivial
  | vector _ ih =>
      unfold IsSealed
      rw [resolveNode]
      exact (leaked_list rfl fun item hitem => ih item hitem true).bind_any fun _ => trivial

theorem leaked_assignment {name : String} {value : Node} (h : IsSealed env source false value)
    (several : Bool) : IsSealed env source several (.assignment name value) := by
  have hplaces : places (.assignment name value) = [] ++ (false, value) :: [] := rfl
  unfold IsSealed
  rw [resolveNode]
  cases hnode : resolveNode env source false value with
  | error failure => exact leaked_of_place [] hplaces nofun (h.bad_of_eq hnode)
  | ok node => trivial

theorem leaked_of_parse {allowAssignment : Bool} {text : String} {tree : Node}
    (h : parse allowAssignment text = .ok tree) (several : Bool) :
    IsSealed env source several tree := by
  rcases parsed_of_parse h with hparsed | ⟨_, name, value, rfl, hvalue⟩
  · exact resolveNode_leaked hparsed several
  · exact leaked_assignment (resolveNode_leaked hvalue false) several

end Resolution

/-!
# Fragments
-/

end Interpolation
end Wrangle
