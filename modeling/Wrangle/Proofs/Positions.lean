import Wrangle.Positions
import Wrangle.Proofs.Fragment.Walking
import Wrangle.Proofs.Outcome

/-!
# Positions known before any group

Positions that do not mention the number of rows are evaluated when a pick is
planned, for a group of no rows.  What they come to is the same for every group, so
a pick that is refused then would be refused for each group, and a pick of such
positions only that is accepted picks the same positions from every group.
-/

namespace Wrangle
namespace Positions

/-!
# Signs
-/

namespace Mark

def IsBackward (mark : Mark) : Prop :=
  exists n, n <= 0 ∧ mark = whole n

def IsForward (mark : Mark) : Prop :=
  exists n, 0 <= n ∧ mark = whole n

theorem isPositive_eq_false_iff {mark : Mark} :
    mark.isPositive = .ok false <-> mark.IsBackward := by
  cases mark with
  | whole n => simp [isPositive, IsBackward]
  | complex re im => simp [isPositive, IsBackward]

theorem isNegative_eq_false_iff {mark : Mark} :
    mark.isNegative = .ok false <-> mark.IsForward := by
  cases mark with
  | whole n => simp [isNegative, IsForward]
  | complex re im => simp [isNegative, IsForward]

end Mark

theorem anyM_eq_false_iff {alpha : Type} {test : alpha -> Except Fault Bool}
    {items : List alpha} :
    items.anyM test = .ok false <-> forall item, item ∈ items -> test item = .ok false := by
  induction items with
  | nil => simp [List.anyM, pure, Except.pure]
  | cons first rest ih =>
      rw [List.anyM, List.forall_mem_cons, ← ih, bind_eq_ok_iff]
      constructor
      · rintro ⟨found, hfound, hrest⟩
        cases found with
        | true => cases hrest
        | false => exact ⟨hfound, hrest⟩
      · rintro ⟨hfirst, hrest⟩
        exact ⟨false, hfirst, hrest⟩

theorem exists_anyM_isPositive {marks : List Mark}
    (h : forall mark, mark ∈ marks -> mark.IsForward) :
    exists found, marks.anyM Mark.isPositive = .ok found := by
  induction marks with
  | nil => exact ⟨false, rfl⟩
  | cons first rest ih =>
      rcases List.forall_mem_cons.1 h with ⟨⟨n, _, rfl⟩, hrest⟩
      rcases ih hrest with ⟨found, hfound⟩
      rw [List.anyM, Mark.isPositive, ok_bind]
      cases decide (0 < n) with
      | true => exact ⟨true, rfl⟩
      | false => exact ⟨found, hfound⟩

theorem checkSigns_eq_ok_iff {nodes : List Node} {marks : List Mark} :
    checkSigns nodes marks = .ok () <->
      (forall mark, mark ∈ marks -> mark.IsBackward) ∨
        (forall mark, mark ∈ marks -> mark.IsForward) := by
  have hunmixed : checkSigns nodes marks = .ok () <-> mixesSigns marks = .ok false := by
    rw [checkSigns]
    cases mixesSigns marks with
    | error f => simp [Outcome.ofFault]
    | ok mixed => cases mixed <;> simp [Outcome.ofFault, Outcome.reject]
  rw [hunmixed, mixesSigns, bind_eq_ok_iff]
  simp only [← Mark.isPositive_eq_false_iff, ← Mark.isNegative_eq_false_iff, ← anyM_eq_false_iff]
  constructor
  · rintro ⟨forwards, hforwards, hmixed⟩
    cases forwards with
    | false => exact Or.inl hforwards
    | true => exact Or.inr hmixed
  · rintro (hbackward | hforward)
    · exact ⟨false, hbackward, rfl⟩
    · have hwhole := anyM_eq_false_iff.1 hforward
      simp only [Mark.isNegative_eq_false_iff] at hwhole
      rcases exists_anyM_isPositive hwhole with ⟨forwards, hforwards⟩
      refine ⟨forwards, hforwards, ?_⟩
      cases forwards with
      | false => rfl
      | true => exact hforward

/-!
# Positions without the number of rows
-/

def IsFixed (node : Node) : Prop :=
  node.mentionsBareCall countFunction = false

theorem isFixed_iff {node : Node} :
    IsFixed node <-> forall part, part ∈ node.walk -> part.isBareCall countFunction = false := by
  simp [IsFixed, Node.mentionsBareCall]

namespace IsFixed

theorem of_walk {whole part : Node} (h : IsFixed whole)
    (hsub : forall node, node ∈ part.walk -> node ∈ whole.walk) : IsFixed part :=
  isFixed_iff.2 fun node hnode => isFixed_iff.1 h node (hsub node hnode)

theorem argument {head : String} {args : List Node} {kwargs : List (String × Node)}
    {isOperator : Bool} (h : IsFixed (.call head args kwargs isOperator)) {arg : Node}
    (harg : arg ∈ args) : IsFixed arg :=
  h.of_walk fun _ hnode =>
    List.mem_cons_of_mem _ (List.mem_append_left _ (Node.mem_walkAll harg hnode))

theorem start {start stop : Node} (h : IsFixed (.range start stop)) : IsFixed start :=
  h.of_walk fun _ hnode => List.mem_cons_of_mem _ (List.mem_append_left _ hnode)

theorem stop {start stop : Node} (h : IsFixed (.range start stop)) : IsFixed stop :=
  h.of_walk fun _ hnode => List.mem_cons_of_mem _ (List.mem_append_right _ hnode)

theorem vector_item {items : List Node} (h : IsFixed (.vector items)) {item : Node}
    (hitem : item ∈ items) : IsFixed item :=
  h.of_walk fun _ hnode => List.mem_cons_of_mem _ (Node.mem_walkAll hitem hnode)

theorem tuple_item {items : List Node} (h : IsFixed (.tuple items)) {item : Node}
    (hitem : item ∈ items) : IsFixed item :=
  h.of_walk fun _ hnode => List.mem_cons_of_mem _ (Node.mem_walkAll hitem hnode)

theorem isBareCall {node : Node} (h : IsFixed node) : node.isBareCall countFunction = false := by
  have hself : node ∈ node.walk := by cases node <;> simp [Node.walk]
  exact isFixed_iff.1 h node hself

end IsFixed

/-!
# Their values
-/

variable {node : Node} {nodes : List Node} (few many : Nat)

/-- The number that a position stands for depends on that of rows only where it is mentioned. -/
theorem scalar_of_isFixed (h : IsFixed node) : scalar few node = scalar many node := by
  fun_induction scalar few node with
  | case1 value => rfl
  | case2 head kwargs isOperator hcount =>
      rw [h.isBareCall] at hcount
      cases hcount
  | case3 head kwargs hcount => rw [scalar, if_neg hcount, if_pos rfl]
  | case4 head kwargs isOperator hcount hoperator =>
      rw [scalar, if_neg hcount, if_neg hoperator]
  | case5 head operand kwargs ih =>
      rw [scalar, if_pos rfl, ih (h.argument List.mem_cons_self)]
  | case6 head operand kwargs isOperator hoperator => rw [scalar, if_neg hoperator]
  | case7 head left right rest kwargs ihleft ihright =>
      rw [scalar, if_pos rfl, ihleft (h.argument List.mem_cons_self),
        ihright (h.argument (List.mem_cons_of_mem _ List.mem_cons_self))]
  | case8 head left right rest kwargs isOperator hoperator => rw [scalar, if_neg hoperator]
  | case9 node hliteral hnone hone hmore => rw [scalar] <;> assumption

theorem position_of_isFixed (h : IsFixed node) : position few node = position many node := by
  rw [position, position, scalar_of_isFixed few many h]

theorem single_of_isFixed (h : IsFixed node) :
    (position few node).map (fun mark => [mark]) = (position many node).map fun mark => [mark] := by
  rw [position_of_isFixed few many h]

theorem room_of_isFixed (h : IsFixed node) (nrows : Nat) : room nrows node = 0 := by
  rw [room, h]
  rfl

mutual

theorem nodeValues_of_isFixed : forall {node : Node}, IsFixed node ->
    nodeValues few node = nodeValues many node
  | .range start stop, h => by
      rw [nodeValues, nodeValues, position_of_isFixed few many h.start,
        position_of_isFixed few many h.stop, room_of_isFixed h, room_of_isFixed h]
  | .vector items, h => by
      rw [nodeValues, nodeValues]
      exact nodesValues_of_isFixed fun item hitem => h.vector_item hitem
  | .tuple items, h => by
      rw [nodeValues, nodeValues]
      exact nodesValues_of_isFixed fun item hitem => h.tuple_item hitem
  | .literal _, h => single_of_isFixed few many h
  | .call _ _ _ _, h => single_of_isFixed few many h
  | .identifier _, h => single_of_isFixed few many h
  | .assignment _ _, h => single_of_isFixed few many h
  | .pair _ _, h => single_of_isFixed few many h
  | .interpolate _, h => single_of_isFixed few many h
  | .splice _, h => single_of_isFixed few many h
  | .foreign _, h => single_of_isFixed few many h

theorem nodesValues_of_isFixed : forall {nodes : List Node},
    (forall node, node ∈ nodes -> IsFixed node) -> nodesValues few nodes = nodesValues many nodes
  | [], _ => rfl
  | node :: rest, h => by
      rcases List.forall_mem_cons.1 h with ⟨hnode, hrest⟩
      rw [nodesValues, nodesValues, nodeValues_of_isFixed hnode, nodesValues_of_isFixed hrest]

end

/-- A position that does not mention the number of rows has the same values in every group, or it
fails in every group. -/
theorem guarded_agrees (h : IsFixed node) :
    (exists marks, forall nrows, guarded nrows node = .ok marks) ∨
      forall nrows, exists failure, guarded nrows node = .error failure := by
  have hsame (nrows : Nat) : nodeValues nrows node = nodeValues 0 node :=
    nodeValues_of_isFixed nrows 0 h
  cases hvalues : nodeValues 0 node with
  | ok marks =>
      left
      refine ⟨marks, fun nrows => ?_⟩
      rw [guarded, hsame, hvalues]
  | error failure =>
      right
      intro nrows
      rw [guarded, hsame, hvalues]
      split
      · cases shown node with
        | error other => exact ⟨other, rfl⟩
        | ok text => exact ⟨_, rfl⟩
      · exact ⟨failure, rfl⟩

/-!
# All of them together
-/

theorem exists_mapM_of_sublist {alpha beta epsilon : Type} {f : alpha -> Except epsilon beta}
    {items others : List alpha} (hsub : others.Sublist items) {results : List beta}
    (h : items.mapM f = .ok results) :
    exists found, others.mapM f = .ok found ∧ found.Sublist results := by
  induction hsub generalizing results with
  | slnil => exact ⟨results, h, List.Sublist.refl results⟩
  | cons item _ ih =>
      rw [List.mapM_cons] at h
      rcases bind_eq_ok_iff.1 h with ⟨first, _, h⟩
      rcases bind_eq_ok_iff.1 h with ⟨rest, hrest, h⟩
      cases h
      rcases ih hrest with ⟨found, hfound, hfew⟩
      exact ⟨found, hfound, hfew.cons first⟩
  | cons_cons item _ ih =>
      rw [List.mapM_cons] at h
      rcases bind_eq_ok_iff.1 h with ⟨first, hfirst, h⟩
      rcases bind_eq_ok_iff.1 h with ⟨rest, hrest, h⟩
      cases h
      rcases ih hrest with ⟨found, hfound, hfew⟩
      refine ⟨first :: found, ?_, hfew.cons_cons first⟩
      rw [List.mapM_cons, hfirst, hfound]
      rfl

/-- Some of the positions come to some of the marks that all of them come to. -/
theorem exists_evaluate_of_sublist {nrows : Nat} {chosen : List Node} {marks : List Mark}
    (hsub : chosen.Sublist nodes) (h : evaluate nrows nodes = .ok marks) :
    exists found, evaluate nrows chosen = .ok found ∧
      forall mark, mark ∈ found -> mark ∈ marks := by
  rcases map_eq_ok_iff.1 h with ⟨lists, hlists, rfl⟩
  rcases exists_mapM_of_sublist hsub hlists with ⟨found, hfound, hfew⟩
  refine ⟨_, map_eq_ok_iff.2 ⟨found, hfound, rfl⟩, fun mark hmark => ?_⟩
  simp only [List.mem_filter, List.mem_flatten] at hmark ⊢
  rcases hmark with ⟨⟨marks, hmarks, hmark⟩, hzero⟩
  exact ⟨⟨marks, hfew.mem hmarks, hmark⟩, hzero⟩

theorem evaluate_of_isFixed {marks : List Mark} (hfixed : forall node, node ∈ nodes -> IsFixed node)
    (h : evaluate few nodes = .ok marks) : evaluate many nodes = .ok marks := by
  rcases map_eq_ok_iff.1 h with ⟨lists, hlists, rfl⟩
  have hsame : nodes.mapM (guarded few) = nodes.mapM (guarded many) := by
    apply mapM_congr
    intro node hnode
    rcases guarded_agrees (hfixed node hnode) with ⟨marks, hmarks⟩ | hfails
    · rw [hmarks, hmarks]
    · rcases exists_of_mapM_eq_ok hlists hnode with ⟨marks, hmarks⟩
      rcases hfails few with ⟨failure, hfailure⟩
      rw [hmarks] at hfailure
      cases hfailure
  exact map_eq_ok_iff.2 ⟨lists, hsame ▸ hlists, rfl⟩

theorem isFixed_of_mem_fixedNodes (h : node ∈ fixedNodes nodes) : IsFixed node := by
  simpa [IsFixed] using (List.mem_filter.1 h).2

theorem fixedNodes_of_isFixed (h : forall node, node ∈ nodes -> IsFixed node) :
    fixedNodes nodes = nodes := by
  rw [fixedNodes, List.filter_eq_self]
  intro node hnode
  rw [h node hnode]
  rfl

theorem ofNodes_eq_ok_iff (hform : checkAll nodes = .ok ()) (hsome : nodes ≠ [])
    {positions : Positions} :
    ofNodes nodes = .ok positions <->
      positions = { nodes := nodes } ∧ exists known, evaluate 0 (fixedNodes nodes) = .ok known ∧
        checkSigns nodes known = .ok () := by
  have hempty : nodes.isEmpty = false := by simpa using hsome
  rw [ofNodes, hempty, if_neg Bool.false_ne_true, hform, ok_bind, bind_eq_ok_iff]
  constructor
  · rintro ⟨known, hknown, h⟩
    rcases bind_eq_ok_iff.1 h with ⟨_, hsigns, h⟩
    cases h
    exact ⟨rfl, known, hknown, hsigns⟩
  · rintro ⟨rfl, known, hknown, hsigns⟩
    exact ⟨known, hknown, bind_eq_ok_iff.2 ⟨(), hsigns, rfl⟩⟩

theorem values_eq_ok_iff {positions : Positions} {nrows : Nat} {ns : List Int} :
    positions.values nrows = .ok ns <->
      exists marks, evaluate nrows positions.nodes = .ok marks ∧
        checkSigns positions.nodes marks = .ok () ∧ marks.filterMap Mark.whole? = ns := by
  rw [values, bind_eq_ok_iff]
  constructor
  · rintro ⟨marks, hmarks, h⟩
    rcases bind_eq_ok_iff.1 h with ⟨_, hsigns, h⟩
    exact ⟨marks, hmarks, hsigns, Except.ok.inj h⟩
  · rintro ⟨marks, hmarks, hsigns, rfl⟩
    exact ⟨marks, hmarks, bind_eq_ok_iff.2 ⟨(), hsigns, rfl⟩⟩

/-- If the positions can be picked from a group of some size, the pick can be planned. -/
theorem ofNodes_of_values (hform : checkAll nodes = .ok ()) (hsome : nodes ≠ []) {nrows : Nat}
    {ns : List Int} (h : Positions.values { nodes := nodes } nrows = .ok ns) :
    ofNodes nodes = .ok { nodes := nodes } := by
  rcases values_eq_ok_iff.1 h with ⟨marks, hmarks, hsigns, _⟩
  rcases exists_evaluate_of_sublist List.filter_sublist hmarks with ⟨known, hknown, hsub⟩
  have hearly : evaluate 0 (fixedNodes nodes) = .ok known :=
    evaluate_of_isFixed nrows 0 (fun _ hnode => isFixed_of_mem_fixedNodes hnode) hknown
  refine (ofNodes_eq_ok_iff hform hsome).2 ⟨rfl, known, hearly, checkSigns_eq_ok_iff.2 ?_⟩
  rcases checkSigns_eq_ok_iff.1 hsigns with hbackward | hforward
  · exact Or.inl fun mark hmark => hbackward mark (hsub mark hmark)
  · exact Or.inr fun mark hmark => hforward mark (hsub mark hmark)

theorem values_of_isFixed {positions : Positions} {ns : List Int}
    (hfixed : forall node, node ∈ positions.nodes -> IsFixed node)
    (h : positions.values few = .ok ns) : positions.values many = .ok ns := by
  rcases values_eq_ok_iff.1 h with ⟨marks, hmarks, hsigns, hns⟩
  exact values_eq_ok_iff.2 ⟨marks, evaluate_of_isFixed few many hfixed hmarks, hsigns, hns⟩

theorem exists_values_of_ofNodes (hform : checkAll nodes = .ok ())
    (hfixed : forall node, node ∈ nodes -> IsFixed node) {positions : Positions}
    (h : ofNodes nodes = .ok positions) :
    exists ns, forall nrows, positions.values nrows = .ok ns := by
  have hsome : nodes ≠ [] := by
    rintro rfl
    cases h
  rcases (ofNodes_eq_ok_iff hform hsome).1 h with ⟨rfl, known, hknown, hsigns⟩
  rw [fixedNodes_of_isFixed hfixed] at hknown
  have hempty : Positions.values { nodes := nodes } 0 = .ok (known.filterMap Mark.whole?) :=
    values_eq_ok_iff.2 ⟨known, hknown, hsigns, rfl⟩
  exact ⟨_, fun nrows => values_of_isFixed 0 nrows hfixed hempty⟩

/-- Of positions of the right form, a pick that is refused when it is planned is refused for groups
of any size.  Without the number of rows, a pick that is planned has one list of positions for all
groups, and what one group accepts every group does. -/
theorem planning_agrees_with_picking (hform : checkAll nodes = .ok ()) :
    (nodes ≠ [] -> (exists failure, ofNodes nodes = .error failure) ->
      forall nrows, exists failure, Positions.values { nodes := nodes } nrows = .error failure) ∧
      ((forall node, node ∈ nodes -> IsFixed node) ->
        (forall positions, ofNodes nodes = .ok positions ->
          exists ns, forall nrows, positions.values nrows = .ok ns) ∧
        forall few many ns, Positions.values { nodes := nodes } few = .ok ns ->
          Positions.values { nodes := nodes } many = .ok ns) := by
  refine ⟨fun hsome hrefused nrows => ?_, fun hfixed => ⟨fun positions h => ?_, ?_⟩⟩
  · rcases hrefused with ⟨failure, hfailure⟩
    cases hvalues : Positions.values { nodes := nodes } nrows with
    | error later => exact ⟨later, rfl⟩
    | ok ns =>
        rw [ofNodes_of_values hform hsome hvalues] at hfailure
        cases hfailure
  · exact exists_values_of_ofNodes hform hfixed h
  · intro few many ns h
    exact values_of_isFixed few many hfixed h

/-- The first row, the last but one and the last; the first two are known before any group. -/
def mixedEnds : List Node :=
  [.literal (.int 1), Node.unary "-" (.literal (.int 2)), .call countFunction [] [] false]

def leadingRows : List Node :=
  [.range (.literal (.int 0)) (.literal (.int 3)), .tuple [.literal (.int 3)]]

theorem planning_agrees_with_picking_examples :
    (forall nrows, exists failure, Positions.values { nodes := mixedEnds } nrows = .error failure) ∧
      exists ns, forall nrows, Positions.values { nodes := leadingRows } nrows = .ok ns := by
  have hmixed := planning_agrees_with_picking (show checkAll mixedEnds = .ok () from rfl)
  have hleading := planning_agrees_with_picking (show checkAll leadingRows = .ok () from rfl)
  constructor
  · exact hmixed.1 nofun ⟨_, rfl⟩
  · refine (hleading.2 ?_).1 { nodes := leadingRows } rfl
    simp [leadingRows, IsFixed, Node.mentionsBareCall, Node.walk, Node.walkAll, Node.isBareCall]

end Positions
end Wrangle
