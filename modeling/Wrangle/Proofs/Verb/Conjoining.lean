import Wrangle.Proofs.Dataset.Conditions
import Wrangle.Proofs.Verb.Naming

/-!
# Conditions joined in one fragment

A call that keeps the rows for which several conditions are true keeps the same rows
as one with a single condition, in which the logical operator joins them all, unless
the operator itself is in the registry of whole-column functions.
-/

namespace Wrangle

open Dataset Compile

/-!
# Trees
-/

namespace Node

def joinedAll (first : Node) (others : List Node) : Node :=
  others.foldl (binary "&") first

theorem mentionsBareCall_binary_iff {name symbol : String} {left right : Node} :
    (binary symbol left right).mentionsBareCall name = true <->
      left.mentionsBareCall name = true ∨ right.mentionsBareCall name = true := by
  simp only [mentionsBareCall_iff, binary, walk, walkAll, walkNamed, List.mem_cons, List.mem_append]
  simp [apply]

theorem mentionsBareCall_joinedAll_iff {name : String} {first : Node} {others : List Node} :
    (joinedAll first others).mentionsBareCall name = true <->
      exists node, node ∈ first :: others ∧ node.mentionsBareCall name = true := by
  induction others generalizing first with
  | nil => simp [joinedAll]
  | cons second rest ih =>
      show (joinedAll (binary "&" first second) rest).mentionsBareCall name = true <-> _
      rw [ih]
      simp [mentionsBareCall_binary_iff, or_assoc]

end Node

/-!
# Compiled conditions
-/

namespace Compile

variable {scope : Scope} {node first second : Node} {e left right : Expr}

theorem expr_condition_top (scope : Scope) (node : Node) :
    expr scope .condition true node = expr scope .condition false node := by
  have hcall : forall head f args kwargs, callOf scope .condition true head f args kwargs =
      callOf scope .condition false head f args kwargs := fun _ _ _ _ => rfl
  cases node with
  | range start stop => rw [expr, expr]; simp only [hcall]
  | call head args kwargs isOperator =>
      cases isOperator with
      | true => rw [expr, expr]; simp only [hcall]
      | false => rw [expr, expr]; simp only [hcall]
  | _ => rw [expr, expr]

theorem notCondition_ne_ok {before after : String} {hint : Option String} {value : Expr} :
    notCondition node before after hint ≠ .ok value := by
  intro h
  rcases bind_eq_ok_iff.1 h with ⟨_, _, h⟩
  cases h

theorem expr_of_condition (h : condition scope node = .ok e) :
    expr scope .condition false node = .ok e := by
  rw [← expr_condition_top]
  unfold condition at h
  split at h
  case h_1 =>
    rcases bind_eq_ok_iff.1 h with ⟨_, _, h⟩
    exact absurd h notCondition_ne_ok
  case h_2 value =>
    split at h
    · rw [expr]
      exact h
    · exact absurd h notCondition_ne_ok
  case h_3 | h_4 | h_5 => exact absurd h notCondition_ne_ok
  case h_6 =>
    split at h
    · exact absurd h notCondition_ne_ok
    · exact h
  case h_7 => exact h

theorem condition_binary (hand : scope.registry.contains "&" = false)
    (hfirst : condition scope first = .ok left) (hsecond : condition scope second = .ok right) :
    condition scope (.binary "&" first second) = .ok (joined left right) := by
  have hexprs : (exprs scope .condition [first, second]).mapM id = .ok [left, right] := by
    rw [exprs, exprs, exprs, expr_of_condition hfirst, expr_of_condition hsecond]
    rfl
  have hcall : callOf scope .condition true "&" (.binary .conjunction) [left, right] [] =
      joined left right := by
    rw [callOf, Scope.isElementWise, hand]
    rfl
  show expr scope .condition true (.call "&" [first, second] [] true) = _
  rw [expr, hexprs, ← hcall]
  rfl

theorem condition_joinedAll (hand : scope.registry.contains "&" = false)
    (hfirst : condition scope first = .ok left) {others : List Node} {es : List Expr}
    (hothers : List.Forall₂ (fun node e => condition scope node = .ok e) others es) :
    condition scope (first.joinedAll others) = .ok (Dataset.joinedAll left es) := by
  induction hothers generalizing first left with
  | nil => exact hfirst
  | cons hsecond _ ih => exact ih (condition_binary hand hfirst hsecond)

end Compile

namespace Request

variable {scope : Scope} {fragment : ResolvedFragment}

theorem expr_of_condition {found : Assign} (h : condition scope fragment = .ok found) :
    Compile.condition scope fragment.node = .ok found.expr := by
  rcases bind_eq_ok_iff.1 (inFragment_eq_ok_iff.1 h) with ⟨e, he, h⟩
  cases h
  exact he

theorem exists_condition {e : Expr} (h : Compile.condition scope fragment.node = .ok e) :
    exists found, condition scope fragment = .ok found ∧ found.expr = e := by
  refine ⟨_, inFragment_eq_ok_iff.2 (bind_eq_ok_iff.2 ⟨e, h, rfl⟩), rfl⟩

end Request

/-!
# Calls
-/

namespace Invocation

variable {call joining : Invocation} {data result : Dataset}

/-- A call whose single condition joins the conditions of another call. -/
structure Joins (joining call : Invocation) : Prop where
  verb : joining.verb = .filter
  env : joining.env = call.env
  registry : joining.registry = call.registry
  fragments : exists first rest fragment, call.fragments = .ok (first :: rest) ∧
    joining.fragments = .ok [fragment] ∧
    fragment.node = first.node.joinedAll (rest.map ResolvedFragment.node)

/-- What the fragments of a call are compiled to as conditions, and the table that these are
evaluated on: the dataset with the columns for numbers of rows that the fragments ask for. -/
def Compares (call : Invocation) (data : Dataset) (conditions : List Assign) (wide : Dataset) :
    Prop :=
  exists found, call.fragments = .ok found ∧
    found.mapM (Request.condition (call.requestOf data found).fullScope) = .ok conditions ∧
    Operation.applyAll call.env.functions (call.requestOf data found).rowColumns data = .ok wide

section Joining

variable {first fragment : ResolvedFragment} {rest : List ResolvedFragment}
variable (hcall : call.fragments = .ok (first :: rest))
variable (hjoining : joining.fragments = .ok [fragment])
variable (hnode : fragment.node = first.node.joinedAll (rest.map ResolvedFragment.node))
include hnode

theorem exists_mention_joined {name : String} :
    (exists node, node ∈ [fragment].map ResolvedFragment.node ∧
        node.mentionsBareCall name = true) <->
      exists node, node ∈ (first :: rest).map ResolvedFragment.node ∧
        node.mentionsBareCall name = true := by
  have hparts : (first.node.joinedAll (rest.map ResolvedFragment.node)).mentionsBareCall name =
        true <->
      exists node, node ∈ first.node :: rest.map ResolvedFragment.node ∧
        node.mentionsBareCall name = true := Node.mentionsBareCall_joinedAll_iff
  rw [← hnode] at hparts
  refine Iff.trans ?_ hparts
  simp

include hcall hjoining

theorem joined_mentions (data : Dataset) :
    (joining.requestOf data [fragment]).mentionsCount =
        (call.requestOf data (first :: rest)).mentionsCount ∧
      (joining.requestOf data [fragment]).mentionsRowNumber =
        (call.requestOf data (first :: rest)).mentionsRowNumber := by
  constructor
  · rw [Bool.eq_iff_iff, mentionsCount_iff hjoining, mentionsCount_iff hcall,
      exists_mention_joined hnode]
  · rw [Bool.eq_iff_iff, mentionsRowNumber_iff hjoining, mentionsRowNumber_iff hcall,
      exists_mention_joined hnode]

theorem joined_request (henv : joining.env = call.env)
    (hregistry : joining.registry = call.registry) (data : Dataset) :
    (joining.requestOf data [fragment]).rowColumns =
        (call.requestOf data (first :: rest)).rowColumns ∧
      (joining.requestOf data [fragment]).fullScope =
        (call.requestOf data (first :: rest)).fullScope := by
  rcases joined_mentions hcall hjoining hnode data with ⟨hcount, hrowNumber⟩
  have hscope : (joining.requestOf data [fragment]).scope =
      (call.requestOf data (first :: rest)).scope := by
    show Scope.ofColumns data.header joining.registry joining.env = _
    rw [henv, hregistry]
    rfl
  constructor
  · rw [Request.rowColumns, Request.rowColumns, hcount, hrowNumber]
  · rw [Request.fullScope, Request.fullScope, hcount, hrowNumber, hscope]

end Joining

/-- To keep rows by conditions is to pad the dataset, to keep the rows for which the conditions
hold, and to drop the padding. -/
theorem run_filter_eq_ok_iff (hverb : call.verb = .filter) (hdata : data.WellFormed)
    {found : List ResolvedFragment} (hfound : call.fragments = .ok found) (hsome : found ≠ [])
    {settings : Settings} :
    (call.run settings data).result = .ok result <-> exists conditions wide last,
      found.mapM (Request.condition (call.requestOf data found).fullScope) = .ok conditions ∧
      Operation.applyAll call.env.functions (call.requestOf data found).rowColumns data =
        .ok wide ∧
      subset call.env.functions conditions wide = .ok last ∧ result = last.dropped isReserved := by
  have hplan : call.verb.plan (call.requestOf data found) =
      found.mapM (Request.condition (call.requestOf data found).fullScope) >>= fun conditions =>
        .ok ((call.requestOf data found).enclosed
          (if conditions.isEmpty then [] else [.subset conditions])) := by
    rw [hverb]
    rfl
  have hkept : forall {conditions : List Assign},
      found.mapM (Request.condition (call.requestOf data found).fullScope) = .ok conditions ->
        (if conditions.isEmpty then [] else [Operation.subset conditions]) =
          [.subset conditions] := by
    intro conditions hconditions
    cases conditions with
    | nil =>
        have hlength := length_of_mapM_eq_ok hconditions
        exact absurd (List.length_eq_zero_iff.1 hlength.symm) hsome
    | cons condition rest => rfl
  have hdrop : forall {conditions : List Assign} {wide last : Dataset},
      Operation.applyAll call.env.functions (call.requestOf data found).rowColumns data =
        .ok wide -> subset call.env.functions conditions wide = .ok last ->
      Operation.drop isReserved last = .ok (last.dropped isReserved) := by
    intro conditions wide last hwide hlast
    have hregular := (hdata.pads_rowColumns hwide).regular
    rcases subset_rows hregular.width hlast with ⟨rows, rfl, _⟩
    exact drop_eq_ok fun key hkey => ⟨hregular.keys key hkey, hregular.unreserved key hkey⟩
  rw [run_enclosed hfound hplan]
  constructor
  · rintro ⟨conditions, wide, last, hconditions, hwide, hlast, hresult⟩
    rw [hkept hconditions, Operation.applyAll_single] at hlast
    rw [Operation.applyAll_single, Operation.apply, hdrop hwide hlast] at hresult
    cases hresult
    exact ⟨conditions, wide, last, hconditions, hwide, hlast, rfl⟩
  · rintro ⟨conditions, wide, last, hconditions, hwide, hlast, rfl⟩
    refine ⟨conditions, wide, last, hconditions, hwide, ?_, ?_⟩
    · rw [hkept hconditions, Operation.applyAll_single]
      exact hlast
    · rw [Operation.applyAll_single, Operation.apply, hdrop hwide hlast]

/-- The rows that a call keeps are those for which all of its conditions are true in their group,
in the order of the dataset, and a call that joins the conditions keeps them as well. -/
theorem filter_eq_joined (hverb : call.verb = .filter) (hdata : data.WellFormed)
    (hand : call.registry.contains "&" = false) (hjoins : joining.Joins call)
    {settings : Settings} (h : (call.run settings data).result = .ok result) :
    (exists conditions wide groups kept, call.Compares data conditions wide ∧
      data.partitions = .ok groups ∧ kept.Sublist (List.range data.nrows) ∧
      (forall i, i ∈ kept <-> exists group, group ∈ groups ∧ exists place,
        group.rows[place]? = some i ∧
          AllHold call.env.functions wide.columns conditions group.rows place) ∧
      result = { data with rows := data.rowsAt kept }) ∧
    (joining.run settings data).result = .ok result := by
  rcases hjoins.fragments with ⟨first, rest, fragment, hcall, hjoining, hnode⟩
  rcases (run_filter_eq_ok_iff hverb hdata hcall (List.cons_ne_nil _ _)).1 h with
    ⟨conditions, wide, last, hconditions, hwide, hlast, rfl⟩
  have hpads := hdata.pads_rowColumns hwide
  have hpartitions : exists groups, wide.partitions = .ok groups := by
    rcases bind_eq_ok_iff.1 hlast with ⟨groups, hgroups, _⟩
    exact ⟨groups, ofFault_eq_ok_iff.1 hgroups⟩
  rcases hpartitions with ⟨groups, hgroups⟩
  constructor
  · rcases exists_kept_of_subset hpads.regular.width hgroups hlast with
      ⟨kept, rfl, hsublist, hkept⟩
    refine ⟨conditions, wide, groups, kept, ⟨_, hcall, hconditions, hwide⟩,
      hpads.partitions ▸ hgroups, hpads.nrows ▸ hsublist, hkept, ?_⟩
    rw [dropped_keep, hpads.dropped]
    rfl
  · rcases joined_request hcall hjoining hnode hjoins.env hjoins.registry data with
      ⟨hrowColumns, hfullScope⟩
    rw [List.mapM_cons] at hconditions
    rcases bind_eq_ok_iff.1 hconditions with ⟨condition, hfirst, hconditions⟩
    rcases bind_eq_ok_iff.1 hconditions with ⟨others, hothers, hconditions⟩
    cases hconditions
    have hrest : List.Forall₂ (fun (other : Assign) (fragment : ResolvedFragment) =>
        Compile.condition (call.requestOf data (first :: rest)).fullScope fragment.node =
          .ok other.expr) others rest :=
      forall₂_of_mapM_eq_ok hothers fun _ _ _ hother => Request.expr_of_condition hother
    have hexpr : Compile.condition (call.requestOf data (first :: rest)).fullScope fragment.node =
        .ok (Dataset.joinedAll condition.expr (others.map Assign.expr)) := by
      rw [hnode]
      apply condition_joinedAll _ (Request.expr_of_condition hfirst)
      · rw [List.forall₂_map_left_iff, List.forall₂_map_right_iff]
        exact hrest.flip
      · rw [Request.fullScope_registry]
        exact hand
    rcases Request.exists_condition hexpr with ⟨all, hall, hsame⟩
    refine (run_filter_eq_ok_iff hjoins.verb hdata hjoining (List.cons_ne_nil _ _)).2
      ⟨[all], wide, last, ?_, ?_, ?_, rfl⟩
    · rw [hfullScope, List.mapM_cons, hall]
      rfl
    · rw [hrowColumns, hjoins.env]
      exact hwide
    · rw [hjoins.env]
      exact subset_joinedAll hpads.regular.width hgroups hsame hlast

/-- Rows of truth values, some of them missing. -/
def truths : Dataset :=
  flat ["a", "b"] [[.bool true, .missing], [.bool true, .bool true], [.bool false, .bool true]]

def filterTwo : Invocation :=
  { copyColumn with verb := .filter, values := [.sym "a", .sym "b"], named := [] }

def filterBoth : Invocation :=
  { filterTwo with values := [.str "a & b"] }

def bothFragment : ResolvedFragment where
  node := .binary "&" (.identifier "a") (.identifier "b")
  mentionsCount := false
  mentionsRowNumber := false
  source := "a & b"

theorem filterBoth_fragments : filterBoth.fragments = .ok [bothFragment] := by
  have hts : tokenize "a & b" =
      .ok [⟨.identifier "a", 0⟩, ⟨.symbol .ampersand, 2⟩, ⟨.identifier "b", 4⟩, ⟨.finish, 5⟩] := rfl
  have hfragment : Verb.fragmentOf (.str "a & b") = .ok (bothFragment.node, "a & b") :=
    fragmentOf_text (by decide) hts rfl
  unfold fragments Verb.fragmentsOf
  simp only [filterBoth, filterTwo, List.mapM_cons, List.mapM_nil, hfragment]
  rfl

theorem filterBoth_joins : filterBoth.Joins filterTwo where
  verb := rfl
  env := rfl
  registry := rfl
  fragments := ⟨_, _, _, rfl, filterBoth_fragments, rfl⟩

theorem filterTwo_run : (filterTwo.run Settings.initial truths).result =
    .ok (flat ["a", "b"] [[.bool true, .bool true]]) :=
  (run_filter_eq_ok_iff rfl (by decide) rfl (List.cons_ne_nil _ _)).2
    ⟨_, _, _, rfl, rfl, rfl, rfl⟩

theorem filter_eq_joined_filterBoth :
    (filterBoth.run Settings.initial truths).result =
      .ok (flat ["a", "b"] [[.bool true, .bool true]]) :=
  (filter_eq_joined rfl (by decide) (by decide) filterBoth_joins filterTwo_run).2

end Invocation
end Wrangle
