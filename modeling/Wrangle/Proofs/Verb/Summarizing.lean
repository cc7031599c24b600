import Wrangle.Proofs.Compile.Scalars
import Wrangle.Proofs.Dataset.Summaries
import Wrangle.Proofs.Verb.Naming
import Wrangle.Proofs.Verb.Reducing

/-!
# Calls that summarize

A call whose fragments count rows, or compute statistics of columns, gives the table
of these summaries, without the columns of reserved names, and grouped by all keys
but the last one.
-/

namespace Wrangle

open Dataset Compile

/-!
# Fragments
-/

namespace Summary

/-- The tree of a summary. -/
def node : Summary -> Node
  | size => .call countFunction [] [] false
  | statistic of column => .call of.name [.identifier column] [] false

/-- A tree that names a summary, or the summary alone, which is named by its text. -/
def IsWritten (node : Node) (name : String) (summary : Summary) : Prop :=
  node = .assignment name summary.node ∨ (node = summary.node ∧ name = summary.node.unparse)

variable {scope : Scope} {summary : Summary}

def IsSeen (scope : Scope) (summary : Summary) : Prop :=
  forall column, summary.column? = some column ->
    column ∈ scope.columns ∧ column ∉ scope.summaries

def scalar : Summary -> Scalar
  | size => .size
  | statistic of column => .reduced (.statistic of) column

theorem node_scalar (summary : Summary) : summary.scalar.node = summary.node := by
  cases summary <;> rfl

theorem expr_statistic (scope : Scope) (of : Statistic) (column : String) :
    Compile.expr scope .aggregate true (statistic of column).node =
      (Compile.expr scope .aggregate false (.identifier column) >>= fun value =>
        .ok (.apply of.name (.library of.function) [value] [])) := by
  have hcall : forall value, Compile.callOf scope .aggregate true of.name
      (.library of.function) [value] [] = .apply of.name (.library of.function) [value] [] := by
    intro value
    rw [Compile.callOf, Scope.isElementWise]
    simp
  rw [← node_scalar, scalar, Scalar.expr_reducer]
  cases Compile.expr scope .aggregate false (.identifier column) with
  | error failure => rfl
  | ok value => exact congrArg Except.ok (hcall value)

theorem expr_node (h : summary.IsSeen scope) :
    Compile.expr scope .aggregate true summary.node = .ok summary.expr := by
  cases summary with
  | size => rfl
  | statistic of column =>
      rcases h column rfl with ⟨hcolumn, hsummaries⟩
      rw [expr_statistic, Compile.expr, if_neg (by simpa using hsummaries), Scope.name?,
        if_pos (List.contains_iff_mem.2 hcolumn)]
      rfl

theorem assigns_assignment (scope : Scope) (name : String) (summary : Summary) :
    Compile.assigns scope .aggregate (.assignment name summary.node) =
      (Compile.expr scope .aggregate true summary.node >>= fun e =>
        .ok [{ name := name, expr := e, source := none }]) := by
  rw [← node_scalar, Scalar.assigns_assignment]

theorem assigns_of_isWritten {node : Node} {name : String} (h : IsWritten node name summary)
    (hseen : summary.IsSeen scope) :
    Compile.assigns scope .aggregate node =
      .ok [{ name := name, expr := summary.expr, source := none }] := by
  have hwritten : Scalar.IsWritten node name summary.scalar := by
    rw [Scalar.IsWritten, node_scalar]
    exact h
  have hexpr := expr_node hseen
  rw [← node_scalar] at hexpr
  exact hwritten.assigns_eq hexpr

end Summary

def WriteSummaries (fragments : List ResolvedFragment) (entries : List (String × Summary)) :
    Prop :=
  List.Forall₂ (fun fragment entry => Summary.IsWritten fragment.node entry.1 entry.2)
    fragments entries

namespace Request

variable {fragments : List ResolvedFragment} {entries : List (String × Summary)} {scope : Scope}

theorem isSeen_extendScope {summary : Summary} (h : summary.IsSeen scope) {name : String}
    (hname : summary.column? ≠ some name) :
    summary.IsSeen (extendScope .aggregate scope [name]) := by
  intro column hcolumn
  rcases h column hcolumn with ⟨hmem, hnone⟩
  refine ⟨mem_extendScope_iff.2 (Or.inl hmem), ?_⟩
  intro hsummary
  rcases mem_extendScope_summaries hsummary with hold | hnew
  · exact hnone hold
  · exact hname (List.mem_singleton.1 hnew ▸ hcolumn)

theorem assigns_of_summaries (h : WriteSummaries fragments entries)
    (hapart : entries.Pairwise fun a b => b.2.column? ≠ some a.1)
    (hseen : forall entry, entry ∈ entries -> entry.2.IsSeen scope) :
    exists found, assigns .aggregate scope fragments = .ok found ∧ Compute found entries := by
  induction h generalizing scope with
  | nil => exact ⟨[], rfl, rfl⟩
  | @cons fragment entry fragments entries hwritten _ ih =>
      rcases List.pairwise_cons.1 hapart with ⟨hothers, hapart⟩
      rcases List.forall_mem_cons.1 hseen with ⟨hfirst, hseen⟩
      have hlater : forall other, other ∈ entries ->
          other.2.IsSeen (extendScope .aggregate scope [entry.1]) :=
        fun other hother => isSeen_extendScope (hseen other hother) (hothers other hother)
      rcases ih hapart hlater with ⟨found, hfound, hcompute⟩
      have hassign := Summary.assigns_of_isWritten hwritten hfirst
      refine ⟨{ name := entry.1, expr := entry.2.expr, source := some fragment.source } :: found,
        ?_, congrArg ((entry.1, entry.2.expr) :: ·) hcompute⟩
      rw [assigns, hassign]
      show (assigns .aggregate (extendScope .aggregate scope [entry.1]) fragments >>= _) = _
      rw [hfound]
      rfl

end Request

/-!
# Calls
-/

namespace Invocation

variable {call : Invocation} {data : Dataset} {keys : List (List Value)}
variable {entries : List (String × Summary)}

/-- A well-formed dataset that is grouped by distinct columns of simple cells. -/
structure IsKeyed (data : Dataset) : Prop where
  wellFormed : data.WellFormed
  keys : data.KeysAre Value.isSimple
  distinct : data.groups.Nodup

theorem isKeyed_withGroups (hdata : data.WellFormed) {columns : List String}
    (hkeys : (data.withGroups columns).KeysAre Value.isSimple) :
    IsKeyed (data.withGroups (addedNames [] columns)) := by
  have hsame : forall name, name ∈ addedNames [] columns <-> name ∈ columns := by
    intro name
    rw [mem_addedNames_iff]
    simp
  have hall := keysAre_withGroups hkeys hsame
  constructor
  · exact withGroups_wellFormed hdata hall.present
  · exact hall
  · exact addedNames_nodup List.nodup_nil columns

/-- A call whose fragments write summaries. -/
structure Summarizes (call : Invocation) (entries : List (String × Summary)) : Prop where
  verb : call.verb = .summarize ∨ call.verb = .summarise
  fragments : exists found, call.fragments = .ok found ∧ WriteSummaries found entries

/-- The table of the summaries for some keys without reserved columns, grouped by all columns of
the keys but the last one. -/
def summaryTable (data : Dataset) (entries : List (String × Summary)) (keys : List (List Value)) :
    Dataset :=
  ((data.summarized entries keys).dropped isReserved).withGroups data.groups.dropLast

theorem applyAll_summarized (hdata : data.WellFormed) (callers : CallerFunctions) :
    Operation.applyAll callers
      ([.dropReserved] ++
        if data.groups.dropLast.isEmpty then [] else [.regroup data.groups.dropLast])
      (data.summarized entries keys) = .ok (summaryTable data entries keys) := by
  have hgroups : (data.summarized entries keys).groups = [] := tableOf_groups ..
  have hdrop : Operation.drop isReserved (data.summarized entries keys) =
      .ok ((data.summarized entries keys).dropped isReserved) := by
    apply drop_eq_ok
    intro key hkey
    rw [hgroups] at hkey
    cases hkey
  rw [Operation.applyAll_append, Operation.applyAll_single]
  show (Operation.drop isReserved _ >>= _) = _
  rw [hdrop, ok_bind, summaryTable]
  split
  · rename_i hempty
    have hnone : ((data.summarized entries keys).dropped isReserved).groups = [] := by
      rw [dropped_groups, hgroups]
    rw [List.isEmpty_iff.1 hempty, ← hnone]
    rfl
  · rw [Operation.applyAll_single]
    apply Request.regroup_eq_ok
    intro key hkey
    have hmem := hdata.keys key (List.dropLast_subset _ hkey)
    refine mem_dropped_header.2 ⟨?_, hdata.unreserved key hmem⟩
    rw [summarized, tableOf_header]
    exact List.mem_append_left _ (List.dropLast_subset _ hkey)

theorem Summarizes.run_eq (h : call.Summarizes entries) (hkeyed : IsKeyed data)
    (hlist : data.IsKeyList keys) (hallows : data.Allows entries) (settings : Settings) :
    (call.run settings data).result = .ok (summaryTable data entries keys) := by
  have hdata := hkeyed.wellFormed
  rcases h.fragments with ⟨found, hfound, hwritten⟩
  have hseen : forall entry, entry ∈ entries ->
      entry.2.IsSeen (call.requestOf data found).fullScope := by
    intro entry hentry column hcolumn
    rcases hallows.read entry hentry column hcolumn with ⟨hmem, _⟩
    refine ⟨Request.mem_fullScope_of_mem hmem, ?_⟩
    rw [Request.fullScope_summaries]
    exact List.not_mem_nil
  rcases Request.assigns_of_summaries hwritten hallows.apart.reads hseen with
    ⟨assigns, hassigns, hcompute⟩
  have hplan : call.verb.plan (call.requestOf data found) =
      .ok ((call.requestOf data found).enclosed [.summarize assigns] ++
        (if data.groups.dropLast.isEmpty then [] else [.regroup data.groups.dropLast])) := by
    have hverb : call.verb.plan (call.requestOf data found) =
        (call.requestOf data found).planSummarize := by
      rcases h.verb with hverb | hverb <;> rw [hverb] <;> rfl
    rw [hverb, Request.planSummarize]
    show (Request.assigns .aggregate _ found >>= _) = _
    rw [hassigns]
    rfl
  rcases exists_dividesInto hdata.width hkeyed.keys.discrete with ⟨groups, hgroups⟩
  have hrowColumns : exists wide, Operation.applyAll call.env.functions
      (call.requestOf data found).rowColumns data = .ok wide :=
    hdata.exists_rowColumns fun _ => ⟨groups, hgroups.partitions⟩
  rcases hrowColumns with ⟨wide, hwide⟩
  refine run_eq_ok_iff.2 ⟨found, _, hfound, hplan, ?_⟩
  rw [Request.enclosed, List.append_assoc, List.append_assoc, Operation.applyAll_append, hwide,
    ok_bind, Operation.applyAll_append, Operation.applyAll_single]
  show (summarize _ assigns wide >>= _) = _
  rw [summarize_eq hdata.isRegular hdata.unreserved (hdata.pads_rowColumns hwide) hkeyed.keys
    hlist hkeyed.distinct hcompute hallows, ok_bind]
  exact applyAll_summarized hdata call.env.functions

end Invocation
end Wrangle
