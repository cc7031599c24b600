import Wrangle.Proofs.Compile.Scoping
import Wrangle.Proofs.Interpolation.Mentions
import Wrangle.Verb.Planning

/-!
# Plans stay in scope

The scope of a request holds the columns of the dataset and the reserved columns
that its fragments call for.  Each assignment also sees the columns that are
computed before it.
-/

namespace Wrangle

open Compile

/-!
# Scopes
-/

namespace Scope

theorem mem_addColumn_iff {scope : Scope} {column name : String} :
    name ∈ (scope.addColumn column).columns <-> name ∈ scope.columns ∨ name = column := by
  unfold addColumn
  split
  · rename_i h
    constructor
    · exact Or.inl
    · rintro (h' | rfl)
      · exact h'
      · simpa using h
  · simp

theorem addColumn_summaries (scope : Scope) (column : String) :
    (scope.addColumn column).summaries = scope.summaries := by
  unfold addColumn
  split <;> rfl

theorem mem_addColumns_iff {name : String} {more : List String} {scope : Scope} :
    name ∈ (scope.addColumns more).columns <-> name ∈ scope.columns ∨ name ∈ more := by
  induction more generalizing scope with
  | nil => simp [addColumns]
  | cons first rest ih =>
      have hrest : name ∈ ((scope.addColumn first).addColumns rest).columns <->
          name ∈ (scope.addColumn first).columns ∨ name ∈ rest := ih
      rw [mem_addColumn_iff] at hrest
      rw [List.mem_cons, ← or_assoc]
      exact hrest

theorem addColumns_summaries (more : List String) (scope : Scope) :
    (scope.addColumns more).summaries = scope.summaries := by
  induction more generalizing scope with
  | nil => rfl
  | cons first rest ih =>
      have hrest := ih (scope.addColumn first)
      rw [addColumn_summaries] at hrest
      exact hrest

end Scope

namespace Request

theorem mem_extendScope_iff {mode : Mode} {scope : Scope} {names : List String} {name : String} :
    name ∈ (extendScope mode scope names).columns <-> name ∈ scope.columns ∨ name ∈ names := by
  unfold extendScope
  split
  · exact Scope.mem_addColumns_iff
  · exact Scope.mem_addColumns_iff

theorem mem_extendScope_summaries {mode : Mode} {scope : Scope} {names : List String}
    {name : String} (h : name ∈ (extendScope mode scope names).summaries) :
    name ∈ scope.summaries ∨ name ∈ names := by
  unfold extendScope at h
  split at h
  · rw [Scope.addSummaries] at h
    rcases List.mem_append.1 h with h | h
    · rw [Scope.addColumns_summaries] at h
      exact Or.inl h
    · exact Or.inr h
  · rw [Scope.addColumns_summaries] at h
    exact Or.inl h

theorem covers_extendScope {mode : Mode} {scope : Scope} {names : List String} {nodes : List Node}
    (h : Covers scope.columns scope nodes) :
    Covers (extendScope mode scope names).columns (extendScope mode scope names) nodes where
  columns := fun _ hname => hname
  summaries := fun name hname => by
    rcases mem_extendScope_summaries hname with hname | hname
    · exact mem_extendScope_iff.2 (Or.inl (h.summaries name hname))
    · exact mem_extendScope_iff.2 (Or.inr hname)
  count := fun node hnode hcall => mem_extendScope_iff.2 (Or.inl (h.count node hnode hcall))
  rowNumber := fun node hnode hcall =>
    mem_extendScope_iff.2 (Or.inl (h.rowNumber node hnode hcall))

theorem fullScope_summaries (request : Request) :
    request.fullScope.summaries = request.scope.summaries := by
  unfold fullScope
  dsimp only
  split <;> split <;> simp [Scope.addColumn_summaries]

theorem mem_fullScope_of_mem {request : Request} {name : String}
    (h : name ∈ request.scope.columns) : name ∈ request.fullScope.columns := by
  unfold fullScope
  dsimp only
  split <;> split <;> simp [Scope.mem_addColumn_iff, h]

theorem countColumn_mem_fullScope {request : Request} (h : request.mentionsCount = true) :
    countColumn ∈ request.fullScope.columns := by
  unfold fullScope
  dsimp only
  rw [if_pos h]
  split <;> simp [Scope.mem_addColumn_iff]

theorem rowNumberColumn_mem_fullScope {request : Request} (h : request.mentionsRowNumber = true) :
    rowNumberColumn ∈ request.fullScope.columns := by
  unfold fullScope
  dsimp only
  rw [if_pos h]
  simp [Scope.mem_addColumn_iff]

/-- A request whose scope starts out without summaries, and whose fragments tell what they call. -/
structure IsHonest (request : Request) : Prop where
  summaries : request.scope.summaries = []
  tells : forall fragment, fragment ∈ request.fragments -> fragment.Tells

theorem IsHonest.covers {request : Request} (h : request.IsHonest) {fragment : ResolvedFragment}
    (hf : fragment ∈ request.fragments) :
    Covers request.fullScope.columns request.fullScope fragment.node.walk where
  columns := fun _ hname => hname
  summaries := fun name hname => by
    rw [fullScope_summaries, h.summaries] at hname
    cases hname
  count := fun node hnode hcall =>
    countColumn_mem_fullScope (List.any_eq_true.2
      ⟨fragment, hf, (h.tells fragment hf).count (List.any_eq_true.2 ⟨node, hnode, hcall⟩)⟩)
  rowNumber := fun node hnode hcall =>
    rowNumberColumn_mem_fullScope (List.any_eq_true.2
      ⟨fragment, hf, (h.tells fragment hf).rowNumber (List.any_eq_true.2 ⟨node, hnode, hcall⟩)⟩)

end Request

theorem Invocation.request_isHonest (call : Invocation) (data : Dataset) :
    Gives (fun request => request.IsHonest ∧ request.data = data ∧
      request.scope.columns = data.header) (call.request data) := by
  unfold request
  apply Ends.bind_any (gives_any _)
  intro sources
  apply Ends.bind (Interpolation.resolveAll_tells call.env sources)
  intro fragments htells
  exact ⟨⟨rfl, htells⟩, rfl, rfl⟩

/-!
# Assignments one after another
-/

def Seen (names : List String) : List Assign -> Prop
  | [] => True
  | assign :: rest => assign.expr.Within names ∧ Seen (names ++ [assign.name]) rest

theorem Seen.mono {assigns : List Assign} :
    forall {names more : List String}, Seen names assigns ->
      (forall name, name ∈ names -> name ∈ more) -> Seen more assigns := by
  induction assigns with
  | nil =>
      intro names more _ _
      trivial
  | cons assign rest ih =>
      intro names more h hmore
      constructor
      · exact h.1.mono hmore
      · apply ih h.2
        intro name hname
        rcases List.mem_append.1 hname with hname | hname
        · exact List.mem_append_left _ (hmore name hname)
        · exact List.mem_append_right _ hname

theorem seen_append {names : List String} {assigns more : List Assign}
    (h : AllWithin names assigns) (hmore : Seen (names ++ assigns.map Assign.name) more) :
    Seen names (assigns ++ more) := by
  induction assigns generalizing names with
  | nil => simpa using hmore
  | cons assign rest ih =>
      constructor
      · exact h assign (List.mem_cons_self ..)
      · apply ih
        · intro a ha
          exact (h a (List.mem_cons_of_mem _ ha)).mono fun name hname =>
            List.mem_append_left _ hname
        · simpa using hmore

theorem seen_of_allWithin {names : List String} {assigns : List Assign}
    (h : AllWithin names assigns) : Seen names assigns := by
  have happend : Seen names (assigns ++ []) := seen_append h trivial
  rwa [List.append_nil] at happend

namespace Request

theorem inFragment_gives {good : alpha -> Prop} {source : String} {outcome : Outcome alpha}
    (h : Gives good outcome) : Gives good (Outcome.inFragment source outcome) := by
  cases outcome with
  | error failure => trivial
  | ok value => exact h

theorem assigns_seen {mode : Mode} {fragments : List ResolvedFragment} {scope : Scope}
    (h : forall fragment, fragment ∈ fragments ->
      Covers scope.columns scope fragment.node.walk) :
    Gives (Seen scope.columns) (assigns mode scope fragments) := by
  induction fragments generalizing scope with
  | nil => trivial
  | cons fragment rest ih =>
      rw [assigns]
      apply Ends.bind
        (inFragment_gives (assigns_within (h fragment (List.mem_cons_self ..))))
      intro found hfound
      apply Ends.bind (ih fun fragment hf =>
        covers_extendScope (h fragment (List.mem_cons_of_mem _ hf)))
      intro others hothers
      apply seen_append
      · intro a ha
        rcases List.mem_map.1 ha with ⟨b, hb, rfl⟩
        exact hfound b hb
      · apply hothers.mono
        intro name hname
        rw [List.map_map]
        rcases mem_extendScope_iff.1 hname with hname | hname
        · exact List.mem_append_left _ hname
        · exact List.mem_append_right _ hname

theorem condition_gives {scope : Scope} {fragment : ResolvedFragment} {names : List String}
    (h : Covers names scope fragment.node.walk) :
    Gives (fun found => found.expr.Within names) (condition scope fragment) := by
  unfold condition
  apply inFragment_gives
  apply Ends.bind (condition_within h)
  intro e he
  exact he

/-- Keys to sort by: columns in scope, or columns that are computed for them. -/
structure SortsBy (names columns : List String) (found : List Assign × List SortKey) : Prop where
  within : AllWithin names found.1
  reserved : forall a, a ∈ found.1 -> isReserved a.name = true
  keys : forall key, key ∈ found.2 ->
    key.column ∈ columns ∨ key.column ∈ found.1.map Assign.name

theorem sortKeys_gives {names : List String} {fragments : List ResolvedFragment} {scope : Scope}
    (h : forall fragment, fragment ∈ fragments -> Covers names scope fragment.node.walk) :
    Gives (SortsBy names scope.columns) (sortKeys scope fragments) := by
  induction fragments generalizing scope with
  | nil =>
      constructor
      · intro a ha
        cases ha
      · intro a ha
        cases ha
      · intro key hkey
        cases hkey
  | cons fragment rest ih =>
      rw [sortKeys]
      apply Ends.bind (inFragment_gives (orderKey_within (h fragment (List.mem_cons_self ..))))
      rintro ⟨found, key, after⟩ hfirst
      apply Ends.bind (ih fun fragment hf => by
        have hcovers := h fragment (List.mem_cons_of_mem _ hf)
        exact ⟨hfirst.columns ▸ hcovers.columns, hfirst.summaries ▸ hcovers.summaries,
          hcovers.count, hcovers.rowNumber⟩)
      rintro ⟨others, keys⟩ hothers
      have hcolumns : after.columns = scope.columns := hfirst.columns
      rw [hcolumns] at hothers
      constructor
      · intro a ha
        rcases List.mem_append.1 ha with ha | ha
        · rcases List.mem_map.1 ha with ⟨b, hb, rfl⟩
          exact hfirst.within b hb
        · exact hothers.within a ha
      · intro a ha
        rcases List.mem_append.1 ha with ha | ha
        · rcases List.mem_map.1 ha with ⟨b, hb, rfl⟩
          exact hfirst.reserved b hb
        · exact hothers.reserved a ha
      · have hnames : (found.map (Assign.withSource fragment.source)).map Assign.name =
            found.map Assign.name := by
          rw [List.map_map]
          rfl
        intro other hother
        dsimp only at hother ⊢
        rw [List.map_append, hnames, List.mem_append]
        rcases List.mem_cons.1 hother with rfl | hother
        · rcases hfirst.column with hcolumn | hcolumn
          · exact Or.inl hcolumn
          · dsimp only at hcolumn
            rw [hcolumn]
            exact Or.inr (Or.inl (List.mem_singleton.2 rfl))
        · rcases hothers.keys other hother with hcolumn | hcolumn
          · exact Or.inl hcolumn
          · exact Or.inr (Or.inr hcolumn)

end Request
end Wrangle
