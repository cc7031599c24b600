import Wrangle.Proofs.Dataset.Choosing
import Wrangle.Proofs.Verb.Scoping
import Wrangle.Proofs.Verb.Stepwise

/-!
# Fragments that assign

A fragment that assigns to a column computes it whether it is compiled for its column or
for a selection, save that a selection takes a column in scope as it is.  Where no
fragment mentions a column that one before it sets, all of them can be compiled in one
scope.
-/

namespace Wrangle

open Dataset
open Compile (expr)

def ResolvedFragment.CompilesTo (scope : Scope) (fragment : ResolvedFragment) (assign : Assign) :
    Prop :=
  exists value, fragment.node = .assignment assign.name value ∧
    expr scope .transform true value = .ok assign.expr ∧ assign.source = some fragment.source

def itemOf (scope : Scope) (node : Node) (assign : Assign) : SelectionItem :=
  match node with
  | .assignment _ (.identifier column) =>
      if scope.columns.contains column then .picked { name := assign.name, source := column }
      else .computed assign
  | _ => .computed assign

theorem itemOf_name (scope : Scope) (node : Node) (assign : Assign) :
    (itemOf scope node assign).name = assign.name := by
  unfold itemOf
  split
  · split <;> rfl
  · rfl

/-- Fragments that set columns with different names, of which none mentions a column that one
before it sets. -/
structure AssignApart (found : List ResolvedFragment) (entries : List (String × Node)) :
    Prop where
  nodes : found.map ResolvedFragment.node = entries.map fun entry => .assignment entry.1 entry.2
  distinct : (entries.map Prod.fst).Nodup
  sequential : entries.Pairwise fun before after => .identifier before.1 ∉ after.2.walk

/-!
# Single fragments
-/

namespace Compile

variable {scope : Scope} {mode : Mode} {top : Bool} {target : String} {value : Node} {e : Expr}

theorem assigns_assignment_iff {found : List Assign} :
    assigns scope .transform (.assignment target value) = .ok found <->
      exists e, expr scope .transform true value = .ok e ∧
        found = [{ name := target, expr := e, source := none }] := by
  have hagrees : Agrees (assigns scope .transform (.assignment target value)) _ :=
    assignment_agrees target value
  constructor
  · intro h
    rcases map_eq_ok_iff.1 (hagrees.eq_ok h) with ⟨e, he, rfl⟩
    exact ⟨e, he, rfl⟩
  · rintro ⟨e, he, rfl⟩
    exact hagrees.symm.eq_ok (map_eq_ok_iff.2 ⟨e, he, rfl⟩)

theorem expr_identifier {column : String} (h : scope.columns.contains column = true) :
    expr scope .transform top (.identifier column) = .ok (.column column) := by
  rw [expr]
  show scope.name? column = _
  rw [Scope.name?, if_pos h]

theorem aboutFragment_eq_ok_iff {alpha : Type} {node : Node} {source : Option String}
    {outcome : Outcome alpha} {result : alpha} :
    aboutFragment node source outcome = .ok result <-> outcome = .ok result := by
  unfold aboutFragment
  split
  · rfl
  · simp
  · split <;> simp
  · simp

theorem selectionStep_assignment {isFirst : Bool} {items : List SelectionItem}
    {source : Option String} :
    selectionStep scope isFirst items (.assignment target value) source =
      (expr scope .transform true value).map fun e =>
        Output.put items (itemOf scope (.assignment target value)
          { name := target, expr := e, source := source }) := by
  have hcomputed : computed scope items target value source =
      (expr scope .transform true value).map fun e =>
        Output.put items (.computed { name := target, expr := e, source := source }) := by
    rw [computed]
    cases expr scope .transform true value <;> rfl
  cases value with
  | identifier column =>
      rw [selectionStep]
      simp only [itemOf]
      split
      · rename_i hcolumn
        rw [expr_identifier hcolumn]
        rfl
      · exact hcomputed
  | _ => exact hcomputed

theorem notMem_mentions {node : Node} {name : String} (h : expr scope mode top node = .ok e)
    (hname : isReserved name = false) (hunnamed : .identifier name ∉ node.walk) :
    name ∉ e.mentions := by
  have hcount : countColumn ≠ name := by
    rintro rfl
    rw [Request.isReserved_countColumn] at hname
    cases hname
  have hnumber : rowNumberColumn ≠ name := by
    rintro rfl
    rw [Request.isReserved_rowNumberColumn] at hname
    cases hname
  let others := (countColumn :: rowNumberColumn :: (scope.columns ++ scope.summaries)).filter
    fun other => other != name
  have hcovers : forall inner, inner ∈ node.walk -> CoversNode others scope inner := by
    intro inner hinner
    have hother : forall other, inner = .identifier other -> other ≠ name := by
      rintro other rfl rfl
      exact hunnamed hinner
    constructor
    · intro other heq hmem
      simp [others, hmem, hother other heq]
    · intro other heq hmem
      simp [others, hmem, hother other heq]
    · intro _
      simp [others, hcount]
    · intro _
      simp [others, hnumber]
  have hwithin : Gives (Expr.Within others) (expr scope mode top node) :=
    expr_gives (builds_within others scope mode) node hcovers
  rw [h] at hwithin
  intro hmem
  simpa using (List.mem_filter.1 (hwithin name hmem)).2

theorem expr_addColumns {names : List String} {node : Node}
    (h : forall name, name ∈ names -> .identifier name ∉ node.walk) :
    Agrees (expr (scope.addColumns names) mode top node) (expr scope mode top node) := by
  have hsame : forall name, .identifier name ∈ node.walk ->
      (scope.addColumns names).columns.contains name = scope.columns.contains name := by
    intro name hmention
    rw [Bool.eq_iff_iff, List.contains_iff_mem, List.contains_iff_mem, Scope.mem_addColumns_iff]
    exact or_iff_left fun hname => h name hname hmention
  have hcolumns : (scope.addColumns names).columns = names.foldl headerWith scope.columns := by
    rw [Scope.addColumns_eq]
  rw [hcolumns] at hsame
  have hagrees : Agrees (expr scope mode top node)
      (expr (scope.showing (names.foldl headerWith scope.columns) scope.sortKeys) mode top node) :=
    expr_agrees node hsame
  rw [Scope.addColumns_eq]
  exact hagrees.symm

end Compile

/-!
# Several fragments
-/

section Fragments

variable {scope : Scope} {found : List ResolvedFragment} {entries : List (String × Node)}
  {assigns : List Assign}

theorem Request.assigns_iff {names : List String}
    (hnodes : found.map ResolvedFragment.node =
      entries.map fun entry => .assignment entry.1 entry.2)
    (hnames : forall name, name ∈ names -> forall entry, entry ∈ entries ->
      .identifier name ∉ entry.2.walk)
    (hsequential : entries.Pairwise fun before after => .identifier before.1 ∉ after.2.walk) :
    Request.assigns .transform (scope.addColumns names) found = .ok assigns <->
      List.Forall₂ (ResolvedFragment.CompilesTo scope) found assigns := by
  induction entries generalizing names found assigns with
  | nil =>
      rw [List.map_eq_nil_iff.1 hnodes]
      rw [List.forall₂_nil_left_iff]
      exact ⟨fun h => (Except.ok.inj h).symm, fun h => congrArg Except.ok h.symm⟩
  | cons entry rest ih =>
      rcases entry with ⟨target, value⟩
      rcases List.map_eq_cons_iff.1 hnodes with ⟨fragment, others, rfl, hnode, hothers⟩
      rcases List.pairwise_cons.1 hsequential with ⟨hfirst, hrest⟩
      have hagrees : Agrees (expr (scope.addColumns names) .transform true value)
          (expr scope .transform true value) :=
        Compile.expr_addColumns fun name hname => hnames name hname _ List.mem_cons_self
      -- the others see the column of the first fragment, and mention it no more than the rest
      have hmore : forall {found : List Assign},
          Request.assigns .transform (scope.addColumns (names ++ [target])) others = .ok found <->
            List.Forall₂ (ResolvedFragment.CompilesTo scope) others found := by
        intro found
        apply ih hothers _ hrest
        intro name hname other hother
        rcases List.mem_append.1 hname with hname | hname
        · exact hnames name hname other (List.mem_cons_of_mem _ hother)
        · rw [List.mem_singleton.1 hname]
          exact hfirst other hother
      have hextend : scope.addColumns (names ++ [target]) =
          extendScope .transform (scope.addColumns names) [target] := List.foldl_append
      rw [hextend] at hmore
      rw [Request.assigns, bind_eq_ok_iff]
      simp only [inFragment_eq_ok_iff, hnode, Compile.assigns_assignment_iff]
      constructor
      · rintro ⟨_, ⟨e, he, rfl⟩, h⟩
        rcases bind_eq_ok_iff.1 h with ⟨more, hassigns, h⟩
        cases h
        exact .cons ⟨value, hnode, hagrees.eq_ok he, rfl⟩ (hmore.1 hassigns)
      · rintro (_ | ⟨⟨written, hwritten, he, hsource⟩, hassigns⟩)
        rename_i assign more
        rw [hnode] at hwritten
        cases hwritten
        refine ⟨_, ⟨_, hagrees.symm.eq_ok he, rfl⟩, bind_eq_ok_iff.2 ⟨more, hmore.2 hassigns, ?_⟩⟩
        rcases assign with ⟨name, e, source⟩
        cases hsource
        rfl

theorem Compile.selectionFrom_iff {isFirst : Bool} {items all : List SelectionItem}
    (hnodes : found.map ResolvedFragment.node =
      entries.map fun entry => .assignment entry.1 entry.2)
    (hdistinct : (items.map SelectionItem.name ++ entries.map Prod.fst).Nodup) :
    selectionFrom scope isFirst items (found.map fun fragment =>
        (fragment.node, some fragment.source)) = .ok all <->
      exists assigns, List.Forall₂ (ResolvedFragment.CompilesTo scope) found assigns ∧
        all = items ++ List.zipWith (itemOf scope) (found.map ResolvedFragment.node) assigns := by
  induction entries generalizing isFirst items found with
  | nil =>
      rw [List.map_eq_nil_iff.1 hnodes]
      constructor
      · intro h
        cases h
        exact ⟨[], .nil, (List.append_nil _).symm⟩
      · rintro ⟨_, _, rfl⟩
        exact congrArg Except.ok (List.append_nil _).symm
  | cons entry rest ih =>
      rcases entry with ⟨target, value⟩
      rcases List.map_eq_cons_iff.1 hnodes with ⟨fragment, others, rfl, hnode, hothers⟩
      have hnew : target ∉ items.map SelectionItem.name :=
        fun hmem => (List.nodup_append.1 hdistinct).2.2 target hmem target List.mem_cons_self rfl
      have hput : forall item : SelectionItem, item.name = target ->
          Output.put items item = items ++ [item] := by
        intro item hitem
        rw [Output.put, if_neg]
        rwa [hitem, List.contains_iff_mem]
      have hmore : forall {item : SelectionItem}, item.name = target ->
          (selectionFrom scope false (items ++ [item]) (others.map fun fragment =>
              (fragment.node, some fragment.source)) = .ok all <->
            exists assigns, List.Forall₂ (ResolvedFragment.CompilesTo scope) others assigns ∧
              all = items ++ [item] ++
                List.zipWith (itemOf scope) (others.map ResolvedFragment.node) assigns) := by
        intro item hitem
        apply ih hothers
        rw [List.map_append, List.map_singleton, hitem, List.append_assoc]
        exact hdistinct
      rw [List.map_cons, selectionFrom, bind_eq_ok_iff]
      simp only [aboutFragment_eq_ok_iff, hnode, selectionStep_assignment, map_eq_ok_iff]
      constructor
      · rintro ⟨_, ⟨e, he, rfl⟩, h⟩
        rw [hput _ (itemOf_name ..), hmore (itemOf_name ..)] at h
        rcases h with ⟨more, hassigns, rfl⟩
        refine ⟨{ name := target, expr := e, source := some fragment.source } :: more,
          .cons ⟨value, hnode, he, rfl⟩ hassigns, ?_⟩
        rw [List.map_cons, hnode, List.zipWith_cons_cons, List.append_assoc]
        rfl
      · rintro ⟨_, _ | ⟨⟨written, hwritten, he, hsource⟩, hassigns⟩, rfl⟩
        rename_i assign more
        rw [hnode] at hwritten
        cases hwritten
        rcases assign with ⟨_, e, source⟩
        cases hsource
        refine ⟨_, ⟨e, he, rfl⟩, ?_⟩
        rw [hput _ (itemOf_name ..), hmore (itemOf_name ..)]
        refine ⟨more, hassigns, ?_⟩
        rw [List.map_cons, hnode, List.zipWith_cons_cons, List.append_assoc]
        rfl

namespace AssignApart

theorem assigns_iff (h : AssignApart found entries) :
    Request.assigns .transform scope found = .ok assigns <->
      List.Forall₂ (ResolvedFragment.CompilesTo scope) found assigns := by
  have hnames : forall name, name ∈ [] -> forall entry, entry ∈ entries ->
      Node.identifier name ∉ entry.2.walk := fun _ hname => absurd hname List.not_mem_nil
  exact Request.assigns_iff h.nodes hnames h.sequential

theorem selection_iff {items : List SelectionItem} (h : AssignApart found entries) :
    Compile.selection scope (found.map fun fragment => (fragment.node, some fragment.source)) =
        .ok items <->
      exists assigns, Request.assigns .transform scope found = .ok assigns ∧
        items = List.zipWith (itemOf scope) (found.map ResolvedFragment.node) assigns := by
  simp only [h.assigns_iff]
  exact Compile.selectionFrom_iff h.nodes h.distinct

theorem forall₂_entries (h : AssignApart found entries)
    (hassigns : List.Forall₂ (ResolvedFragment.CompilesTo scope) found assigns) :
    List.Forall₂ (fun entry assign => entry.1 = assign.name ∧
      expr scope .transform true entry.2 = .ok assign.expr) entries assigns := by
  have hnodes : List.Forall₂ (fun node (assign : Assign) => exists value,
      node = .assignment assign.name value ∧ expr scope .transform true value = .ok assign.expr)
      (found.map ResolvedFragment.node) assigns := by
    rw [List.forall₂_map_left_iff]
    apply hassigns.imp
    rintro fragment assign ⟨value, hnode, he, _⟩
    exact ⟨value, hnode, he⟩
  rw [h.nodes, List.forall₂_map_left_iff] at hnodes
  apply hnodes.imp
  rintro ⟨target, written⟩ assign ⟨value, hnode, he⟩
  cases hnode
  exact ⟨rfl, he⟩

theorem names_eq (h : AssignApart found entries)
    (hassigns : List.Forall₂ (ResolvedFragment.CompilesTo scope) found assigns) :
    assigns.map Assign.name = entries.map Prod.fst :=
  (map_eq_map_of_forall₂ ((h.forall₂_entries hassigns).imp fun _ _ hpair => hpair.1)).symm

theorem areSequential (h : AssignApart found entries)
    (hunreserved : forall entry, entry ∈ entries -> isReserved entry.1 = false)
    (hassigns : List.Forall₂ (ResolvedFragment.CompilesTo scope) found assigns) :
    AreSequential assigns := by
  have hpairs := h.forall₂_entries hassigns
  have hsequential := h.sequential
  clear h hassigns
  induction hpairs with
  | nil => exact .nil
  | @cons entry assign others more hfirst hrest ih =>
      rcases List.pairwise_cons.1 hsequential with ⟨hunnamed, hothers⟩
      rcases List.forall_mem_cons.1 hunreserved with ⟨hreserved, hunreserved⟩
      apply List.Pairwise.cons _ (ih hunreserved hothers)
      intro after hafter
      rcases exists_of_forall₂ hrest.flip hafter with ⟨other, hother, _, he⟩
      rw [← hfirst.1]
      exact Compile.notMem_mentions he hreserved (hunnamed other hother)

theorem stand {data : Dataset} (h : AssignApart found entries)
    (hscope : forall name, name ∈ scope.columns -> name ∈ data.header)
    (hassigns : List.Forall₂ (ResolvedFragment.CompilesTo scope) found assigns) :
    List.Forall₂ data.StandsFor
      (List.zipWith (itemOf scope) (found.map ResolvedFragment.node) assigns) assigns := by
  have hpairs := h.forall₂_entries hassigns
  rw [h.nodes]
  clear h hassigns
  induction hpairs with
  | nil => exact .nil
  | @cons entry assign others more hfirst hrest ih =>
      refine .cons ?_ ih
      rcases entry with ⟨target, value⟩
      rcases hfirst with ⟨_, he⟩
      dsimp only at he ⊢
      unfold itemOf
      split
      · rename_i column hnode
        cases hnode
        split
        · rename_i hcolumn
          rw [Compile.expr_identifier hcolumn] at he
          exact .inr ⟨column, hscope column (List.contains_iff_mem.1 hcolumn),
            (Except.ok.inj he).symm, rfl⟩
        · exact .inl rfl
      · exact .inl rfl

end AssignApart

end Fragments

end Wrangle
