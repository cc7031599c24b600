import Wrangle.Proofs.Compile.Building

/-!
# Compiled fragments stay in scope

Assignments and conditions mention only columns in scope, selections pick only
such columns, and a sorting key is one of them or a column computed for it.
-/

namespace Wrangle
namespace Compile

open Wrangle.Expr

variable {names : List String} {scope : Scope}

/-!
# Several columns at once
-/

theorem covers_pair (hcolumns : forall name, name ∈ scope.columns -> name ∈ names)
    (hsummaries : forall name, name ∈ scope.summaries -> name ∈ names) (head column : String) :
    Covers names scope (Node.apply head [.identifier column]).walk := by
  have hbare : forall (name : String) (node : Node),
      node ∈ (Node.apply head [.identifier column]).walk -> node.isBareCall name = false := by
    intro name node hnode
    simp [Node.apply, Node.walk, Node.walkAll, Node.walkNamed] at hnode
    rcases hnode with rfl | rfl <;> rfl
  constructor
  · exact hcolumns
  · exact hsummaries
  · intro node hnode hcall
    rw [hbare countFunction node hnode] at hcall
    cases hcall
  · intro node hnode hcall
    rw [hbare rowNumberFunction node hnode] at hcall
    cases hcall

def AllWithin (names : List String) (assigns : List Assign) : Prop :=
  forall a, a ∈ assigns -> a.expr.Within names

theorem allWithin_single {a : Assign} (h : a.expr.Within names) : AllWithin names [a] := by
  intro b hb
  rw [List.mem_singleton.1 hb]
  exact h

theorem across_within {mode : Mode} {args : List Node} {kwargs : List (String × Node)}
    (hcolumns : forall name, name ∈ scope.columns -> name ∈ names)
    (hsummaries : forall name, name ∈ scope.summaries -> name ∈ names) :
    Gives (AllWithin names) (across scope mode args kwargs) := by
  unfold across
  split
  · apply Ends.bind_any (gives_any _)
    intro columns
    apply Ends.bind_any (gives_any _)
    intro functions
    apply Ends.mapM
    intro pair _
    apply Ends.bind (expr_within _ (covers_pair hcolumns hsummaries pair.2 pair.1))
    intro e he
    exact he
  · trivial

/-!
# Computed columns and conditions
-/

theorem assigns_within {mode : Mode} {node : Node} (h : Covers names scope node.walk) :
    Gives (AllWithin names) (assigns scope mode node) := by
  unfold assigns
  split
  · rename_i target value
    split
    · trivial
    · apply Ends.bind (expr_within value (h.sub fun node hn => by
        rw [Node.walk]
        exact List.mem_cons_of_mem _ hn))
      intro e he
      exact allWithin_single he
  · exact across_within h.columns h.summaries
  · apply Ends.bind_any (gives_any _)
    intro name
    apply Ends.bind (expr_within node h)
    intro e he
    exact allWithin_single he

theorem notCondition_gives {good : alpha -> Prop} (node : Node) (before after : String)
    (hint : Option String) : Gives good (notCondition node before after hint : Outcome alpha) := by
  unfold notCondition
  apply Ends.bind_any (gives_any _)
  intro text
  trivial

theorem condition_within {node : Node} (h : Covers names scope node.walk) :
    Gives (Within names) (condition scope node) := by
  unfold condition
  split
  · apply Ends.bind_any (gives_any _)
    intro text
    exact notCondition_gives _ _ _ _
  · split
    · intro name hname
      simp [mentions] at hname
    · exact notCondition_gives _ _ _ _
  · exact notCondition_gives _ _ _ _
  · exact notCondition_gives _ _ _ _
  · exact notCondition_gives _ _ _ _
  · split
    · exact notCondition_gives _ _ _ _
    · exact expr_within _ h
  · exact expr_within _ h

/-!
# Selections
-/

def ColumnSets.InScope (scope : Scope) (sets : ColumnSets) : Prop :=
  (forall name, name ∈ sets.included -> name ∈ scope.columns) ∧
    (forall name, name ∈ sets.excluded -> name ∈ scope.columns)

theorem ColumnSets.inScope_only {columns : List String}
    (h : forall name, name ∈ columns -> name ∈ scope.columns) :
    (ColumnSets.only columns).InScope scope := by
  constructor
  · exact h
  · intro name hname
    cases hname

theorem ColumnSets.inScope_empty : ColumnSets.empty.InScope scope :=
  inScope_only fun name hname => by cases hname

theorem ColumnSets.mem_addNew_iff {columns more : List String} {name : String} :
    name ∈ addNew columns more <-> name ∈ columns ∨ name ∈ more := by
  unfold addNew
  simp only [List.mem_append, List.mem_filter]
  constructor
  · rintro (h | h)
    · exact Or.inl h
    · exact Or.inr h.1
  · intro h
    by_cases hname : name ∈ columns
    · exact Or.inl hname
    · exact Or.inr ⟨h.resolve_left hname, by simpa using hname⟩

theorem ColumnSets.InScope.union {sets more : ColumnSets} (h : sets.InScope scope)
    (hmore : more.InScope scope) : (sets.union more).InScope scope := by
  constructor
  · intro name hname
    rcases mem_addNew_iff.1 hname with hname | hname
    · exact h.1 name hname
    · exact hmore.1 name hname
  · intro name hname
    rcases mem_addNew_iff.1 hname with hname | hname
    · exact h.2 name hname
    · exact hmore.2 name hname

theorem noColumnAt_ends {bad : Failure -> Prop} {good : alpha -> Prop} {n : Int} {range : String}
    (huser : forall e : UserError, e.fragment = none -> bad (.user e))
    (hfault : bad (.fault Fault.tooManyDigits)) : Ends bad good (noColumnAt n range) := by
  unfold noColumnAt Value.render?
  split
  · exact huser _ rfl
  · exact hfault

theorem noColumnAt_ne_ok {n : Int} {range : String} {value : alpha} :
    noColumnAt n range ≠ .ok value := by
  intro h
  have hends : Ends (fun _ => True) (fun _ : alpha => False) (noColumnAt n range) :=
    noColumnAt_ends (fun _ _ => trivial) trivial
  rw [h] at hends
  exact hends

theorem columnAtPosition_inScope (n : Int) :
    Gives (fun name => name ∈ scope.columns) (columnAtPosition scope n) := by
  unfold columnAtPosition
  dsimp only
  split
  · rename_i name hfound
    split at hfound
    · exact List.mem_of_getElem? hfound
    · cases hfound
  · exact noColumnAt_ends (fun _ _ => trivial) trivial

theorem columnOf_inScope (node : Node) :
    Gives (fun name => name ∈ scope.columns) (columnOf scope node) := by
  have hknown : forall name, Gives (fun name => name ∈ scope.columns) (knownColumn scope name) := by
    intro name
    unfold knownColumn
    split
    · rename_i hname
      simpa [Ends] using hname
    · trivial
  unfold columnOf
  split
  · exact hknown _
  · exact hknown _
  · exact columnAtPosition_inScope _
  · exact unusable_gives _ _ _ _

theorem mem_columnsBetween {columns : List String} {first last name : String}
    (h : name ∈ columnsBetween columns first last) : name ∈ columns := by
  unfold columnsBetween at h
  dsimp only at h
  split at h
  · exact List.mem_of_mem_drop (List.mem_of_mem_take h)
  · exact List.mem_of_mem_drop (List.mem_of_mem_take (List.mem_reverse.1 h))

theorem filterColumns_sub (test : NameTest) (columns : List String) :
    Ends (fun _ => True) (fun found => forall name, name ∈ found -> name ∈ columns)
      (filterColumns test columns) := by
  induction columns with
  | nil =>
      intro name hname
      cases hname
  | cons _ rest ih =>
      rw [filterColumns]
      apply Ends.bind_any
      · cases test.holds _ <;> trivial
      · intro passes
        apply Ends.bind ih
        intro others hothers name hname
        split at hname
        · rcases List.mem_cons.1 hname with rfl | hname
          · exact List.mem_cons_self ..
          · exact List.mem_cons_of_mem _ (hothers name hname)
        · exact List.mem_cons_of_mem _ (hothers name hname)

theorem mem_visibleColumns {name : String} (h : name ∈ scope.visibleColumns) :
    name ∈ scope.columns :=
  (List.mem_filter.1 h).1

theorem helperColumns_inScope (helper : SelectionHelper) (head : String) (args : List Node) :
    Gives (fun found => forall name, name ∈ found -> name ∈ scope.columns)
      (helperColumns scope helper head args) := by
  unfold helperColumns
  apply Ends.bind_any (gives_any _)
  intro values
  apply Ends.bind_any (gives_any _)
  intro test
  have hfilter := filterColumns_sub test scope.visibleColumns
  cases hf : filterColumns test scope.visibleColumns with
  | error f => trivial
  | ok found =>
      rw [hf] at hfilter
      exact fun name hname => mem_visibleColumns (hfilter name hname)

theorem singleColumn_inScope (node : Node) :
    Gives (ColumnSets.InScope scope)
      ((columnOf scope node).map fun name => ColumnSets.only [name]) :=
  Ends.map (columnOf_inScope node) fun _ hname =>
    ColumnSets.inScope_only fun _ hother => List.mem_singleton.1 hother ▸ hname

theorem noSelection_gives {good : ColumnSets -> Prop} (node : Node) :
    Gives good (noSelection node) :=
  unusable_gives _ _ _ _

mutual

theorem columnSets_inScope :
    forall node : Node, Gives (ColumnSets.InScope scope) (columnSets scope node)
  | .identifier name => singleColumn_inScope (.identifier name)
  | .vector items => by
      rw [columnSets]
      exact columnSetsOf_inScope items ColumnSets.inScope_empty
  | .tuple items => by
      rw [columnSets]
      exact columnSetsOf_inScope items ColumnSets.inScope_empty
  | .range start stop => by
      rw [columnSets]
      apply Ends.bind (columnOf_inScope start)
      intro first _
      apply Ends.bind (columnOf_inScope stop)
      intro last _
      exact ColumnSets.inScope_only fun name hname => mem_columnsBetween hname
  | .literal value => by
      cases value with
      | int n =>
          rw [columnSets]
          split
          · exact Ends.map (columnAtPosition_inScope _) fun _ hname =>
              (ColumnSets.inScope_only fun _ hother => List.mem_singleton.1 hother ▸ hname).symm
          · exact Ends.map (columnAtPosition_inScope _) fun _ hname =>
              ColumnSets.inScope_only fun _ hother => List.mem_singleton.1 hother ▸ hname
      | _ => exact singleColumn_inScope _
  | .call head [operand] kwargs true => by
      rw [columnSets]
      split
      · exact Ends.map (columnSets_inScope operand) fun _ h => h.symm
      · exact noSelection_gives _
  | .call head args kwargs false => by
      rw [columnSets]
      split
      · exact Ends.map (helperColumns_inScope _ head args) fun _ h => ColumnSets.inScope_only h
      · split
        · exact columnSetsOf_inScope args ColumnSets.inScope_empty
        · exact noSelection_gives _
  | .call _ [] _ true => noSelection_gives _
  | .call _ (_ :: _ :: _) _ true => noSelection_gives _
  | .pair _ _ => noSelection_gives _
  | .assignment _ _ => noSelection_gives _
  | .interpolate _ => noSelection_gives _
  | .splice _ => noSelection_gives _
  | .foreign _ => noSelection_gives _

theorem columnSetsOf_inScope :
    forall (nodes : List Node) {sets : ColumnSets}, sets.InScope scope ->
      Gives (ColumnSets.InScope scope) (columnSetsOf scope sets nodes)
  | [], _, h => h
  | node :: rest, sets, h => by
      rw [columnSetsOf]
      apply Ends.bind (columnSets_inScope node)
      intro more hmore
      exact columnSetsOf_inScope rest (h.union hmore)

end

theorem selectNames_inScope (node : Node) :
    Gives (fun names => forall name, name ∈ names -> name ∈ scope.columns)
      (selectNames scope node) := by
  unfold selectNames
  apply Ends.bind (columnSets_inScope node)
  intro sets hsets name hname
  have hincluded := (List.mem_filter.1 hname).1
  split at hincluded
  · exact mem_visibleColumns hincluded
  · exact hsets.1 name hincluded

/-!
# Output columns
-/

def ItemWithin (names : List String) : SelectionItem -> Prop
  | .computed assign => assign.expr.Within names
  | .picked pick => pick.source ∈ names

def ItemsWithin (names : List String) (items : List SelectionItem) : Prop :=
  forall item, item ∈ items -> ItemWithin names item

namespace Output

variable {good : SelectionItem -> Prop}

theorem put_all {items : List SelectionItem} {item : SelectionItem}
    (h : forall other, other ∈ items -> good other) (hitem : good item) :
    forall other, other ∈ put items item -> good other := by
  intro other hother
  unfold put at hother
  split at hother
  · rcases List.mem_map.1 hother with ⟨old, hold, heq⟩
    split at heq
    · rw [← heq]
      exact hitem
    · rw [← heq]
      exact h old hold
  · rcases List.mem_append.1 hother with hother | hother
    · exact h other hother
    · rw [List.mem_singleton.1 hother]
      exact hitem

theorem keepNew_all {items : List SelectionItem} {column : String}
    (h : forall other, other ∈ items -> good other) (hcolumn : good (.keep column)) :
    forall other, other ∈ keepNew items column -> good other := by
  unfold keepNew
  split
  · exact h
  · intro other hother
    rcases List.mem_append.1 hother with hother | hother
    · exact h other hother
    · rw [List.mem_singleton.1 hother]
      exact hcolumn

theorem foldl_all {step : List SelectionItem -> alpha -> List SelectionItem} {steps : List alpha}
    (hstep : forall items x, x ∈ steps -> (forall item, item ∈ items -> good item) ->
      forall item, item ∈ step items x -> good item) :
    forall {items : List SelectionItem}, (forall item, item ∈ items -> good item) ->
      forall item, item ∈ steps.foldl step items -> good item := by
  induction steps with
  | nil =>
      intro items h
      exact h
  | cons x rest ih =>
      intro items h
      exact ih (fun items y hy => hstep items y (List.mem_cons_of_mem _ hy))
        (hstep items x (List.mem_cons_self ..) h)

theorem apply_all {isFirst : Bool} {items : List SelectionItem} {sets : ColumnSets}
    (hcolumns : forall name, name ∈ scope.columns -> good (.keep name))
    (h : forall item, item ∈ items -> good item) (hsets : sets.InScope scope) :
    forall item, item ∈ apply scope isFirst items sets -> good item := by
  unfold apply
  apply foldl_all
  · intro items column _ h item hitem
    exact h item (List.mem_filter.1 hitem).1
  · apply foldl_all
    · intro items column hcolumn h
      exact keepNew_all h (hcolumns _ (hsets.1 column hcolumn))
    · split
      · apply foldl_all _ h
        intro items column hcolumn h
        exact put_all h (hcolumns _ (mem_visibleColumns hcolumn))
      · exact h

end Output

theorem computed_within {items : List SelectionItem} {target : String} {value : Node}
    {source : Option String} (h : Covers names scope value.walk)
    (hitems : ItemsWithin names items) :
    Gives (ItemsWithin names) (computed scope items target value source) := by
  unfold computed
  apply Ends.bind (expr_within value h)
  intro e he
  exact Output.put_all hitems he

theorem computedFragment_within {items : List SelectionItem} {node : Node}
    {source : Option String} (h : Covers names scope node.walk)
    (hitems : ItemsWithin names items) :
    Gives (ItemsWithin names) (computedFragment scope items node source) := by
  unfold computedFragment
  split
  · apply Ends.bind (across_within h.columns h.summaries)
    intro found hfound
    apply Output.foldl_all _ hitems
    intro items assign hassign hitems
    exact Output.put_all hitems (hfound assign hassign)
  · apply Ends.bind_any (gives_any _)
    intro target
    exact computed_within h hitems

theorem selectionStep_within {isFirst : Bool} {items : List SelectionItem} {node : Node}
    {source : Option String} (h : Covers names scope node.walk)
    (hitems : ItemsWithin names items) :
    Gives (ItemsWithin names) (selectionStep scope isFirst items node source) := by
  have hvalue : forall {target : String} {value : Node},
      Covers names scope (Node.assignment target value).walk -> Covers names scope value.walk := by
    intro target value h
    exact h.sub fun node hn => by
      rw [Node.walk]
      exact List.mem_cons_of_mem _ hn
  unfold selectionStep
  split
  · split
    · rename_i column hcolumn
      exact Output.put_all hitems (h.columns _ (by simpa using hcolumn))
    · exact computed_within (hvalue h) hitems
  · exact computed_within (hvalue h) hitems
  · have hsets : Gives (ColumnSets.InScope scope) (columnSets scope node) :=
      columnSets_inScope node
    split
    · rename_i sets hok
      rw [hok] at hsets
      exact Output.apply_all h.columns hitems hsets
    · split
      · exact computedFragment_within h hitems
      · trivial

theorem aboutFragment_gives {good : alpha -> Prop} {outcome : Outcome alpha} {node : Node}
    {source : Option String} (h : Gives good outcome) :
    Gives good (aboutFragment node source outcome) := by
  unfold aboutFragment
  split
  · exact h
  · trivial
  · split <;> trivial
  · trivial

theorem selectionFrom_within {fragments : List (Node × Option String)} {isFirst : Bool}
    {items : List SelectionItem}
    (h : forall fragment, fragment ∈ fragments -> Covers names scope fragment.1.walk)
    (hitems : ItemsWithin names items) :
    Gives (ItemsWithin names) (selectionFrom scope isFirst items fragments) := by
  induction fragments generalizing isFirst items with
  | nil => exact hitems
  | cons fragment rest ih =>
      rw [selectionFrom]
      apply Ends.bind
        (aboutFragment_gives (selectionStep_within (h _ (List.mem_cons_self ..)) hitems))
      intro next hnext
      exact ih (fun fragment hf => h fragment (List.mem_cons_of_mem _ hf)) hnext

theorem selection_within {fragments : List (Node × Option String)}
    (h : forall fragment, fragment ∈ fragments -> Covers names scope fragment.1.walk) :
    Gives (ItemsWithin names) (selection scope fragments) :=
  selectionFrom_within h fun item hitem => by cases hitem

/-!
# Sorting keys
-/

theorem stripReversals_walk (reverse : Bool) (node : Node) :
    Gives (fun found => forall inner, inner ∈ found.2.walk -> inner ∈ node.walk)
      (stripReversals reverse node) := by
  fun_induction stripReversals reverse node with
  | case1 reverse key ih =>
      apply ih.weaken
      intro found hfound inner hinner
      simp [Node.walk, Node.walkAll, Node.walkNamed, hfound inner hinner]
  | case2 reverse args kwargs _ => trivial
  | case3 reverse node _ _ => exact fun _ h => h

theorem isReserved_append (name : String) : isReserved (reservedStart ++ name) = true := by
  unfold isReserved
  rw [List.isPrefixOf_iff_prefix, String.toList_append]
  exact List.prefix_append _ _

/-- A sorting key is a column in scope, or it is computed from such columns into a reserved
column; the scope changes in its count of keys only. -/
structure OrderKey (names : List String) (scope : Scope)
    (found : List Assign × SortKey × Scope) : Prop where
  within : AllWithin names found.1
  column : found.2.1.column ∈ scope.columns ∨ found.1.map Assign.name = [found.2.1.column]
  reserved : forall a, a ∈ found.1 -> isReserved a.name = true
  columns : found.2.2.columns = scope.columns
  summaries : found.2.2.summaries = scope.summaries

theorem mem_of_columnKey? {key : Node} {column : String}
    (h : columnKey? scope key = some column) : column ∈ scope.columns := by
  unfold columnKey? at h
  split at h
  · split at h
    · rename_i hname
      rw [← Option.some.inj h]
      simpa using hname
    · cases h
  · split at h
    · rename_i hname
      rw [← Option.some.inj h]
      simpa using hname
    · cases h
  · cases h

theorem orderKey_within {node : Node} (h : Covers names scope node.walk) :
    Gives (OrderKey names scope) (orderKey scope node) := by
  unfold orderKey
  apply Ends.bind (stripReversals_walk false node)
  rintro ⟨reverse, key⟩ hkey
  dsimp only at hkey ⊢
  split
  · rename_i column hcolumn
    constructor
    · intro a ha
      cases ha
    · exact Or.inl (mem_of_columnKey? hcolumn)
    · intro a ha
      cases ha
    · rfl
    · rfl
  · apply Ends.bind (expr_within key (h.sub hkey))
    intro e he
    constructor
    · exact allWithin_single he
    · exact Or.inr rfl
    · intro a ha
      rw [List.mem_singleton.1 ha, String.append_assoc]
      exact isReserved_append _
    · rfl
    · rfl

end Compile
end Wrangle
