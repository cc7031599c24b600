import Mathlib.Data.List.Nodup
import Wrangle.Compile.Keys
import Wrangle.Proofs.Compile.Scoping

/-!
# Compiled names are distinct

Where no column is in scope twice, a selection includes and excludes no column
twice, and its output columns have distinct names whatever is put in, replaced and
left out on the way.
-/

namespace Wrangle
namespace Compile

variable {scope : Scope}

/-!
# Sets of columns
-/

/-- Sets of columns in which no column occurs twice. -/
structure ColumnSets.AreDistinct (sets : ColumnSets) : Prop where
  included : sets.included.Nodup
  excluded : sets.excluded.Nodup

namespace ColumnSets

theorem addNew_nodup {columns more : List String} (h : columns.Nodup) (hmore : more.Nodup) :
    (addNew columns more).Nodup := by
  unfold addNew
  rw [List.nodup_append]
  refine ⟨h, hmore.filter _, ?_⟩
  rintro name hname other hother rfl
  have hnew := (List.mem_filter.1 hother).2
  simp [hname] at hnew

theorem areDistinct_empty : ColumnSets.empty.AreDistinct :=
  ⟨List.nodup_nil, List.nodup_nil⟩

theorem areDistinct_only {columns : List String} (h : columns.Nodup) :
    (ColumnSets.only columns).AreDistinct :=
  ⟨h, List.nodup_nil⟩

theorem AreDistinct.swap {sets : ColumnSets} (h : sets.AreDistinct) : sets.swap.AreDistinct :=
  ⟨h.excluded, h.included⟩

theorem AreDistinct.union {sets more : ColumnSets} (h : sets.AreDistinct)
    (hmore : more.AreDistinct) : (sets.union more).AreDistinct :=
  ⟨addNew_nodup h.included hmore.included, addNew_nodup h.excluded hmore.excluded⟩

end ColumnSets

theorem columnsBetween_nodup {columns : List String} (h : columns.Nodup) (first last : String) :
    (columnsBetween columns first last).Nodup := by
  have hpart : forall n m, ((columns.drop n).take m).Nodup := fun n m =>
    h.sublist ((List.take_sublist _ _).trans (List.drop_sublist _ _))
  unfold columnsBetween
  dsimp only
  split
  · exact hpart _ _
  · exact List.nodup_reverse.2 (hpart _ _)

theorem filterColumns_sublist (test : NameTest) (columns : List String) :
    Ends (fun _ => True) (fun found => found.Sublist columns) (filterColumns test columns) := by
  induction columns with
  | nil => exact List.Sublist.refl _
  | cons name rest ih =>
      rw [filterColumns]
      apply Ends.bind_any
      · cases test.holds name <;> trivial
      · intro passes
        apply Ends.bind ih
        intro others hothers
        cases passes with
        | true => exact hothers.cons_cons name
        | false => exact hothers.cons name

theorem visibleColumns_nodup (h : scope.columns.Nodup) : scope.visibleColumns.Nodup :=
  h.filter _

theorem helperColumns_nodup (h : scope.columns.Nodup) (helper : SelectionHelper) (head : String)
    (args : List Node) : Gives List.Nodup (helperColumns scope helper head args) := by
  unfold helperColumns
  apply Ends.bind_any (gives_any _)
  intro values
  apply Ends.bind_any (gives_any _)
  intro test
  have hfilter := filterColumns_sublist test scope.visibleColumns
  cases hf : filterColumns test scope.visibleColumns with
  | error f => trivial
  | ok found =>
      rw [hf] at hfilter
      exact (visibleColumns_nodup h).sublist hfilter

theorem singleColumn_distinct (found : Outcome String) :
    Gives ColumnSets.AreDistinct (found.map fun name => ColumnSets.only [name]) :=
  Ends.map (gives_any found) fun name _ => ColumnSets.areDistinct_only (List.nodup_singleton name)

mutual

theorem columnSets_distinct (h : scope.columns.Nodup) :
    forall node : Node, Gives ColumnSets.AreDistinct (columnSets scope node)
  | .identifier name => singleColumn_distinct _
  | .vector items => by
      rw [columnSets]
      exact columnSetsOf_distinct h items ColumnSets.areDistinct_empty
  | .tuple items => by
      rw [columnSets]
      exact columnSetsOf_distinct h items ColumnSets.areDistinct_empty
  | .range start stop => by
      rw [columnSets]
      apply Ends.bind_any (gives_any _)
      intro first
      apply Ends.bind_any (gives_any _)
      intro last
      exact ColumnSets.areDistinct_only (columnsBetween_nodup h first last)
  | .literal value => by
      cases value with
      | int n =>
          rw [columnSets]
          split
          · exact Ends.map (gives_any _) fun name _ =>
              (ColumnSets.areDistinct_only (List.nodup_singleton name)).swap
          · exact singleColumn_distinct _
      | _ => exact singleColumn_distinct _
  | .call head [operand] kwargs true => by
      rw [columnSets]
      split
      · exact Ends.map (columnSets_distinct h operand) fun _ hsets => hsets.swap
      · exact noSelection_gives _
  | .call head args kwargs false => by
      rw [columnSets]
      split
      · exact Ends.map (helperColumns_nodup h _ head args) fun _ hfound =>
          ColumnSets.areDistinct_only hfound
      · split
        · exact columnSetsOf_distinct h args ColumnSets.areDistinct_empty
        · exact noSelection_gives _
  | .call _ [] _ true => noSelection_gives _
  | .call _ (_ :: _ :: _) _ true => noSelection_gives _
  | .pair _ _ => noSelection_gives _
  | .assignment _ _ => noSelection_gives _
  | .interpolate _ => noSelection_gives _
  | .splice _ => noSelection_gives _
  | .foreign _ => noSelection_gives _

theorem columnSetsOf_distinct (h : scope.columns.Nodup) :
    forall (nodes : List Node) {sets : ColumnSets}, sets.AreDistinct ->
      Gives ColumnSets.AreDistinct (columnSetsOf scope sets nodes)
  | [], _, hsets => hsets
  | node :: rest, sets, hsets => by
      rw [columnSetsOf]
      apply Ends.bind (columnSets_distinct h node)
      intro more hmore
      exact columnSetsOf_distinct h rest (hsets.union hmore)

end

theorem selectNames_nodup (h : scope.columns.Nodup) (node : Node) :
    Gives List.Nodup (selectNames scope node) := by
  unfold selectNames
  apply Ends.bind (columnSets_distinct h node)
  intro sets hsets
  dsimp only
  split
  · exact (visibleColumns_nodup h).filter _
  · exact hsets.included.filter _

/-!
# Output columns
-/

def AreNamedApart (items : List SelectionItem) : Prop :=
  (Output.names items).Nodup

namespace Output

theorem append_apart {items : List SelectionItem} (h : AreNamedApart items) {item : SelectionItem}
    (hnew : (names items).contains item.name = false) : AreNamedApart (items ++ [item]) := by
  unfold AreNamedApart names
  rw [List.map_append, List.nodup_append]
  refine ⟨h, List.nodup_singleton _, ?_⟩
  rintro name hname other hother rfl
  rw [List.mem_singleton.1 hother] at hname
  have hold : (names items).contains item.name = true := List.contains_iff_mem.2 hname
  rw [hnew] at hold
  cases hold

theorem put_apart {items : List SelectionItem} (h : AreNamedApart items) (item : SelectionItem) :
    AreNamedApart (put items item) := by
  unfold put
  split
  · have hnames : names (items.map fun other => if other.name == item.name then item else other) =
        names items := by
      unfold names
      rw [List.map_map]
      apply List.map_congr_left
      intro other _
      rw [Function.comp_apply]
      split
      · rename_i heq
        exact (beq_iff_eq.1 heq).symm
      · rfl
    unfold AreNamedApart
    rw [hnames]
    exact h
  · rename_i hnew
    exact append_apart h (Bool.eq_false_iff.2 hnew)

theorem keepNew_apart {items : List SelectionItem} (h : AreNamedApart items) (column : String) :
    AreNamedApart (keepNew items column) := by
  unfold keepNew
  split
  · exact h
  · rename_i hnew
    have hfresh : (names items).contains (SelectionItem.keep column).name = false :=
      Bool.eq_false_iff.2 hnew
    exact append_apart h hfresh

theorem drop_apart {items : List SelectionItem} (h : AreNamedApart items) (column : String) :
    AreNamedApart (drop items column) :=
  h.sublist (List.filter_sublist.map _)

theorem foldl_apart {alpha : Type} {step : List SelectionItem -> alpha -> List SelectionItem}
    (hstep : forall items, AreNamedApart items -> forall a, AreNamedApart (step items a))
    (steps : List alpha) {items : List SelectionItem} (h : AreNamedApart items) :
    AreNamedApart (steps.foldl step items) := by
  induction steps generalizing items with
  | nil => exact h
  | cons a rest ih => exact ih (hstep items h a)

theorem apply_apart (isFirst : Bool) {items : List SelectionItem} (h : AreNamedApart items)
    (sets : ColumnSets) : AreNamedApart (apply scope isFirst items sets) := by
  unfold apply
  dsimp only
  apply foldl_apart fun _ hitems column => drop_apart hitems column
  apply foldl_apart fun _ hitems column => keepNew_apart hitems column
  split
  · exact foldl_apart (fun _ hitems column => put_apart hitems (.keep column)) _ h
  · exact h

end Output

theorem computed_apart {items : List SelectionItem} (h : AreNamedApart items) (target : String)
    (value : Node) (source : Option String) :
    Gives AreNamedApart (computed scope items target value source) := by
  unfold computed
  apply Ends.bind_any (gives_any _)
  intro e
  exact Output.put_apart h _

theorem computedFragment_apart {items : List SelectionItem} (h : AreNamedApart items) (node : Node)
    (source : Option String) : Gives AreNamedApart (computedFragment scope items node source) := by
  unfold computedFragment
  split
  · apply Ends.bind_any (gives_any _)
    intro found
    exact Output.foldl_apart (fun _ hitems _ => Output.put_apart hitems _) found h
  · apply Ends.bind_any (gives_any _)
    intro target
    exact computed_apart h target node source

theorem selectionStep_apart (isFirst : Bool) {items : List SelectionItem} (h : AreNamedApart items)
    (node : Node) (source : Option String) :
    Gives AreNamedApart (selectionStep scope isFirst items node source) := by
  unfold selectionStep
  split
  · split
    · exact Output.put_apart h _
    · exact computed_apart h _ _ source
  · exact computed_apart h _ _ source
  · split
    · exact Output.apply_apart isFirst h _
    · split
      · exact computedFragment_apart h node source
      · trivial

theorem selectionFrom_apart (fragments : List (Node × Option String)) (isFirst : Bool)
    {items : List SelectionItem} (h : AreNamedApart items) :
    Gives AreNamedApart (selectionFrom scope isFirst items fragments) := by
  induction fragments generalizing isFirst items with
  | nil => exact h
  | cons fragment rest ih =>
      rw [selectionFrom]
      apply Ends.bind (aboutFragment_gives (selectionStep_apart isFirst h _ _))
      intro next hnext
      exact ih false hnext

theorem selection_apart (fragments : List (Node × Option String)) :
    Gives AreNamedApart (selection scope fragments) :=
  selectionFrom_apart fragments true List.nodup_nil

/-!
# Grouping keys
-/

theorem addColumn_nodup (h : scope.columns.Nodup) (name : String) :
    (scope.addColumn name).columns.Nodup := by
  unfold Scope.addColumn
  split
  · exact h
  · rename_i hnew
    apply List.Nodup.append h (List.nodup_singleton name)
    rw [List.disjoint_singleton]
    simpa using hnew

theorem groupKeys_nodup (h : scope.columns.Nodup) (node : Node) :
    Gives (fun found => found.2.1.Nodup ∧ found.2.2.columns.Nodup) (groupKeys scope node) := by
  unfold groupKeys
  split
  · apply Ends.bind_any (gives_any _)
    intro e
    exact ⟨List.nodup_singleton _, addColumn_nodup h _⟩
  · apply Ends.bind (selectNames_nodup h _)
    intro names hnames
    exact ⟨ColumnSets.addNew_nodup List.nodup_nil hnames, h⟩

/-!
# A selection by itself

A selection keeps a list of output columns and edits it fragment by fragment; keys and
sets of columns come from what one fragment includes and excludes.  For one fragment the
two agree: the output columns are the names of the fragment, each under its own name.
-/

variable {node : Node} {sets : ColumnSets} {kept columns : List String}

/-!
# Columns that are kept
-/

/-- What a fragment comes to by itself: its included columns, or all columns if it only leaves
columns out, without the excluded ones. -/
def ColumnSets.chosen (scope : Scope) (sets : ColumnSets) : List String :=
  (if !sets.excluded.isEmpty && sets.included.isEmpty then scope.visibleColumns
    else sets.included).filter fun name => !sets.excluded.contains name

theorem selectNames_eq_chosen (h : columnSets scope node = .ok sets) :
    selectNames scope node = .ok (sets.chosen scope) := by
  unfold selectNames
  rw [h]
  rfl

namespace Output

theorem names_keep (columns : List String) : names (columns.map .keep) = columns := by
  unfold names
  rw [List.map_map]
  exact List.map_id columns

theorem put_keep {column : String} (hnew : column ∉ kept) :
    put (kept.map .keep) (.keep column) = (kept ++ [column]).map .keep := by
  unfold put
  rw [if_neg, List.map_append]
  · rfl
  · rw [names_keep, List.contains_iff_mem]
    exact hnew

theorem keepNew_keep {column : String} (hnew : column ∉ kept) :
    keepNew (kept.map .keep) column = (kept ++ [column]).map .keep := by
  unfold keepNew
  rw [if_neg, List.map_append]
  · rfl
  · rw [names_keep, List.contains_iff_mem]
    exact hnew

theorem foldl_keep {step : List SelectionItem -> String -> List SelectionItem}
    (hstep : forall kept column, column ∉ kept ->
      step (kept.map .keep) column = (kept ++ [column]).map .keep)
    (h : (kept ++ columns).Nodup) :
    columns.foldl step (kept.map .keep) = (kept ++ columns).map .keep := by
  induction columns generalizing kept with
  | nil => rw [List.foldl_nil, List.append_nil]
  | cons column rest ih =>
      have hnew : column ∉ kept := fun hmem =>
        (List.nodup_append.1 h).2.2 column hmem column List.mem_cons_self rfl
      have hnext : (kept ++ [column] ++ rest).Nodup := by
        rw [List.append_assoc]
        exact h
      rw [List.foldl_cons, hstep kept column hnew, ih hnext, List.append_assoc]
      rfl

theorem foldl_drop (columns : List String) (items : List SelectionItem) :
    columns.foldl drop items = items.filter fun item => !columns.contains item.name := by
  induction columns generalizing items with
  | nil => simp
  | cons column rest ih =>
      rw [List.foldl_cons, ih, drop, List.filter_filter]
      apply List.filter_congr
      intro item _
      rw [List.contains_cons, Bool.not_or, Bool.and_comm]
      rfl

theorem foldl_drop_keep (columns kept : List String) :
    columns.foldl drop (kept.map .keep) =
      (kept.filter fun name => !columns.contains name).map .keep := by
  rw [foldl_drop, List.filter_map]
  rfl

theorem apply_first (hcolumns : scope.columns.Nodup) (hsets : sets.AreDistinct) :
    apply scope true [] sets = (sets.chosen scope).map .keep := by
  have hvisible : scope.visibleColumns.foldl (fun items column => put items (.keep column)) [] =
      scope.visibleColumns.map .keep :=
    @foldl_keep [] _ _ (fun _ _ => put_keep) (visibleColumns_nodup hcolumns)
  unfold apply ColumnSets.chosen
  dsimp only
  rw [Bool.true_and, ← foldl_drop_keep]
  congr 1
  split
  · -- Only columns left out: nothing is put behind the columns to start from.
    rename_i honly
    have hnone : sets.included = [] := by
      rw [← List.isEmpty_iff]
      exact (Bool.and_eq_true_iff.1 honly).2
    rw [hvisible, hnone]
    rfl
  · exact @foldl_keep [] _ _ (fun _ _ => keepNew_keep) hsets.included

end Output

/-!
# Output columns and names
-/

theorem columnSets_assignment_ne_ok (target : String) (value : Node) :
    columnSets scope (.assignment target value) ≠ .ok sets := by
  intro h
  have hnone : Gives (fun _ => False) (columnSets scope (.assignment target value)) :=
    noSelection_gives _
  rwa [h] at hnone

theorem selectionStep_of_columnSets (h : columnSets scope node = .ok sets) (isFirst : Bool)
    (items : List SelectionItem) (source : Option String) :
    selectionStep scope isFirst items node source =
      .ok (Output.apply scope isFirst items sets) := by
  unfold selectionStep
  split
  · exact absurd h (columnSets_assignment_ne_ok _ _)
  · exact absurd h (columnSets_assignment_ne_ok _ _)
  · rw [h]

/-- A fragment that selects columns has for output columns just the ones that it names, each under
its own name, in the same order and none twice. -/
theorem selection_eq_keep_selectNames (hcolumns : scope.columns.Nodup)
    (hsets : columnSets scope node = .ok sets) (source : Option String) :
    exists names, selectNames scope node = .ok names ∧ names.Nodup ∧
      selection scope [(node, source)] = .ok (names.map .keep) := by
  have hdistinct : sets.AreDistinct := by
    have hgives := columnSets_distinct hcolumns node
    rw [hsets] at hgives
    exact hgives
  have hnames := selectNames_eq_chosen hsets
  have hnodup := selectNames_nodup hcolumns node
  rw [hnames] at hnodup
  refine ⟨sets.chosen scope, hnames, hnodup, ?_⟩
  unfold selection selectionFrom
  rw [selectionStep_of_columnSets hsets, Output.apply_first hcolumns hdistinct]
  rfl

/-- Columns with a reserved one among them. -/
def countedScope : Scope :=
  Scope.ofColumns ["x", countColumn, "y", "z"] Registry.standard Environment.empty

/-- All but a column and but what is not in a range. -/
def allButColumn : Node :=
  .call "-" [.call "c" [.identifier "z",
    .call "-" [.range (.identifier "y") (.identifier "x")] [] true] [] false] [] true

theorem allButColumn_sets : columnSets countedScope allButColumn =
    .ok { included := ["y", countColumn, "x"], excluded := ["z"] } := by
  rfl

theorem selection_eq_keep_selectNames_allBut :
    countedScope.columns.Nodup ∧ columnSets countedScope allButColumn =
        .ok { included := ["y", countColumn, "x"], excluded := ["z"] } ∧
      exists names, selectNames countedScope allButColumn = .ok names ∧ names.Nodup ∧
        selection countedScope [(allButColumn, none)] = .ok (names.map .keep) :=
  ⟨by decide, allButColumn_sets,
    selection_eq_keep_selectNames (by decide) allButColumn_sets none⟩

end Compile
end Wrangle
