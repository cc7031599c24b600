import Wrangle.Proofs.Compile.Scoping
import Wrangle.Proofs.Function.Raising

/-!
# User errors of compilation

What cannot be compiled is reported without the fragment, whose text is not known to
the compiler: all of its user errors are left to be attributed.  Selections are given
the texts of their fragments, and show them.
-/

namespace Wrangle

/-!
# Sources
-/

theorem Assign.fragment_of_source (assign : Assign) {source : String}
    (h : assign.source = some source) (hsource : source ≠ "") : assign.fragment = source := by
  unfold fragment
  rw [h]
  exact if_neg fun hempty => hsource (String.isEmpty_iff.1 hempty)

/-- An output column that is picked, or shows the fragment that it is computed from. -/
def SelectionItem.IsSourced : SelectionItem -> Prop
  | .computed assign => assign.fragment ≠ ""
  | .picked _ => True

/-!
# Scopes
-/

theorem unplaced_resolveFunction (scope : Scope) (name : String) :
    LeavesUnplaced (scope.resolveFunction name) := by
  unfold Scope.resolveFunction
  split
  · trivial
  · exact rfl

theorem unplaced_name? (scope : Scope) (name : String) : LeavesUnplaced (scope.name? name) := by
  unfold Scope.name?
  split
  · trivial
  · split
    · exact rfl
    · split
      · trivial
      · split
        · exact (unplaced_resolveFunction scope name).map_any fun _ => trivial
        · exact rfl

namespace Compile

/-!
# Special forms
-/

theorem unplaced_shown (node : Node) : LeavesUnplaced (shown node) :=
  (raisesOnly_ofFault _).map_any fun _ => trivial

theorem unplaced_unusable (node : Node) (before after : String) (hint : Option String) :
    LeavesUnplaced (unusable node before after hint : Outcome alpha) :=
  (unplaced_shown node).bind_any fun _ => rfl

theorem unplaced_placeNamed (label : String) (parameters : List String) (index : Nat)
    (args : List alpha) (named : List (String × alpha)) :
    LeavesUnplaced (placeNamed label index args named parameters) := by
  induction parameters generalizing index args named with
  | nil => trivial
  | cons name rest ih =>
      rw [placeNamed]
      split
      · exact ih _ _ _
      · split
        · exact rfl
        · exact ih _ _ _

theorem unplaced_choice {args : List (Outcome Expr)} {named : List (String × Outcome Expr)}
    (hargs : forall x, x ∈ args -> LeavesUnplaced x)
    (hnamed : forall x, x ∈ named -> LeavesUnplaced x.2) : LeavesUnplaced (choice args named) := by
  unfold choice
  have hgives : Gives (fun result => forall x, x ∈ result.1 -> LeavesUnplaced x)
      (placeNamed "if_else" 0 args (lastNamed named) choiceParameters) :=
    placeNamed_gives hargs fun x hx => hnamed x (mem_lastNamed hx)
  apply ((unplaced_placeNamed _ _ _ _ _).with_good hgives).bind
  intro found hplaced
  rcases found with ⟨placed, rest⟩
  dsimp only at hplaced ⊢
  split
  · exact rfl
  · split
    · rename_i condition yes no
      apply (hplaced condition (by simp)).bind_any
      intro c
      apply (hplaced yes (by simp)).bind_any
      intro y
      apply (hplaced no (by simp)).bind_any
      intro n
      trivial
    · rename_i condition yes no miss
      apply (hplaced condition (by simp)).bind_any
      intro c
      apply (hplaced yes (by simp)).bind_any
      intro y
      apply (hplaced no (by simp)).bind_any
      intro n
      apply (hplaced miss (by simp)).bind_any
      intro m
      trivial
    · exact rfl

theorem unplaced_operatorFunction (head : String) (count : Nat) :
    LeavesUnplaced (operatorFunction head count) := by
  unfold operatorFunction
  dsimp only
  split <;> trivial

theorem unplaced_rowFunction (mode : Mode) (head : String) (bare : Bool) :
    LeavesUnplaced (rowFunction mode head bare) := by
  unfold rowFunction
  split
  · exact rfl
  · split <;> trivial

theorem unplaced_misplaced? {head : String} {e : UserError} (h : misplaced? head = some e) :
    e.IsUnplaced := by
  unfold misplaced? at h
  split at h
  · cases h
    rfl
  · split at h
    · cases h
      rfl
    · split at h
      · cases h
        rfl
      · cases h

theorem unplaced_sequenceNamed {named : List (String × Outcome Expr)}
    (h : forall x, x ∈ named -> LeavesUnplaced x.2) : LeavesUnplaced (sequenceNamed named) := by
  induction named with
  | nil => trivial
  | cons entry rest ih =>
      rw [sequenceNamed]
      apply (h entry List.mem_cons_self).bind_any
      intro e
      apply (ih fun x hx => h x (List.mem_cons_of_mem _ hx)).bind_any
      intro others
      trivial

/-!
# Expressions
-/

section Expressions

variable (scope : Scope) (mode : Mode)

mutual

theorem unplaced_expr (top : Bool) : forall node : Node, LeavesUnplaced (expr scope mode top node)
  | .identifier name => by
      rw [expr]
      split
      · trivial
      · exact unplaced_name? scope name
  | .literal value => by
      rw [expr]
      trivial
  | .vector items => by
      rw [expr]
      exact (Ends.mapM_any (unplaced_exprs items)).map_any fun _ => trivial
  | .tuple items => by
      rw [expr]
      exact (Ends.mapM_any (unplaced_exprs items)).map_any fun _ => trivial
  | .range start stop => by
      rw [expr]
      apply (unplaced_expr false start).bind_any
      intro first
      apply (unplaced_expr false stop).bind_any
      intro last
      trivial
  | .call head args kwargs true => by
      rw [expr]
      apply (unplaced_operatorFunction head args.length).bind_any
      intro f
      apply (Ends.mapM_any (unplaced_exprs args)).bind_any
      intro operands
      trivial
  | .call head args kwargs false => by
      rw [expr]
      split
      · exact unplaced_rowFunction _ _ _
      · split
        · exact unplaced_choice (unplaced_exprs args) (unplaced_namedExprs kwargs)
        · split
          · split
            · exact rfl
            · exact (unplaced_clauses args).map_any fun _ => trivial
          · split
            · rename_i e he
              exact unplaced_misplaced? he
            · apply (unplaced_resolveFunction scope head).bind_any
              intro f
              apply (Ends.mapM_any (unplaced_exprs args)).bind_any
              intro values
              apply (unplaced_sequenceNamed (unplaced_namedExprs kwargs)).bind_any
              intro named
              trivial
  | .pair left right => by
      rw [expr]
      exact unplaced_unusable _ _ _ _
  | .assignment target value => by
      rw [expr]
      exact unplaced_unusable _ _ _ _
  | .interpolate inner => by
      rw [expr]
      exact unplaced_unusable _ _ _ _
  | .splice items => by
      rw [expr]
      exact unplaced_unusable _ _ _ _
  | .foreign value => by
      rw [expr]
      exact rfl

theorem unplaced_exprs :
    forall nodes : List Node, forall x, x ∈ exprs scope mode nodes -> LeavesUnplaced x
  | [], x, hx => by
      rw [exprs] at hx
      cases hx
  | node :: rest, x, hx => by
      rw [exprs] at hx
      rcases List.mem_cons.1 hx with rfl | hx
      · exact unplaced_expr false node
      · exact unplaced_exprs rest x hx

theorem unplaced_namedExprs :
    forall nodes : List (String × Node),
      forall x, x ∈ namedExprs scope mode nodes -> LeavesUnplaced x.2
  | [], x, hx => by
      rw [namedExprs] at hx
      cases hx
  | (name, node) :: rest, x, hx => by
      rw [namedExprs] at hx
      rcases List.mem_cons.1 hx with rfl | hx
      · exact unplaced_expr false node
      · exact unplaced_namedExprs rest x hx

theorem unplaced_clauses :
    forall nodes : List Node, LeavesUnplaced (clauses scope mode nodes)
  | [] => by
      rw [clauses]
      trivial
  | node :: rest => by
      cases node with
      | pair condition value =>
          by_cases htrue : condition = .literal (.bool true)
          · subst htrue
            rw [clauses]
            exact (unplaced_expr false value).bind_any fun _ => trivial
          · rw [clauses]
            · apply (unplaced_expr false condition).bind_any
              intro test
              apply (unplaced_expr false value).bind_any
              intro result
              exact (unplaced_clauses rest).bind_any fun _ => trivial
            · exact htrue
      | _ => exact unplaced_unusable _ _ _ _

end

end Expressions

/-!
# Selections
-/

section Selections

variable (scope : Scope)

theorem unplaced_columnAtPosition (n : Int) : LeavesUnplaced (columnAtPosition scope n) := by
  unfold columnAtPosition
  dsimp only
  split
  · trivial
  · exact noColumnAt_ends (fun _ he => he) trivial

theorem unplaced_columnOf (node : Node) : LeavesUnplaced (columnOf scope node) := by
  have hknown (name : String) : LeavesUnplaced (knownColumn scope name) := by
    unfold knownColumn
    split
    · trivial
    · exact rfl
  unfold columnOf
  split
  · exact hknown _
  · exact hknown _
  · exact unplaced_columnAtPosition scope _
  · exact unplaced_unusable _ _ _ _

theorem unplaced_literalArguments (head : String) (args : List Node) :
    LeavesUnplaced (literalArguments head args) := by
  fun_induction literalArguments head args with
  | case1 => trivial
  | case2 value rest ih => exact ih.map_any fun _ => trivial
  | case3 node rest _ => exact unplaced_unusable _ _ _ _

theorem unplaced_helperColumns (helper : SelectionHelper) (head : String) (args : List Node) :
    LeavesUnplaced (helperColumns scope helper head args) := by
  unfold helperColumns
  apply (unplaced_literalArguments head args).bind_any
  intro values
  apply (raisesOnly_ofFault _).bind_any
  intro test
  exact raisesOnly_ofFault _

theorem unplaced_noSelection (node : Node) : LeavesUnplaced (noSelection node) :=
  unplaced_unusable _ _ _ _

mutual

theorem unplaced_columnSets : forall node : Node, LeavesUnplaced (columnSets scope node)
  | .identifier name => (unplaced_columnOf scope _).map_any fun _ => trivial
  | .vector items => by
      rw [columnSets]
      exact unplaced_columnSetsOf items .empty
  | .tuple items => by
      rw [columnSets]
      exact unplaced_columnSetsOf items .empty
  | .range start stop => by
      rw [columnSets]
      apply (unplaced_columnOf scope start).bind_any
      intro first
      exact (unplaced_columnOf scope stop).bind_any fun _ => trivial
  | .literal value => by
      cases value with
      | int n =>
          rw [columnSets]
          split
          · exact (unplaced_columnAtPosition scope _).map_any fun _ => trivial
          · exact (unplaced_columnAtPosition scope _).map_any fun _ => trivial
      | _ => exact (unplaced_columnOf scope _).map_any fun _ => trivial
  | .call head [operand] kwargs true => by
      rw [columnSets]
      split
      · exact (unplaced_columnSets operand).map_any fun _ => trivial
      · exact unplaced_noSelection _
  | .call head args kwargs false => by
      rw [columnSets]
      split
      · exact (unplaced_helperColumns scope _ head args).map_any fun _ => trivial
      · split
        · exact unplaced_columnSetsOf args .empty
        · exact unplaced_noSelection _
  | .call _ [] _ true => unplaced_noSelection _
  | .call _ (_ :: _ :: _) _ true => unplaced_noSelection _
  | .pair _ _ => unplaced_noSelection _
  | .assignment _ _ => unplaced_noSelection _
  | .interpolate _ => unplaced_noSelection _
  | .splice _ => unplaced_noSelection _
  | .foreign _ => unplaced_noSelection _

theorem unplaced_columnSetsOf :
    forall (nodes : List Node) (sets : ColumnSets), LeavesUnplaced (columnSetsOf scope sets nodes)
  | [], _ => by
      rw [columnSetsOf]
      trivial
  | node :: rest, sets => by
      rw [columnSetsOf]
      apply (unplaced_columnSets node).bind_any
      intro more
      exact unplaced_columnSetsOf rest _

end

theorem unplaced_selectNames (node : Node) : LeavesUnplaced (selectNames scope node) :=
  (unplaced_columnSets scope node).bind_any fun _ => trivial

/-!
# Computed columns and conditions
-/

theorem unplaced_across (mode : Mode) (args : List Node) (kwargs : List (String × Node)) :
    LeavesUnplaced (across scope mode args kwargs) := by
  unfold across
  split
  · apply (unplaced_selectNames scope _).bind_any
    intro columns
    apply Ends.bind_any
    · apply Ends.mapM_any
      intro node _
      unfold functionName
      split
      · trivial
      · exact unplaced_unusable _ _ _ _
    · intro names
      apply Ends.mapM_any
      intro pair _
      exact (unplaced_expr scope mode true _).bind_any fun _ => trivial
  · exact rfl

theorem unplaced_assigns (mode : Mode) (node : Node) :
    LeavesUnplaced (assigns scope mode node) := by
  unfold assigns
  split
  · split
    · exact rfl
    · exact (unplaced_expr scope mode true _).bind_any fun _ => trivial
  · exact unplaced_across scope mode _ _
  · apply (raisesOnly_ofFault _).bind_any
    intro name
    exact (unplaced_expr scope mode true _).bind_any fun _ => trivial

theorem unplaced_condition (node : Node) : LeavesUnplaced (condition scope node) := by
  have hnot (other : Node) (before after : String) (hint : Option String) :
      LeavesUnplaced (notCondition other before after hint : Outcome Expr) :=
    (unplaced_shown other).bind_any fun _ => rfl
  unfold condition
  split
  · exact (unplaced_shown _).bind_any fun _ => hnot _ _ _ _
  · split
    · trivial
    · exact hnot _ _ _ _
  · exact hnot _ _ _ _
  · exact hnot _ _ _ _
  · exact hnot _ _ _ _
  · split
    · exact hnot _ _ _ _
    · exact unplaced_expr scope _ true _
  · exact unplaced_expr scope _ true _

/-!
# Output columns
-/

theorem unplaced_computed (items : List SelectionItem) (target : String) (value : Node)
    (source : Option String) : LeavesUnplaced (computed scope items target value source) :=
  (unplaced_expr scope .transform true value).bind_any fun _ => trivial

theorem unplaced_computedFragment (items : List SelectionItem) (node : Node)
    (source : Option String) : LeavesUnplaced (computedFragment scope items node source) := by
  unfold computedFragment
  split
  · exact (unplaced_across scope .transform _ _).bind_any fun _ => trivial
  · apply (raisesOnly_ofFault _).bind_any
    intro target
    exact unplaced_computed scope items target _ source

theorem unplaced_selectionStep (isFirst : Bool) (items : List SelectionItem) (node : Node)
    (source : Option String) :
    LeavesUnplaced (selectionStep scope isFirst items node source) := by
  unfold selectionStep
  split
  · split
    · trivial
    · exact unplaced_computed scope items _ _ source
  · exact unplaced_computed scope items _ _ source
  · have hsets : LeavesUnplaced (columnSets scope node) := unplaced_columnSets scope node
    split
    · trivial
    · rename_i failure hfailure
      split
      · exact unplaced_computedFragment scope items node source
      · exact hsets.bad_of_eq hfailure

theorem aboutFragment_eq_inFragment (node : Node) {text : String} (htext : text ≠ "")
    (outcome : Outcome alpha) :
    aboutFragment node (some text) outcome = Outcome.inFragment text outcome := by
  have hisEmpty : text.isEmpty = false := by
    cases hempty : text.isEmpty with
    | false => rfl
    | true => exact absurd (String.isEmpty_iff.1 hempty) htext
  cases outcome with
  | ok value => rfl
  | error failure =>
      cases failure with
      | fault f => rfl
      | user e =>
          show (if text.isEmpty then _ else _) = _
          rw [hisEmpty]
          rfl

theorem selectionStep_sourced (isFirst : Bool) {items : List SelectionItem} (node : Node)
    {text : String} (htext : text ≠ "") (h : forall item, item ∈ items -> item.IsSourced) :
    Gives (fun next => forall item, item ∈ next -> item.IsSourced)
      (selectionStep scope isFirst items node (some text)) := by
  have hassign {assign : Assign} (hsource : assign.source = some text) :
      (SelectionItem.computed assign).IsSourced := by
    rw [SelectionItem.IsSourced, assign.fragment_of_source hsource htext]
    exact htext
  have hcomputed (target : String) (value : Node) :
      Gives (fun next => forall item, item ∈ next -> item.IsSourced)
        (computed scope items target value (some text)) := by
    unfold computed
    apply (gives_any _).bind_any
    intro e
    exact Output.put_all h (hassign rfl)
  unfold selectionStep
  split
  · split
    · exact Output.put_all h trivial
    · exact hcomputed _ _
  · exact hcomputed _ _
  · have hsets : Gives (ColumnSets.InScope scope) (columnSets scope node) :=
      columnSets_inScope node
    split
    · rename_i sets hok
      rw [hok] at hsets
      exact Output.apply_all (fun _ _ => trivial) h hsets
    · split
      · unfold computedFragment
        split
        · apply (gives_any _).bind_any
          intro found
          apply Output.foldl_all _ h
          intro items assign _ hitems
          exact Output.put_all hitems (hassign rfl)
        · apply (gives_any _).bind_any
          intro target
          exact hcomputed _ _
      · trivial

theorem attributed_selection {fragments : List (Node × String)}
    (hsources : forall fragment, fragment ∈ fragments -> fragment.2 ≠ "") :
    Ends (Failure.IsFaultOr UserError.IsAttributed)
      (fun items => forall item, item ∈ items -> item.IsSourced)
      (selection scope (fragments.map fun fragment => (fragment.1, some fragment.2))) := by
  have hfrom (isFirst : Bool) (items : List SelectionItem)
      (hitems : forall item, item ∈ items -> item.IsSourced) :
      Ends (Failure.IsFaultOr UserError.IsAttributed)
        (fun items => forall item, item ∈ items -> item.IsSourced)
        (selectionFrom scope isFirst items
          (fragments.map fun fragment => (fragment.1, some fragment.2))) := by
    induction fragments generalizing isFirst items with
    | nil => exact hitems
    | cons fragment rest ih =>
        rcases List.forall_mem_cons.1 hsources with ⟨hsource, hrest⟩
        rw [List.map_cons, selectionFrom, aboutFragment_eq_inFragment _ hsource]
        have hstep := (unplaced_selectionStep scope isFirst items fragment.1 fragment.2).with_good
          (selectionStep_sourced scope isFirst fragment.1 hsource hitems)
        apply (inFragment_unplaced hsource hstep).bind
        intro next hnext
        exact ih hrest false next hnext
  exact hfrom true [] (List.forall_mem_nil _)

/-!
# Keys
-/

theorem unplaced_groupKeys (node : Node) : LeavesUnplaced (groupKeys scope node) := by
  unfold groupKeys
  split
  · exact (unplaced_expr scope .transform true _).bind_any fun _ => trivial
  · exact (unplaced_selectNames scope _).bind_any fun _ => trivial

theorem unplaced_stripReversals (reverse : Bool) (node : Node) :
    LeavesUnplaced (stripReversals reverse node) := by
  fun_induction stripReversals reverse node with
  | case1 reverse key ih => exact ih
  | case2 reverse args kwargs _ => exact rfl
  | case3 reverse node _ _ => trivial

theorem unplaced_orderKey (node : Node) : LeavesUnplaced (orderKey scope node) := by
  unfold orderKey
  apply (unplaced_stripReversals false node).bind_any
  intro found
  rcases found with ⟨reverse, key⟩
  dsimp only
  split
  · trivial
  · exact (unplaced_expr scope .transform true _).bind_any fun _ => trivial

end Selections

end Compile
end Wrangle
