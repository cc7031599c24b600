import Wrangle.Proofs.Compile.Scoping
import Wrangle.Proofs.Expr.ElementWise
import Wrangle.Proofs.Fragment.Literals

/-!
# Compilation of element-wise trees

A tree without ranges and functions of whole columns, whose lists of values mention no
column, compiles to an element-wise expression.
-/

namespace Wrangle

open Compile Interpolation

namespace Node

def isColumnOf (scope : Scope) : Node -> Bool
  | identifier name => scope.columns.contains name
  | _ => false

/-- Whether a node leaves rows apart: it is no range and no call of a function of whole columns,
and no list of values that mentions a column. -/
def isElementWise (scope : Scope) : Node -> Bool
  | call head _ _ _ => !scope.registry.contains head && head != "across"
  | range _ _ => false
  | vector items => !(walkAll items).any (isColumnOf scope)
  | tuple items => !(walkAll items).any (isColumnOf scope)
  | _ => true

/-- A node that leaves rows apart, is no call of a row function, and no other literal than a plain
value. -/
structure LeavesRows (scope : Scope) (node : Node) : Prop where
  elementWise : node.isElementWise scope = true
  plain : node.isPlain = true
  count : node.isBareCall countFunction = false
  rowNumber : node.isBareCall rowNumberFunction = false

end Node

open Node

theorem Value.isBare_of_isScalar {value : Value} (h : isScalar value = true) :
    value.isBare = true := by
  cases value <;> first | rfl | cases h

namespace Expr

theorem areElementWise_iff {items : List Expr} :
    areElementWise items = true <-> forall e, e ∈ items -> e.isElementWise = true := by
  induction items with
  | nil => simp [areElementWise]
  | cons e rest ih => rw [areElementWise, Bool.and_eq_true, ih, List.forall_mem_cons]

theorem namedAreElementWise_iff {items : List (String × Expr)} :
    namedAreElementWise items = true <-> forall e, e ∈ items -> e.2.isElementWise = true := by
  induction items with
  | nil => simp [namedAreElementWise]
  | cons e rest ih => rw [namedAreElementWise, Bool.and_eq_true, ih, List.forall_mem_cons]

theorem clausesAreElementWise_iff {items : List (Expr × Expr)} :
    clausesAreElementWise items = true <-> forall e, e ∈ items ->
      e.1.isElementWise = true ∧ e.2.isElementWise = true := by
  induction items with
  | nil => simp [clausesAreElementWise]
  | cons e rest ih =>
      rw [clausesAreElementWise, Bool.and_eq_true, Bool.and_eq_true, ih, List.forall_mem_cons]

end Expr

namespace Compile

open Wrangle.Expr

variable {scope : Scope} {mode : Mode}

theorem coversNode_of_leavesRows (hsummaries : scope.summaries = []) {node : Node}
    (h : node.LeavesRows scope) (hcolumn : node.isColumnOf scope = false) :
    CoversNode [] scope node where
  column := by
    rintro name rfl hname
    simp [isColumnOf, hname] at hcolumn
  summary := by
    intro name _ hname
    rw [hsummaries] at hname
    cases hname
  count := fun hcall => by
    rw [h.count] at hcall
    cases hcall
  rowNumber := fun hcall => by
    rw [h.rowNumber] at hcall
    cases hcall

theorem mentionsAll_eq_nil (hsummaries : scope.summaries = []) {items : List Node}
    (hwalk : forall node, node ∈ walkAll items -> node.LeavesRows scope)
    (hcolumns : (walkAll items).any (isColumnOf scope) = false) {es : List Expr}
    (h : (exprs scope mode items).mapM id = .ok es) : mentionsAll es = [] := by
  have hcovers : forall node, node ∈ walkAll items -> CoversNode [] scope node := by
    intro node hnode
    apply coversNode_of_leavesRows hsummaries (hwalk node hnode)
    rw [List.any_eq_false] at hcolumns
    exact Bool.eq_false_iff.2 (hcolumns node hnode)
  have hwithin : Gives (fun es => forall e, e ∈ es -> e.Within [])
      ((exprs scope mode items).mapM id) :=
    Ends.mapM (exprs_gives (builds_within [] scope mode) items hcovers)
  rw [h] at hwithin
  rw [List.eq_nil_iff_forall_not_mem]
  intro name hname
  rcases mem_mentionsAll.1 hname with ⟨e, he, hmentioned⟩
  exact List.not_mem_nil (hwithin e he name hmentioned)

theorem callOf_elementWise (hmode : mode ≠ .aggregate) {top : Bool} {head : String}
    (hhead : scope.registry.contains head = false) {f : Function} {args : List Expr}
    {kwargs : List (String × Expr)} (hargs : forall e, e ∈ args -> e.isElementWise = true)
    (hkwargs : forall e, e ∈ kwargs -> e.2.isElementWise = true) :
    (callOf scope mode top head f args kwargs).isElementWise = true := by
  have hwise : scope.isElementWise head mode top = true := by
    unfold Scope.isElementWise
    rw [hhead]
    cases mode with
    | aggregate => exact absurd rfl hmode
    | _ => rfl
  rw [callOf, if_pos hwise, Expr.isElementWise, Bool.and_eq_true, areElementWise_iff,
    namedAreElementWise_iff]
  exact ⟨hargs, hkwargs⟩

theorem name?_elementWise (scope : Scope) (name : String) :
    Gives (fun e => e.isElementWise = true) (scope.name? name) := by
  unfold Scope.name?
  split
  · rfl
  · split
    · trivial
    · split
      · rfl
      · split
        · exact Ends.map_any (gives_any _) fun _ => rfl
        · trivial

theorem builds_elementWise (hmode : mode ≠ .aggregate) (hsummaries : scope.summaries = []) :
    Builds scope mode (LeavesRows scope) (fun e => e.isElementWise = true) where
  identifier := by
    intro name top _
    rw [expr, if_neg]
    · exact name?_elementWise scope name
    · rw [hsummaries]
      simp
  literal := fun h => Value.isBare_of_isScalar h.plain
  missing := rfl
  values := by
    intro items es hitems hwalk hes hgood
    have hcolumns : (walkAll items).any (isColumnOf scope) = false := by
      rcases hitems with h | h
      · simpa only [Node.isElementWise, Bool.not_eq_true'] using h.elementWise
      · simpa only [Node.isElementWise, Bool.not_eq_true'] using h.elementWise
    rw [Expr.isElementWise, mentionsAll_eq_nil hsummaries hwalk hcolumns hes, Bool.and_eq_true,
      areElementWise_iff]
    exact ⟨hgood, rfl⟩
  range := by
    intro start stop first last top h
    cases h.elementWise
  call := by
    intro head args kwargs isOperator top f es named h
    have hhead : scope.registry.contains head = false := by
      have hboth := h.elementWise
      rw [Node.isElementWise, Bool.and_eq_true] at hboth
      simpa using hboth.1
    exact callOf_elementWise hmode hhead
  rowFunction := by
    intro head args kwargs _ _
    unfold rowFunction
    split
    · trivial
    · split
      · rw [if_neg (by simpa using hmode)]
        rfl
      · rfl
  ifElse := by
    intro condition yes no miss hc hy hn hm
    simp [Expr.isElementWise, hc, hy, hn, hm]
  caseWhen := by
    intro clauses otherwise hclauses hotherwise
    cases otherwise with
    | none =>
        rw [Expr.isElementWise]
        exact clausesAreElementWise_iff.2 hclauses
    | some e =>
        rw [Expr.isElementWise, Bool.and_eq_true]
        exact ⟨clausesAreElementWise_iff.2 hclauses, hotherwise e rfl⟩

theorem expr_elementWise (hmode : mode ≠ .aggregate) (hsummaries : scope.summaries = [])
    {top : Bool} {node : Node} (h : forall inner, inner ∈ node.walk -> inner.LeavesRows scope) :
    Gives (fun e => e.isElementWise = true) (expr scope mode top node) :=
  expr_gives (builds_elementWise hmode hsummaries) node h

/-!
# Assignments and conditions
-/

theorem single_elementWise {a : Assign} (h : a.expr.isElementWise = true) :
    forall b, b ∈ [a] -> b.expr.isElementWise = true := by
  intro b hb
  rw [List.mem_singleton.1 hb]
  exact h

theorem assigns_elementWise (hsummaries : scope.summaries = []) {node : Node}
    (h : forall inner, inner ∈ node.walk -> inner.LeavesRows scope) :
    Gives (fun found => forall a, a ∈ found -> a.expr.isElementWise = true)
      (assigns scope .transform node) := by
  unfold assigns
  split
  · rename_i target value
    rw [Node.walk, List.forall_mem_cons] at h
    split
    · trivial
    · apply Ends.bind (expr_elementWise (by decide) hsummaries h.2)
      intro e he
      exact single_elementWise he
  · rw [Node.walk, List.forall_mem_cons] at h
    have hacross := h.1.elementWise
    simp [Node.isElementWise] at hacross
  · apply Ends.bind_any (gives_any _)
    intro name
    apply Ends.bind (expr_elementWise (by decide) hsummaries h)
    intro e he
    exact single_elementWise he

theorem condition_elementWise (hsummaries : scope.summaries = []) {node : Node}
    (h : forall inner, inner ∈ node.walk -> inner.LeavesRows scope) :
    Gives (fun e => e.isElementWise = true) (condition scope node) := by
  have hrefused : forall {before after : String} {hint : Option String},
      Gives (fun e : Expr => e.isElementWise = true) (notCondition node before after hint) := by
    intro before after hint
    unfold notCondition
    apply Ends.bind_any (gives_any _)
    intro text
    trivial
  have hexpr : Gives (fun e : Expr => e.isElementWise = true) (expr scope .condition true node) :=
    expr_elementWise (by decide) hsummaries h
  cases node with
  | assignment target value =>
      apply Ends.bind_any (gives_any _)
      intro text
      exact hrefused
  | literal value =>
      show Gives _ (if value.isTruthValue then _ else _)
      split
      · rw [Node.walk, List.forall_mem_cons] at h
        exact Value.isBare_of_isScalar h.1.plain
      · exact hrefused
  | tuple items => exact hrefused
  | vector items => exact hrefused
  | range start stop => exact hrefused
  | call head args kwargs isOperator =>
      cases isOperator with
      | true =>
          show Gives _ (if arithmeticSymbols.contains head then _ else _)
          split
          · exact hrefused
          · exact hexpr
      | false => exact hexpr
  | _ => exact hexpr

end Compile
end Wrangle
