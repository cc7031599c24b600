import Wrangle.Compile.Assignment
import Wrangle.Proofs.Compile.Scoping
import Wrangle.Proofs.Expr.Scalar

/-!
# Compilation of scalars

The trees of scalar expressions compile where their columns are there.  Whether the
outermost operator is applied row by row depends on the mode; reducers see whole
columns in every mode.
-/

namespace Wrangle

open Compile

/-- A registry with the reducers and the spans, but without the operators. -/
structure Registry.IsUsual (registry : Registry) : Prop where
  reducers : forall reducer : Reducer, registry.contains reducer.name = true
  spans : registry.contains ":" = true
  unary : forall op : UnaryOperator, registry.contains op.symbol = false
  binary : forall op : BinaryOperator, registry.contains op.symbol = false

theorem Registry.isUsual_standard : Registry.standard.IsUsual where
  reducers reducer := by
    cases reducer with
    | statistic of => cases of <;> decide
    | _ => decide
  spans := by decide
  unary op := by cases op <;> decide
  binary op := by cases op <;> decide

namespace Scalar

/-- The tree of a scalar. -/
def node : Scalar -> Node
  | literal value => .literal value
  | size => .call countFunction [] [] false
  | reduced reducer name => .call reducer.name [.identifier name] [] false
  | unary op a => .unary op.symbol (node a)
  | binary op a b => .binary op.symbol (node a) (node b)
  | span a b => .range (node a) (node b)

/-!
# Expressions
-/

section Expressions

variable {scope : Scope} {data : Dataset} {mode : Mode}

theorem callOf_operator {symbol : String} (h : scope.registry.contains symbol = false)
    (mode : Mode) (top : Bool) (f : Function) (args : List Expr) :
    callOf scope mode top symbol f args [] = operation mode top symbol f args := by
  rw [callOf, Scope.isElementWise, h, operation]
  cases mode == .aggregate && top <;> rfl

theorem callOf_whole {head : String} (h : scope.registry.contains head = true) (mode : Mode)
    (top : Bool) (f : Function) (args : List Expr) :
    callOf scope mode top head f args [] = .apply head f args [] := by
  rw [callOf, Scope.isElementWise, h]
  rfl

theorem expr_identifier (hsummaries : scope.summaries = []) {name : String}
    (hname : name ∈ scope.columns) (mode : Mode) (top : Bool) :
    Compile.expr scope mode top (.identifier name) = .ok (.column name) := by
  rw [Compile.expr, hsummaries, if_neg (by simp), Scope.name?,
    if_pos (List.contains_iff_mem.2 hname)]

theorem expr_size (hmode : mode = .transform ∨ mode = .aggregate) (top : Bool) :
    Compile.expr scope mode top size.node = .ok (size.expr mode top) := by
  rcases hmode with rfl | rfl <;> rfl

theorem expr_reducer (scope : Scope) (mode : Mode) (top : Bool) (reducer : Reducer)
    (name : String) :
    Compile.expr scope mode top (reduced reducer name).node =
      (Compile.expr scope mode false (.identifier name) >>= fun value =>
        .ok (callOf scope mode top reducer.name (.library reducer.function) [value] [])) := by
  have hopened : Compile.expr scope mode top (reduced reducer name).node = (do
      let f <- scope.resolveFunction reducer.name
      let values <- (Compile.exprs scope mode [.identifier name]).mapM id
      let named <- Compile.sequenceNamed (Compile.namedExprs scope mode [])
      .ok (callOf scope mode top reducer.name f values named)) := by
    cases reducer with
    | statistic of => cases of <;> rfl
    | _ => rfl
  have hfunction : scope.resolveFunction reducer.name = .ok (.library reducer.function) := by
    rw [Scope.resolveFunction, Scope.function?, reducer.ofName?_name]
  rw [hopened, hfunction, Compile.exprs]
  cases Compile.expr scope mode false (.identifier name) with
  | error failure => rfl
  | ok value => rfl

theorem expr_reduced (h : scope.registry.IsUsual) (hsummaries : scope.summaries = [])
    {reducer : Reducer} {name : String} (hname : name ∈ scope.columns) (mode : Mode)
    (top : Bool) :
    Compile.expr scope mode top (reduced reducer name).node =
      .ok ((reduced reducer name).expr mode top) := by
  rw [expr_reducer, expr_identifier hsummaries hname]
  exact congrArg Except.ok (callOf_whole (h.reducers reducer) mode top _ _)

theorem expr_node (h : scope.registry.IsUsual) (hsummaries : scope.summaries = [])
    (hcolumns : forall name, name ∈ data.header -> name ∈ scope.columns) {e : Scalar}
    (hfits : e.Fits data) (hmode : mode = .transform ∨ mode = .aggregate) (top : Bool) :
    Compile.expr scope mode top e.node = .ok (e.expr mode top) := by
  induction e generalizing top with
  | literal value => rfl
  | size => exact expr_size hmode top
  | reduced reducer name => exact expr_reduced h hsummaries (hcolumns name hfits) mode top
  | unary op a ih =>
      have hfunction : operatorFunction op.symbol 1 = .ok (.unary op) := by
        cases op <;> rfl
      rw [node, Node.unary, Compile.expr, Compile.exprs, ih hfits false, Compile.exprs]
      show (operatorFunction op.symbol 1 >>= fun f => Except.ok _) = _
      rw [hfunction]
      exact congrArg Except.ok (callOf_operator (h.unary op) mode top _ _)
  | binary op a b iha ihb =>
      have hfunction : operatorFunction op.symbol 2 = .ok (.binary op) := by
        cases op <;> rfl
      rw [node, Node.binary, Compile.expr, Compile.exprs, iha hfits.1 false, Compile.exprs,
        ihb hfits.2 false, Compile.exprs]
      show (operatorFunction op.symbol 2 >>= fun f => Except.ok _) = _
      rw [hfunction]
      exact congrArg Except.ok (callOf_operator (h.binary op) mode top _ _)
  | span a b iha ihb =>
      rw [node, Compile.expr, iha hfits.1 false, ihb hfits.2 false, ok_bind, ok_bind]
      exact congrArg Except.ok (callOf_whole h.spans mode top _ _)

end Expressions

/-!
# Fragments
-/

/-- A tree that names a scalar, or the scalar alone, which is named by its text. -/
def IsWritten (written : Node) (name : String) (e : Scalar) : Prop :=
  written = .assignment name e.node ∨ (written = e.node ∧ name = e.node.unparse)

theorem isAcross_node (e : Scalar) : isAcross e.node = false := by
  cases e with
  | reduced reducer name =>
      cases reducer with
      | statistic of => cases of <;> rfl
      | _ => rfl
  | unary op a => cases op <;> rfl
  | binary op a b => cases op <;> rfl
  | _ => rfl

section Walks

variable (op : UnaryOperator) (op' : BinaryOperator) (a b : Scalar)

theorem walk_unary : (unary op a).node.walk = (unary op a).node :: a.node.walk := by
  simp [node, Node.unary, Node.walk, Node.walkAll, Node.walkNamed]

theorem walk_binary :
    (binary op' a b).node.walk = (binary op' a b).node :: (a.node.walk ++ b.node.walk) := by
  simp [node, Node.binary, Node.walk, Node.walkAll, Node.walkNamed]

theorem walk_span : (span a b).node.walk = (span a b).node :: (a.node.walk ++ b.node.walk) := by
  rw [node, Node.walk]

end Walks

theorem isForeign_walk (e : Scalar) : e.node.walk.any Node.isForeign = false := by
  induction e with
  | unary op a ih =>
      rw [walk_unary, List.any_cons, ih]
      rfl
  | binary op a b iha ihb =>
      rw [walk_binary, List.any_cons, List.any_append, iha, ihb]
      rfl
  | span a b iha ihb =>
      rw [walk_span, List.any_cons, List.any_append, iha, ihb]
      rfl
  | _ => rfl

theorem canonicalText?_node (e : Scalar) : e.node.canonicalText? = .ok e.node.unparse := by
  rw [Node.canonicalText?, Node.isProper, e.isForeign_walk]
  rfl

theorem mentionsBareCall_node {e : Scalar} (h : e.counts = true) :
    e.node.mentionsBareCall countFunction = true := by
  unfold Node.mentionsBareCall
  induction e with
  | size => rfl
  | literal value => cases h
  | reduced reducer name => cases h
  | unary op a ih => rw [walk_unary, List.any_cons, ih h, Bool.or_true]
  | binary op a b iha ihb =>
      rw [walk_binary, List.any_cons, List.any_append]
      rcases Bool.or_eq_true_iff.1 h with ha | hb
      · rw [iha ha, Bool.true_or, Bool.or_true]
      · rw [ihb hb, Bool.or_true, Bool.or_true]
  | span a b iha ihb =>
      rw [walk_span, List.any_cons, List.any_append]
      rcases Bool.or_eq_true_iff.1 h with ha | hb
      · rw [iha ha, Bool.true_or, Bool.or_true]
      · rw [ihb hb, Bool.or_true, Bool.or_true]

theorem IsWritten.mentionsBareCall {written : Node} {name : String} {e : Scalar}
    (h : IsWritten written name e) (hcounts : e.counts = true) :
    written.mentionsBareCall countFunction = true := by
  have hnode := mentionsBareCall_node hcounts
  rcases h with rfl | ⟨rfl, _⟩
  · unfold Node.mentionsBareCall at hnode ⊢
    rw [Node.walk, List.any_cons, hnode, Bool.or_true]
  · exact hnode

theorem assigns_assignment (scope : Scope) (mode : Mode) (name : String) (e : Scalar) :
    Compile.assigns scope mode (.assignment name e.node) =
      (Compile.expr scope mode true e.node >>= fun compiled =>
        .ok [{ name := name, expr := compiled, source := none }]) := by
  rw [Compile.assigns, if_neg (by simp [isAcross_node])]

theorem assigns_node (scope : Scope) (mode : Mode) (e : Scalar) :
    Compile.assigns scope mode e.node =
      (Compile.expr scope mode true e.node >>= fun compiled =>
        .ok [{ name := e.node.unparse, expr := compiled, source := none }]) := by
  have hopened : Compile.assigns scope mode e.node = (do
      let name <- Outcome.ofFault e.node.canonicalText?
      let compiled <- Compile.expr scope mode true e.node
      .ok [{ name := name, expr := compiled, source := none }]) := by
    cases e with
    | reduced reducer name =>
        cases reducer with
        | statistic of => cases of <;> rfl
        | _ => rfl
    | unary op a => cases op <;> rfl
    | binary op a b => cases op <;> rfl
    | _ => rfl
  rw [hopened, canonicalText?_node]
  rfl

theorem IsWritten.assigns_eq {scope : Scope} {mode : Mode} {written : Node} {name : String}
    {e : Scalar} (h : IsWritten written name e) {compiled : Expr}
    (hexpr : Compile.expr scope mode true e.node = .ok compiled) :
    Compile.assigns scope mode written =
      .ok [{ name := name, expr := compiled, source := none }] := by
  rcases h with rfl | ⟨rfl, rfl⟩
  · rw [assigns_assignment, hexpr]
    rfl
  · rw [assigns_node, hexpr]
    rfl

end Scalar
end Wrangle
