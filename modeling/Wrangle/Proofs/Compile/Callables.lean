import Wrangle.Compile.Keys
import Wrangle.Proofs.Outcome

/-!
# Compilation and the variables of the caller

Of the variables of the caller, compilation sees the functions only.  A scope in which the other
variables are left out compiles every fragment to the same expressions and keys, or refuses it with
the same error.
-/

namespace Wrangle

/-!
# Functions among variables
-/

namespace Environment

/-- The variables that can be called, in their order. -/
def callables (env : Environment) : List (String × Value) :=
  env.values.filter fun entry => entry.2.isFunction

/-- Every variable has one value. -/
def IsMapping (env : Environment) : Prop :=
  (env.values.map Prod.fst).Nodup

instance (env : Environment) : Decidable env.IsMapping :=
  inferInstanceAs (Decidable (env.values.map Prod.fst).Nodup)

def onlyCallables (env : Environment) : Environment where
  values := env.callables
  functions := { brought := [], host := env.functions.host }

variable {env : Environment} {name : String}

theorem onlyCallables_functionNames : env.onlyCallables.functionNames = env.functionNames := by
  rw [functionNames, functionNames, onlyCallables, callables, List.filter_filter]
  simp only [Bool.and_self]

theorem lookup_filter {entries : List (String × Value)} {test : Value -> Bool}
    (h : (entries.map Prod.fst).Nodup) :
    (entries.filter fun entry => test entry.2).lookup name =
      (entries.lookup name).filter test := by
  induction entries with
  | nil => rfl
  | cons first rest ih =>
      rcases first with ⟨key, value⟩
      rw [List.map_cons, List.nodup_cons] at h
      rw [List.filter_cons, List.lookup_cons]
      cases hname : name == key with
      | false =>
          split
          · rw [List.lookup_cons, hname]
            exact ih h.2
          · exact ih h.2
      | true =>
          have hkey : name = key := beq_iff_eq.1 hname
          dsimp only
          split
          · rename_i htest
            rw [List.lookup_cons, hname, Option.filter_some, htest, if_pos rfl]
          · rename_i htest
            have hnone : rest.lookup name = none := by
              rw [List.lookup_eq_none_iff]
              intro entry hentry
              rw [bne_iff_ne]
              intro hsame
              exact h.1 (List.mem_map.2 ⟨entry, hentry, hsame.symm.trans hkey⟩)
            rw [ih h.2, hnone, Option.filter_some, if_neg htest]
            rfl

theorem onlyCallables_get? (h : env.IsMapping) :
    env.onlyCallables.get? name = (env.get? name).filter Value.isFunction :=
  lookup_filter h

end Environment

/-!
# Scopes
-/

namespace Scope

def withCallables (scope : Scope) : Scope :=
  { scope with env := scope.env.onlyCallables }

variable {scope : Scope} (h : scope.env.IsMapping)

theorem withCallables_addColumn (name : String) :
    scope.withCallables.addColumn name = (scope.addColumn name).withCallables := by
  unfold addColumn
  show (if scope.columns.contains name then _ else _) = _
  split <;> rfl

theorem withCallables_addColumns (names : List String) :
    scope.withCallables.addColumns names = (scope.addColumns names).withCallables := by
  unfold addColumns
  induction names generalizing scope with
  | nil => rfl
  | cons name rest ih =>
      rw [List.foldl_cons, List.foldl_cons, withCallables_addColumn]
      exact ih

theorem addColumn_env (name : String) : (scope.addColumn name).env = scope.env := by
  unfold addColumn
  split <;> rfl

theorem addColumns_env (names : List String) : (scope.addColumns names).env = scope.env := by
  unfold addColumns
  induction names generalizing scope with
  | nil => rfl
  | cons name rest ih => rw [List.foldl_cons, ih, addColumn_env]

include h

theorem withCallables_function? (name : String) :
    scope.withCallables.function? name = scope.function? name := by
  have henv : scope.withCallables.env = scope.env.onlyCallables := rfl
  unfold function?
  rw [henv, Environment.onlyCallables_get? h]
  cases LibraryFunction.ofName? name with
  | some f => rfl
  | none =>
      dsimp only
      cases scope.env.get? name with
      | none => rfl
      | some value => cases value <;> rfl

theorem withCallables_resolveFunction (name : String) :
    scope.withCallables.resolveFunction name = scope.resolveFunction name := by
  unfold resolveFunction
  rw [withCallables_function? h]
  have hnames : scope.withCallables.env.functionNames = scope.env.functionNames :=
    Environment.onlyCallables_functionNames
  rw [hnames]

theorem withCallables_name? (name : String) :
    scope.withCallables.name? name = scope.name? name := by
  unfold name?
  rw [withCallables_function? h, withCallables_resolveFunction h]
  rfl

end Scope

/-!
# Expressions
-/

namespace Compile

variable {scope : Scope} {mode : Mode}

mutual

theorem expr_withCallables (h : scope.env.IsMapping) {top : Bool} :
    forall node : Node, expr scope.withCallables mode top node = expr scope mode top node
  | .identifier name => by
      rw [expr, expr, Scope.withCallables_name? h]
      rfl
  | .literal value => by rw [expr, expr]
  | .vector items => by rw [expr, expr, exprs_withCallables h items]
  | .tuple items => by rw [expr, expr, exprs_withCallables h items]
  | .range start stop => by
      rw [expr, expr, expr_withCallables h start, expr_withCallables h stop]
      rfl
  | .call head args kwargs true => by
      rw [expr, expr, exprs_withCallables h args]
      rfl
  | .call head args kwargs false => by
      rw [expr, expr, exprs_withCallables h args, namedExprs_withCallables h kwargs,
        clauses_withCallables h args, Scope.withCallables_resolveFunction h]
      rfl
  | .pair left right => by rw [expr, expr]
  | .assignment target value => by rw [expr, expr]
  | .interpolate inner => by rw [expr, expr]
  | .splice items => by rw [expr, expr]
  | .foreign value => by rw [expr, expr]

theorem exprs_withCallables (h : scope.env.IsMapping) :
    forall nodes : List Node, exprs scope.withCallables mode nodes = exprs scope mode nodes
  | [] => by rw [exprs, exprs]
  | node :: rest => by
      rw [exprs, exprs, expr_withCallables h node, exprs_withCallables h rest]

theorem namedExprs_withCallables (h : scope.env.IsMapping) :
    forall nodes : List (String × Node),
      namedExprs scope.withCallables mode nodes = namedExprs scope mode nodes
  | [] => by rw [namedExprs, namedExprs]
  | (name, node) :: rest => by
      rw [namedExprs, namedExprs, expr_withCallables h node, namedExprs_withCallables h rest]

theorem clauses_withCallables (h : scope.env.IsMapping) :
    forall nodes : List Node, clauses scope.withCallables mode nodes = clauses scope mode nodes
  | [] => by rw [clauses, clauses]
  | node :: rest => by
      cases node with
      | pair condition value =>
          -- the clause that always holds ends the list
          by_cases htrue : condition = .literal (.bool true)
          · subst htrue
            rw [clauses, clauses, expr_withCallables h value]
          · rw [clauses, clauses]
            · rw [expr_withCallables h condition, expr_withCallables h value,
                clauses_withCallables h rest]
            · exact htrue
            · exact htrue
      | _ =>
          rw [clauses, clauses]
          all_goals nofun

end

/-!
# Selections
-/

mutual

theorem columnSets_withCallables :
    forall node : Node, columnSets scope.withCallables node = columnSets scope node
  | .identifier name => by
      rw [columnSets, columnSets]
      rfl
  | .literal value => by
      cases value <;> rfl
  | .call head [operand] kwargs true => by
      rw [columnSets, columnSets, columnSets_withCallables operand]
  | .call head args kwargs false => by
      rw [columnSets, columnSets, columnSetsOf_withCallables args]
      rfl
  | .vector items => by
      rw [columnSets, columnSets, columnSetsOf_withCallables items]
  | .tuple items => by
      rw [columnSets, columnSets, columnSetsOf_withCallables items]
  | .range start stop => by
      rw [columnSets, columnSets]
      rfl
  | .call _ [] _ true => rfl
  | .call _ (_ :: _ :: _) _ true => rfl
  | .pair _ _ => rfl
  | .assignment _ _ => rfl
  | .interpolate _ => rfl
  | .splice _ => rfl
  | .foreign _ => rfl

theorem columnSetsOf_withCallables :
    forall (nodes : List Node) (sets : ColumnSets),
      columnSetsOf scope.withCallables sets nodes = columnSetsOf scope sets nodes
  | [], sets => by rw [columnSetsOf, columnSetsOf]
  | node :: rest, sets => by
      rw [columnSetsOf, columnSetsOf, columnSets_withCallables node]
      simp only [columnSetsOf_withCallables rest]

end

theorem selectNames_withCallables (node : Node) :
    selectNames scope.withCallables node = selectNames scope node := by
  rw [selectNames, selectNames, columnSets_withCallables]
  rfl

/-!
# Assignments and conditions
-/

theorem across_withCallables (h : scope.env.IsMapping) (args : List Node)
    (kwargs : List (String × Node)) :
    across scope.withCallables mode args kwargs = across scope mode args kwargs := by
  unfold across
  simp only [selectNames_withCallables, expr_withCallables h]

theorem assigns_withCallables (h : scope.env.IsMapping) (node : Node) :
    assigns scope.withCallables mode node = assigns scope mode node := by
  unfold assigns
  simp only [expr_withCallables h, across_withCallables h]

theorem condition_withCallables (h : scope.env.IsMapping) (node : Node) :
    condition scope.withCallables node = condition scope node := by
  unfold condition
  simp only [expr_withCallables h]

/-!
# Output columns and keys
-/

theorem computedFragment_withCallables (h : scope.env.IsMapping) (items : List SelectionItem)
    (node : Node) (source : Option String) :
    computedFragment scope.withCallables items node source =
      computedFragment scope items node source := by
  unfold computedFragment computed
  simp only [across_withCallables h, expr_withCallables h]

theorem selectionStep_withCallables (h : scope.env.IsMapping) (isFirst : Bool)
    (items : List SelectionItem) (node : Node) (source : Option String) :
    selectionStep scope.withCallables isFirst items node source =
      selectionStep scope isFirst items node source := by
  unfold selectionStep computed
  simp only [computedFragment_withCallables h, expr_withCallables h, columnSets_withCallables]
  rfl

theorem selectionFrom_withCallables (h : scope.env.IsMapping)
    (fragments : List (Node × Option String)) (isFirst : Bool) (items : List SelectionItem) :
    selectionFrom scope.withCallables isFirst items fragments =
      selectionFrom scope isFirst items fragments := by
  induction fragments generalizing isFirst items with
  | nil => rfl
  | cons fragment rest ih =>
      rw [selectionFrom, selectionFrom, selectionStep_withCallables h]
      simp only [ih]

theorem groupKeys_withCallables (h : scope.env.IsMapping) (node : Node) :
    groupKeys scope.withCallables node =
      (groupKeys scope node).map fun found => (found.1, found.2.1, found.2.2.withCallables) := by
  unfold groupKeys
  simp only [expr_withCallables h, selectNames_withCallables, Scope.withCallables_addColumn]
  split
  · cases expr scope .transform true _ <;> rfl
  · cases selectNames scope node <;> rfl

theorem orderKey_withCallables (h : scope.env.IsMapping) (node : Node) :
    orderKey scope.withCallables node =
      (orderKey scope node).map fun found => (found.1, found.2.1, found.2.2.withCallables) := by
  unfold orderKey
  cases stripReversals false node with
  | error failure => rfl
  | ok stripped =>
      rw [ok_bind, ok_bind]
      dsimp only
      have hcolumn : columnKey? scope.withCallables stripped.2 = columnKey? scope stripped.2 := rfl
      rw [hcolumn, expr_withCallables h]
      cases columnKey? scope stripped.2 with
      | some column => rfl
      | none =>
          dsimp only
          cases expr scope .transform true stripped.2 <;> rfl

theorem groupKeys_env {node : Node} {found : List Assign × List String × Scope}
    (h : groupKeys scope node = .ok found) : found.2.2.env = scope.env := by
  unfold groupKeys at h
  split at h
  · rcases bind_eq_ok_iff.1 h with ⟨e, _, h⟩
    cases h
    exact Scope.addColumn_env _
  · rcases bind_eq_ok_iff.1 h with ⟨names, _, h⟩
    cases h
    rfl

theorem orderKey_env {node : Node} {found : List Assign × SortKey × Scope}
    (h : orderKey scope node = .ok found) : found.2.2.env = scope.env := by
  rcases bind_eq_ok_iff.1 h with ⟨stripped, _, h⟩
  dsimp only at h
  split at h
  · cases h
    rfl
  · rcases bind_eq_ok_iff.1 h with ⟨e, _, h⟩
    cases h
    rfl

end Compile
end Wrangle
