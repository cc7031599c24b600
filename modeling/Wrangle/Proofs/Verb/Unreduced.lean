import Wrangle.Proofs.Compile.Scalars
import Wrangle.Proofs.Function.OnColumns
import Wrangle.Proofs.Verb.Naming
import Wrangle.Proofs.Verb.Recalling

/-!
# Summaries that apply an operator

The outermost operator of a summary is applied to whole columns.  What it gives for them is no
column, so it is stored as the summary of the group: only an operator that has no result for
columns makes the call fail.
-/

namespace Wrangle

open Dataset

namespace Dataset

variable {callers : CallerFunctions} {nrows : Nat} {columns : List (String × List Value)}
variable {first second : List Assign} {found : List (String × Value)} {op : BinaryOperator}
variable {x y : Expr} {a b w : Value} {target : String} {fragment : Option String}

/-!
# Single values
-/

theorem summaryValue_of_not_column (h : w.isColumn = false) (name : String) :
    summaryValue name w = .ok w := by
  cases w with
  | column items => cases h
  | _ => rfl

theorem isColumn_settled (name : String) (sources : List Value) (v : Value) :
    (v.settled name sources).isColumn = v.isColumn := by
  unfold Value.settled
  split
  · rfl
  · cases v <;> rfl

/-!
# Operators on the columns of a group
-/

/-- The summary that applies an operator to two expressions. -/
def operated (target : String) (op : BinaryOperator) (x y : Expr) (fragment : Option String) :
    Assign where
  name := target
  expr := .apply op.symbol (.binary op) [x, y] []
  source := fragment

theorem evaluate_operated {frame : Frame} (hx : x.evaluate callers frame = .ok a)
    (hy : y.evaluate callers frame = .ok b) (hlogical : op.isLogical = false)
    (hcolumn : a.EitherColumn b) :
    (operated target op x y fragment).expr.evaluate callers frame = .ok w <->
      exists v, op.OnColumns a b v ∧ w = v.settled op.symbol [a, b] := by
  have happly : forall v, Function.apply callers (.binary op) [a, b] [] = .ok v <->
      op.OnColumns a b v :=
    fun v => Iff.trans ofFault_eq_ok_iff (op.apply_iff_onColumns hlogical hcolumn)
  refine (Expr.evaluate_apply (Expr.evaluateAll_pair.2 ⟨a, b, hx, hy, rfl⟩) rfl).trans ?_
  simp only [happly, eq_comm]

theorem operated_iff {frame : Frame} (hx : x.evaluate callers frame = .ok a)
    (hy : y.evaluate callers frame = .ok b) (hlogical : op.isLogical = false)
    (hcolumn : a.EitherColumn b) :
    ((operated target op x y fragment).expr.evaluate callers frame >>= summaryValue target) =
        .ok w <->
      exists v, op.OnColumns a b v ∧ w = v.settled op.symbol [a, b] := by
  rw [bind_eq_ok_iff]
  have hsingle : forall {v : Value}, op.OnColumns a b v ->
      summaryValue target (v.settled op.symbol [a, b]) = .ok (v.settled op.symbol [a, b]) := by
    intro v hv
    apply summaryValue_of_not_column
    rw [isColumn_settled, hv.not_column]
  constructor
  · rintro ⟨result, hresult, hw⟩
    rcases (evaluate_operated hx hy hlogical hcolumn).1 hresult with ⟨v, hv, rfl⟩
    rw [hsingle hv] at hw
    exact ⟨v, hv, (Except.ok.inj hw).symm⟩
  · rintro ⟨v, hv, rfl⟩
    exact ⟨_, (evaluate_operated hx hy hlogical hcolumn).2 ⟨v, hv, rfl⟩, hsingle hv⟩

def frameAfter (wide : Dataset) (group : Partition) (found : List (String × Value)) : Frame where
  columns := accumulated group.size (restricted wide.columns group.rows) found
  nrows := group.size

/-- The values that two expressions have in a group after some summaries. -/
structure Operands (callers : CallerFunctions) (wide : Dataset) (first : List Assign) (x y : Expr)
    (group : Partition) (found : List (String × Value)) (a b : Value) : Prop where
  isGroup : exists groups, wide.partitions = .ok groups ∧ group ∈ groups
  summarized : summaries callers group.size (restricted wide.columns group.rows) first = .ok found
  left : x.evaluate callers (wide.frameAfter group found) = .ok a
  right : y.evaluate callers (wide.frameAfter group found) = .ok b

variable {wide table : Dataset} {group : Partition}

/-- Behind some summaries an operator on columns is one more summary just where it has a result
for them. -/
theorem Operands.summaries_iff (h : Operands callers wide first x y group found a b)
    (hlogical : op.isLogical = false) (hcolumn : a.EitherColumn b)
    {all : List (String × Value)} :
    summaries callers group.size (restricted wide.columns group.rows)
        (first ++ [operated target op x y fragment]) = .ok all <->
      exists v, op.OnColumns a b v ∧ all = found ++ [(target, v.settled op.symbol [a, b])] := by
  have hsingle : forall w, (Outcome.inFragment (operated target op x y fragment).fragment
      ((operated target op x y fragment).expr.evaluate callers (wide.frameAfter group found) >>=
        summaryValue target) = .ok w) <->
      exists v, op.OnColumns a b v ∧ w = v.settled op.symbol [a, b] :=
    fun w => inFragment_eq_ok_iff.trans (operated_iff h.left h.right hlogical hcolumn)
  refine (summaries_concat_iff h.summarized).trans ?_
  constructor
  · rintro ⟨w, hw, rfl⟩
    rcases (hsingle w).1 hw with ⟨v, hv, rfl⟩
    exact ⟨v, hv, rfl⟩
  · rintro ⟨v, hv, rfl⟩
    exact ⟨_, (hsingle _).2 ⟨v, hv, rfl⟩, rfl⟩

theorem Operands.mem_of_groupRow (h : Operands callers wide first x y group found a b)
    (hlogical : op.isLogical = false) (hcolumn : a.EitherColumn b)
    {entries : List (String × Value)}
    (hrow : groupRow callers wide (first ++ operated target op x y fragment :: second) group =
      .ok entries) :
    exists v, op.OnColumns a b v ∧ (target, v.settled op.symbol [a, b]) ∈ entries := by
  rcases bind_eq_ok_iff.1 hrow with ⟨all, hall, hrow⟩
  cases hrow
  rw [← List.singleton_append, ← List.append_assoc, summaries_append] at hall
  rcases bind_eq_ok_iff.1 hall with ⟨front, hfront, hall⟩
  rcases map_eq_ok_iff.1 hall with ⟨rest, _, rfl⟩
  rcases (h.summaries_iff hlogical hcolumn).1 hfront with ⟨v, hv, rfl⟩
  exact ⟨v, hv, by simp⟩

theorem Operands.mem_of_summarize (h : Operands callers wide first x y group found a b)
    (hlogical : op.isLogical = false) (hcolumn : a.EitherColumn b)
    (htable : summarize callers (first ++ operated target op x y fragment :: second) wide =
      .ok table) :
    target ∈ table.header ∧
      exists v, op.OnColumns a b v ∧ v.settled op.symbol [a, b] ∈ table.firstColumn target := by
  rcases firstColumn_summarize htable with ⟨groups, rows, hgroups, hrows, hcolumns⟩
  rcases h.isGroup with ⟨others, hothers, hgroup⟩
  rw [hgroups] at hothers
  cases hothers
  have hname : target ∈ wide.groups ++
      (first ++ operated target op x y fragment :: second).map Assign.name := by
    simp [operated]
  rcases hcolumns target hname with ⟨hheader, hcolumn'⟩
  refine ⟨hheader, ?_⟩
  rw [hcolumn']
  have hall : List.Forall₂ (fun entries group => groupRow callers wide
      (first ++ operated target op x y fragment :: second) group = .ok entries) rows groups :=
    forall₂_of_mapM_eq_ok hrows fun _ _ _ hentries => hentries
  rcases exists_of_forall₂ hall.flip hgroup with ⟨entries, hentries, hrow⟩
  rcases h.mem_of_groupRow hlogical hcolumn hrow with ⟨v, hv, hmem⟩
  refine ⟨v, hv, List.mem_flatMap.2 ⟨entries, hentries, ?_⟩⟩
  exact List.mem_map.2 ⟨_, List.mem_filter.2 ⟨hmem, beq_self_eq_true _⟩, rfl⟩

end Dataset

/-!
# Compiled operators
-/

namespace Request

variable {scope : Scope} {op : BinaryOperator} {left right written : Node} {target : String}

/-- A tree that applies an operator, assigned to a name or named by its text. -/
def IsOperation (written : Node) (target : String) (op : BinaryOperator) (left right : Node) :
    Prop :=
  written = .assignment target (.binary op.symbol left right) ∨
    (written = .binary op.symbol left right ∧ written.canonicalText? = .ok target)

/-- The outermost operator of a summary sees whole columns, whatever the registry holds. -/
theorem expr_operation (scope : Scope) (op : BinaryOperator) (left right : Node) :
    Compile.expr scope .aggregate true (.binary op.symbol left right) = (do
      let x <- Compile.expr scope .aggregate false left
      let y <- Compile.expr scope .aggregate false right
      .ok (.apply op.symbol (.binary op) [x, y] [])) := by
  have hfunction : Compile.operatorFunction op.symbol 2 = .ok (.binary op) := by
    cases op <;> rfl
  rw [Node.binary, Compile.expr, Compile.exprs, Compile.exprs, Compile.exprs]
  show (Compile.operatorFunction op.symbol 2 >>= fun f => _) = _
  rw [hfunction]
  cases Compile.expr scope .aggregate false left with
  | error failure => rfl
  | ok x =>
      cases Compile.expr scope .aggregate false right with
      | error failure => rfl
      | ok y =>
          show Except.ok (Compile.callOf scope .aggregate true op.symbol (.binary op) [x, y] []) = _
          rw [Compile.callOf, if_neg (by simp [Scope.isElementWise])]
          rfl

theorem assigns_operation (h : IsOperation written target op left right) :
    Compile.assigns scope .aggregate written = (do
      let x <- Compile.expr scope .aggregate false left
      let y <- Compile.expr scope .aggregate false right
      .ok [operated target op x y none]) := by
  have hnamed : Compile.assigns scope .aggregate written =
      (Compile.expr scope .aggregate true (.binary op.symbol left right) >>= fun e =>
        .ok [{ name := target, expr := e, source := none }]) := by
    rcases h with rfl | ⟨rfl, htext⟩
    · have hacross : Compile.isAcross (.binary op.symbol left right) = false := by
        cases op <;> rfl
      rw [Compile.assigns, if_neg (by simp [hacross])]
    · have hopened : Compile.assigns scope .aggregate (.binary op.symbol left right) = (do
          let name <- Outcome.ofFault (Node.binary op.symbol left right).canonicalText?
          let e <- Compile.expr scope .aggregate true (.binary op.symbol left right)
          .ok [{ name := name, expr := e, source := none }]) := by
        cases op <;> rfl
      rw [hopened, htext]
      rfl
  rw [hnamed, expr_operation]
  cases Compile.expr scope .aggregate false left with
  | error failure => rfl
  | ok x =>
      cases Compile.expr scope .aggregate false right with
      | error failure => rfl
      | ok y => rfl

/-- What two operands compile to behind some fragments, and what these compile to. -/
structure CompileOperands (scope : Scope) (before : List ResolvedFragment) (left right : Node)
    (first : List Assign) (x y : Expr) : Prop where
  before : Request.assigns .aggregate scope before = .ok first
  left : Compile.expr (extendScope .aggregate scope (first.map Assign.name)) .aggregate false left =
    .ok x
  right : Compile.expr (extendScope .aggregate scope (first.map Assign.name)) .aggregate false
    right = .ok y

theorem assigns_of_operation {before after : List ResolvedFragment} {fragment : ResolvedFragment}
    {assigns : List Assign} (hnode : IsOperation fragment.node target op left right)
    (h : Request.assigns .aggregate scope (before ++ fragment :: after) = .ok assigns) :
    exists first x y second, CompileOperands scope before left right first x y ∧
      assigns = first ++ operated target op x y (some fragment.source) :: second := by
  rcases assigns_append_eq_ok_iff.1 h with ⟨first, rest, hfirst, hrest, rfl⟩
  rw [Request.assigns, assigns_operation hnode] at hrest
  rcases bind_eq_ok_iff.1 hrest with ⟨found, hfound, hrest⟩
  rcases bind_eq_ok_iff.1 hrest with ⟨second, _, hrest⟩
  cases hrest
  rcases bind_eq_ok_iff.1 (inFragment_eq_ok_iff.1 hfound) with ⟨x, hx, hfound⟩
  rcases bind_eq_ok_iff.1 hfound with ⟨y, hy, hfound⟩
  cases hfound
  exact ⟨first, x, y, second, ⟨hfirst, hx, hy⟩, rfl⟩

end Request

/-!
# Calls
-/

namespace Invocation

variable {call : Invocation} {data wide result : Dataset} {found : List ResolvedFragment}
variable {assigns : List Assign}

/-- Summaries of a dataset that is divided into groups fail for the user only, or in a call to the
outside. -/
theorem Condenses.harmless (h : call.Condenses data found assigns wide) (hdata : data.WellFormed)
    {groups : List Partition} (hgroups : wide.partitions = .ok groups) (settings : Settings) :
    Ends (Failure.IsHarmless (Assign.AnyCallsOut assigns)) (fun _ => True)
      (call.run settings data).result := by
  have hhonest := (request_of_ok (request_of_fragments h.fragments data)).1
  have hseen : Compile.Gives (Seen (call.requestOf data found).fullScope.columns)
      (Request.assigns .aggregate (call.requestOf data found).fullScope found) :=
    Request.assigns_seen fun fragment hf => hhonest.covers hf
  rw [h.compiled] at hseen
  have hheader : forall name, name ∈ (call.requestOf data found).fullScope.columns ->
      name ∈ wide.header :=
    fun name hname => mem_header_of_scope (hdata.pads_rowColumns h.padded) hname
  rw [h.run_eq]
  apply (summarize_harmless_of_partitions _ hgroups hheader hseen id).bind_any
  intro table
  have hsafe : RunsSafely call.env.functions (fun _ => True) ([.dropReserved] ++
      if data.groups.dropLast.isEmpty then [] else [.regroup data.groups.dropLast]) table := by
    refine RunsSafely.append ((Request.dropReserved_safe table).weaken ?_)
    intro next _
    split
    · trivial
    · exact Request.regroup_safe _ next
  have hsort : forall keys, Operation.sort keys ∉ ([.dropReserved] ++
      if data.groups.dropLast.isEmpty then [] else [.regroup data.groups.dropLast]) := by
    intro keys
    split <;> simp
  apply (hsafe.harmless hsort).imp
  · rintro failure hfailure
    apply hfailure.imp
    rintro ⟨op, hop, hout⟩
    -- neither of the last steps has expressions
    split at hop
    · cases List.mem_singleton.1 hop
      exact hout.elim
    · rcases List.mem_cons.1 hop with rfl | hop
      · exact hout.elim
      · cases List.mem_singleton.1 hop
        exact hout.elim
  · exact fun _ _ => trivial

/-- The outermost operator of a summary is applied to the columns of each group as wholes.  Where it
has a result for columns, this is the summary of the group and is stored as such, of however many
values the columns are; where it has none, the call fails: with an error for the user, unless the
values are too long to be written into its message, or a function from outside that is called in
the summaries ends the program. -/
theorem operator_on_columns_iff {before after : List ResolvedFragment}
    {fragment : ResolvedFragment} {target : String} {op : BinaryOperator} {left right : Node}
    (hcall : call.Condenses data (before ++ fragment :: after) assigns wide)
    (hdata : data.WellFormed) (hnode : Request.IsOperation fragment.node target op left right)
    (hlogical : op.isLogical = false) :
    exists first x y second,
      Request.CompileOperands (call.requestOf data (before ++ fragment :: after)).fullScope before
        left right first x y ∧
      assigns = first ++ operated target op x y (some fragment.source) :: second ∧
      forall group earlier a b, wide.Operands call.env.functions first x y group earlier a b ->
        a.EitherColumn b ->
        (forall all, Dataset.summaries call.env.functions group.size
            (restricted wide.columns group.rows)
            (first ++ [operated target op x y (some fragment.source)]) = .ok all <->
          exists v, op.OnColumns a b v ∧
            all = earlier ++ [(target, v.settled op.symbol [a, b])]) ∧
        (forall settings result, (call.run settings data).result = .ok result ->
          exists v, op.OnColumns a b v ∧ (isReserved target = false ->
            v.settled op.symbol [a, b] ∈ result.firstColumn target)) ∧
        forall settings failure, (call.run settings data).result = .error failure ->
          failure.IsHarmless (Assign.AnyCallsOut assigns) := by
  rcases Request.assigns_of_operation hnode hcall.compiled with
    ⟨first, x, y, second, hcompiled, rfl⟩
  refine ⟨first, x, y, second, hcompiled, rfl, ?_⟩
  intro group earlier a b hoperands hcolumn
  refine ⟨fun all => hoperands.summaries_iff hlogical hcolumn, ?_, ?_⟩
  · intro settings result hrun
    rcases hcall.summarized hrun with ⟨table, htable, rfl⟩
    rcases hoperands.mem_of_summarize hlogical hcolumn htable with ⟨hheader, v, hv, hmem⟩
    refine ⟨v, hv, ?_⟩
    intro htarget
    rw [← (firstColumn_of_summarize htable hheader htarget).2] at hmem
    exact hmem
  · intro settings failure hrun
    rcases hoperands.isGroup with ⟨groups, hgroups, _⟩
    exact (hcall.harmless hdata hgroups settings).bad_of_eq hrun

def summarizeEquality : Invocation :=
  { copyColumn with verb := .summarize, values := [.str "s = x == 1"], named := [] }

def equalityFragment : ResolvedFragment where
  node := .assignment "s" (.binary "==" (.identifier "x") (.literal (.int 1)))
  mentionsCount := false
  mentionsRowNumber := false
  source := "s = x == 1"

theorem fragmentOf_equality :
    Verb.fragmentOf (.str "s = x == 1") = .ok (equalityFragment.node, "s = x == 1") := by
  have hts : tokenize "s = x == 1" =
      .ok [⟨.identifier "s", 0⟩, ⟨.symbol .assign, 2⟩, ⟨.identifier "x", 4⟩, ⟨.symbol .equals, 6⟩,
        ⟨.integer 1, 9⟩, ⟨.finish, 10⟩] := rfl
  exact fragmentOf_text (by decide) hts rfl

theorem summarizeEquality_fragments : summarizeEquality.fragments = .ok [equalityFragment] := by
  unfold fragments Verb.fragmentsOf
  simp only [summarizeEquality, List.mapM_cons, List.mapM_nil, fragmentOf_equality]
  rfl

theorem summarizeEquality_condenses : summarizeEquality.Condenses singles [equalityFragment]
    [operated "s" .equal (.column "x") (.literal (.int 1)) (some "s = x == 1")] singles where
  summarizes := .inl rfl
  fragments := summarizeEquality_fragments
  compiled := rfl
  padded := rfl

theorem summarizeEquality_operands :
    singles.Operands summarizeEquality.env.functions [] (.column "x") (.literal (.int 1))
      ⟨[], [0, 1]⟩ [] (.column [.int 1, .int 2]) (.int 1) where
  isGroup := ⟨_, rfl, List.mem_singleton_self _⟩
  summarized := rfl
  left := rfl
  right := rfl

theorem summarizeEquality_row : groupRow summarizeEquality.env.functions singles
    [operated "s" .equal (.column "x") (.literal (.int 1)) (some "s = x == 1")] ⟨[], [0, 1]⟩ =
      .ok [("s", .bool false)] := by
  have hon : BinaryOperator.equal.OnColumns (.column [.int 1, .int 2]) (.int 1) (.bool false) :=
    .equal (.apart (.inr rfl))
  exact bind_eq_ok_iff.2
    ⟨_, (summarizeEquality_operands.summaries_iff rfl (.inl rfl)).2 ⟨_, hon, rfl⟩, rfl⟩

theorem summarizeEquality_run :
    (summarizeEquality.run Settings.initial singles).result = .ok (flat ["s"] [[.bool false]]) := by
  have htable : summarize summarizeEquality.env.functions
      [operated "s" .equal (.column "x") (.literal (.int 1)) (some "s = x == 1")] singles =
        .ok (flat ["s"] [[.bool false]]) := by
    have hrows : [⟨[], [0, 1]⟩].mapM (groupRow summarizeEquality.env.functions singles
        [operated "s" .equal (.column "x") (.literal (.int 1)) (some "s = x == 1")]) =
          .ok [[("s", .bool false)]] := by
      rw [List.mapM_cons, summarizeEquality_row]
      rfl
    exact bind_eq_ok_iff.2 ⟨_, rfl, bind_eq_ok_iff.2 ⟨_, hrows, rfl⟩⟩
  rw [summarizeEquality_condenses.run_eq, htable]
  rfl

/-- The column is not equal to the number, and that is stored. -/
theorem operator_on_columns_iff_equality :
    (summarizeEquality.run Settings.initial singles).result = .ok (flat ["s"] [[.bool false]]) ∧
      exists v, BinaryOperator.equal.OnColumns (.column [.int 1, .int 2]) (.int 1) v ∧
        v.settled "==" [.column [.int 1, .int 2], .int 1] ∈
          (flat ["s"] [[.bool false]]).firstColumn "s" := by
  refine ⟨summarizeEquality_run, ?_⟩
  have hcall : summarizeEquality.Condenses singles ([] ++ equalityFragment :: [])
      [operated "s" .equal (.column "x") (.literal (.int 1)) (some "s = x == 1")] singles :=
    summarizeEquality_condenses
  have hnode : Request.IsOperation equalityFragment.node "s" .equal (.identifier "x")
      (.literal (.int 1)) := .inl rfl
  rcases operator_on_columns_iff hcall (by decide) hnode rfl with
    ⟨first, x, y, second, ⟨hfirst, _, _⟩, hassigns, hall⟩
  cases hfirst
  cases hassigns
  have hcolumn : Value.EitherColumn (.column [.int 1, .int 2]) (.int 1) := .inl rfl
  rcases hall ⟨[], [0, 1]⟩ [] _ _ summarizeEquality_operands hcolumn with ⟨_, hstored, _⟩
  rcases hstored Settings.initial _ summarizeEquality_run with ⟨v, hv, hmem⟩
  exact ⟨v, hv, hmem (by decide)⟩

end Invocation
end Wrangle
