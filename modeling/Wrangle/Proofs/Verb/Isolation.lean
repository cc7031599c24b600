import Wrangle.Proofs.Interpolation.Resolved
import Wrangle.Proofs.Verb.Hiding
import Wrangle.Verb.Planning

/-!
# The variables that a plan depends on

A verb whose fragments hold no marker reads nothing of the caller but the functions.  The plan is
the same, or is refused with the same error, whatever the other variables are.
-/

namespace Wrangle

/-!
# Fragments without markers
-/

namespace Verb

open Node (IsResolved)

def IsUnmarked (tree : Node) : Prop :=
  forall inner, .interpolate inner ∉ tree.walk

theorem fragmentOf_isResolved {value : Value} {fragment : Node × String}
    (h : fragmentOf value = .ok fragment) (hmarkers : IsUnmarked fragment.1) :
    fragment.1.IsResolved := by
  cases value with
  | str source =>
      rcases map_eq_ok_iff.1 h with ⟨tree, hparse, rfl⟩
      intro node hnode
      refine Node.isPending_of_isWritten (Grammar.isWritten_of_parse hparse hnode) ?_
      rintro inner rfl
      exact hmarkers inner hnode
  | quoted source =>
      cases h
      exact Interpolation.quotedNode_isResolved hmarkers
  | missing | bool _ | int _ | float _ _ =>
      cases h
      exact Interpolation.isResolved_leaf rfl rfl
  | sym name =>
      cases h
      exact Interpolation.isResolved_leaf rfl rfl
  | _ => cases h

theorem namedFragment_isResolved {entry : String × Value} {fragment : Node × String}
    (h : namedFragment entry = .ok fragment) (hmarkers : IsUnmarked fragment.1) :
    fragment.1.IsResolved := by
  rcases bind_eq_ok_iff.1 h with ⟨plain, hplain, h⟩
  dsimp only at h
  split at h
  · cases h
  · cases h
    have hvalue : plain.1.IsResolved :=
      fragmentOf_isResolved hplain fun inner hinner =>
        hmarkers inner (List.mem_cons_of_mem _ hinner)
    refine Interpolation.isResolved_iff.2 ⟨rfl, ?_⟩
    intro part hpart
    cases List.mem_singleton.1 hpart
    exact hvalue

theorem exists_of_mem_fragmentsOf {values : List Value} {named : List (String × Value)}
    {fragments : List (Node × String)} (h : fragmentsOf values named = .ok fragments)
    {fragment : Node × String} (hmem : fragment ∈ fragments) :
    (exists value, value ∈ values ∧ fragmentOf value = .ok fragment) ∨
      exists entry, entry ∈ named ∧ namedFragment entry = .ok fragment := by
  rcases bind_eq_ok_iff.1 h with ⟨plain, hplain, h⟩
  rcases bind_eq_ok_iff.1 h with ⟨others, hothers, h⟩
  cases h
  rcases List.mem_append.1 hmem with hmem | hmem
  · exact Or.inl (exists_of_forall₂ (forall₂_of_mapM_eq_ok hplain fun _ _ _ hvalue => hvalue) hmem)
  · exact Or.inr
      (exists_of_forall₂ (forall₂_of_mapM_eq_ok hothers fun _ _ _ hentry => hentry) hmem)

theorem fragmentsOf_isResolved {values : List Value} {named : List (String × Value)}
    {fragments : List (Node × String)} (h : fragmentsOf values named = .ok fragments)
    (hmarkers : forall fragment, fragment ∈ fragments -> IsUnmarked fragment.1) :
    forall fragment, fragment ∈ fragments -> fragment.1.IsResolved := by
  intro fragment hfragment
  rcases exists_of_mem_fragmentsOf h hfragment with ⟨value, _, hvalue⟩ | ⟨entry, _, hentry⟩
  · exact fragmentOf_isResolved hvalue (hmarkers fragment hfragment)
  · exact namedFragment_isResolved hentry (hmarkers fragment hfragment)

end Verb

namespace Interpolation

theorem resolve_of_isResolved {tree : Node} (h : tree.IsResolved) (env : Environment)
    (source : String) : resolve env tree source = .ok [.sibling source tree tree] := by
  rw [resolve_eq_map, resolveNode_of_isResolved h]
  show Except.ok (tree.siblings.map _) = _
  rw [Node.siblings_eq_self h]
  rfl

theorem resolveAll_of_isResolved {fragments : List (Node × String)}
    (h : forall fragment, fragment ∈ fragments -> fragment.1.IsResolved)
    (env other : Environment) : resolveAll env fragments = resolveAll other fragments := by
  unfold resolveAll
  rw [mapM_congr fun fragment hfragment => ?_]
  rw [resolve_of_isResolved (h fragment hfragment), resolve_of_isResolved (h fragment hfragment)]

end Interpolation

/-!
# Requests
-/

namespace Request

variable {scope : Scope} (h : scope.env.IsMapping)

theorem extendScope_withCallables (mode : Mode) (names : List String) :
    extendScope mode scope.withCallables names = (extendScope mode scope names).withCallables := by
  unfold extendScope Scope.addSummaries
  rw [Scope.withCallables_addColumns]
  split
  · rfl
  · rfl

theorem assigns_withCallables (mode : Mode) (fragments : List ResolvedFragment) {scope : Scope}
    (h : scope.env.IsMapping) :
    assigns mode scope.withCallables fragments = assigns mode scope fragments := by
  induction fragments generalizing scope with
  | nil => rfl
  | cons fragment rest ih =>
      rw [assigns, assigns, Compile.assigns_withCallables h]
      congr 1
      funext found
      rw [extendScope_withCallables, ih]
      rw [extendScope_env]
      exact h

theorem columnNames_withCallables (names : List String) (fragments : List ResolvedFragment) :
    columnNames scope.withCallables names fragments = columnNames scope names fragments := by
  induction fragments generalizing names with
  | nil => rfl
  | cons fragment rest ih =>
      rw [columnNames, columnNames, Compile.selectNames_withCallables]
      simp only [ih]

theorem renamedPair_withCallables (node : Node) :
    renamedPair scope.withCallables node = renamedPair scope node := by
  unfold renamedPair
  simp only [Compile.selectNames_withCallables]

theorem renamings_withCallables (mapping : List (String × String))
    (fragments : List ResolvedFragment) :
    renamings scope.withCallables mapping fragments = renamings scope mapping fragments := by
  induction fragments generalizing mapping with
  | nil => rfl
  | cons fragment rest ih =>
      rw [renamings, renamings, renamedPair_withCallables]
      simp only [ih]

include h in
theorem condition_withCallables (fragment : ResolvedFragment) :
    condition scope.withCallables fragment = condition scope fragment := by
  rw [condition, condition, Compile.condition_withCallables h]

theorem groupKeys_withCallables (fragments : List ResolvedFragment) (names : List String)
    {scope : Scope} (h : scope.env.IsMapping) :
    groupKeys scope.withCallables names fragments = groupKeys scope names fragments := by
  induction fragments generalizing names scope with
  | nil => rfl
  | cons fragment rest ih =>
      rw [groupKeys, groupKeys, Compile.groupKeys_withCallables h]
      cases hfound : Compile.groupKeys scope fragment.node with
      | error failure => rfl
      | ok found =>
          have henv : found.2.2.env.IsMapping := by
            rw [Compile.groupKeys_env hfound]
            exact h
          show (groupKeys found.2.2.withCallables _ rest >>= _) = (groupKeys found.2.2 _ rest >>= _)
          rw [ih _ henv]

theorem sortKeys_withCallables (fragments : List ResolvedFragment) {scope : Scope}
    (h : scope.env.IsMapping) :
    sortKeys scope.withCallables fragments = sortKeys scope fragments := by
  induction fragments generalizing scope with
  | nil => rfl
  | cons fragment rest ih =>
      rw [sortKeys, sortKeys, Compile.orderKey_withCallables h]
      cases hfound : Compile.orderKey scope fragment.node with
      | error failure => rfl
      | ok found =>
          have henv : found.2.2.env.IsMapping := by
            rw [Compile.orderKey_env hfound]
            exact h
          show (sortKeys found.2.2.withCallables rest >>= _) = (sortKeys found.2.2 rest >>= _)
          rw [ih henv]

def withCallables (request : Request) : Request :=
  { request with scope := request.scope.withCallables }

theorem fullScope_withCallables (request : Request) :
    request.withCallables.fullScope = request.fullScope.withCallables := by
  have hcount : request.withCallables.mentionsCount = request.mentionsCount := rfl
  have hnumber : request.withCallables.mentionsRowNumber = request.mentionsRowNumber := rfl
  have hscope : request.withCallables.scope = request.scope.withCallables := rfl
  unfold fullScope
  rw [hcount, hnumber, hscope]
  dsimp only
  split <;> split <;> simp only [Scope.withCallables_addColumn]

end Request

/-!
# Plans
-/

theorem Verb.plan_withCallables (verb : Verb) {request : Request}
    (h : request.scope.env.IsMapping) : verb.plan request.withCallables = verb.plan request := by
  have hfull : request.fullScope.env.IsMapping := by
    rw [Request.fullScope_env]
    exact h
  have hscope : request.withCallables.scope = request.scope.withCallables := rfl
  cases verb with
  | select | transmute =>
      show request.withCallables.planSelect = request.planSelect
      unfold Request.planSelect Compile.selection
      rw [Request.fullScope_withCallables, Compile.selectionFrom_withCallables hfull]
      rfl
  | rename =>
      show request.withCallables.planRename = request.planRename
      unfold Request.planRename
      rw [hscope, Request.renamings_withCallables]
      rfl
  | mutate =>
      show request.withCallables.planMutate = request.planMutate
      unfold Request.planMutate
      rw [Request.fullScope_withCallables, Request.assigns_withCallables _ _ hfull]
      rfl
  | summarize | summarise =>
      show request.withCallables.planSummarize = request.planSummarize
      unfold Request.planSummarize
      rw [Request.fullScope_withCallables, Request.assigns_withCallables _ _ hfull]
      rfl
  | filter =>
      show request.withCallables.planFilter = request.planFilter
      unfold Request.planFilter
      rw [Request.fullScope_withCallables, funext (Request.condition_withCallables hfull)]
      rfl
  | groupBy =>
      show request.withCallables.planGroupBy = request.planGroupBy
      unfold Request.planGroupBy
      rw [Request.fullScope_withCallables, Request.groupKeys_withCallables _ _ hfull]
      rfl
  | arrange =>
      show request.withCallables.planArrange = request.planArrange
      unfold Request.planArrange
      rw [Request.fullScope_withCallables, Request.sortKeys_withCallables _ hfull]
      rfl
  | distinct =>
      show request.withCallables.planDistinct = request.planDistinct
      unfold Request.planDistinct
      rw [Request.fullScope_withCallables, Request.columnNames_withCallables]
      rfl
  | dropMissing =>
      show request.withCallables.planDropMissing = request.planDropMissing
      unfold Request.planDropMissing
      rw [hscope, Request.columnNames_withCallables]
      rfl
  | ungroup | slice => rfl

namespace Invocation

/-- No fragment of a call holds a marker. -/
def HasNoMarkers (call : Invocation) : Prop :=
  forall fragments, Verb.fragmentsOf call.values call.named = .ok fragments ->
    forall fragment, fragment ∈ fragments -> Verb.IsUnmarked fragment.1

variable {call : Invocation}

theorem plan_onlyCallables (henv : call.env.IsMapping) (hmarkers : call.HasNoMarkers)
    (data : Dataset) :
    { call with env := call.env.onlyCallables }.plan data = call.plan data := by
  have hrequest : { call with env := call.env.onlyCallables }.request data =
      (call.request data).map Request.withCallables := by
    unfold request
    dsimp only
    cases hfragments : Verb.fragmentsOf call.values call.named with
    | error failure => rfl
    | ok fragments =>
        have hresolved := Verb.fragmentsOf_isResolved hfragments (hmarkers fragments hfragments)
        rw [ok_bind, ok_bind,
          Interpolation.resolveAll_of_isResolved hresolved call.env.onlyCallables call.env]
        cases Interpolation.resolveAll call.env fragments <;> rfl
  unfold plan operations
  rw [hrequest]
  congr 1
  cases hmade : call.request data with
  | error failure => rfl
  | ok made =>
      show call.verb.plan made.withCallables = call.verb.plan made
      refine Verb.plan_withCallables _ ?_
      rcases bind_eq_ok_iff.1 hmade with ⟨_, _, hmade⟩
      rcases bind_eq_ok_iff.1 hmade with ⟨_, _, hmade⟩
      cases hmade
      exact henv

/-- The variables of the caller reach a fragment through markers only.  Without markers, a call is
compiled to the same plan, or refused with the same error, by any two callers on one host with the
same functions under the same names. -/
theorem plan_isolated {other : Environment} (henv : call.env.IsMapping) (hother : other.IsMapping)
    (hcallables : other.callables = call.env.callables)
    (hhost : other.functions.host = call.env.functions.host) (hmarkers : call.HasNoMarkers)
    (data : Dataset) : { call with env := other }.plan data = call.plan data := by
  have hsame : other.onlyCallables = call.env.onlyCallables := by
    unfold Environment.onlyCallables
    rw [hcallables, hhost]
  rw [← plan_onlyCallables henv hmarkers data, ← hsame]
  exact (@plan_onlyCallables { call with env := other } hother hmarkers data).symm

/-- A call of a function of the caller on something that may be a column or not. -/
def mutateDouble : Invocation where
  verb := .mutate
  values := [.str "y = double(x)"]
  named := []
  env := { values := [("x", .int 1), ("double", .function (.caller "double"))], functions := [] }
  registry := .standard

def stranger : Environment where
  values := [("double", .function (.caller "double")), ("y", .str "x"), ("rate", .int 2)]
  functions := []

theorem mutateDouble_fragments : Verb.fragmentsOf mutateDouble.values mutateDouble.named =
    .ok [(.assignment "y" (.apply "double" [.identifier "x"]), "y = double(x)")] := by
  have hts : tokenize "y = double(x)" =
      .ok [⟨.identifier "y", 0⟩, ⟨.symbol .assign, 2⟩, ⟨.identifier "double", 4⟩,
        ⟨.symbol .openParen, 10⟩, ⟨.identifier "x", 11⟩, ⟨.symbol .closeParen, 12⟩,
        ⟨.finish, 13⟩] := rfl
  have hparse : parse true "y = double(x)" =
      .ok (.assignment "y" (.apply "double" [.identifier "x"])) :=
    Grammar.parse_eq_ok_iff.2 ⟨by decide, _, hts, rfl⟩
  show Verb.fragmentsOf [.str "y = double(x)"] [] = _
  unfold Verb.fragmentsOf
  rw [List.mapM_cons, Verb.fragmentOf, hparse]
  rfl

/-- A variable named like a column neither hides a column nor stands in for one that is missing. -/
theorem plan_isolated_mutateDouble :
    mutateDouble.env.IsMapping ∧ stranger.IsMapping ∧
    stranger.callables = mutateDouble.env.callables ∧
    stranger.functions.host = mutateDouble.env.functions.host ∧ mutateDouble.HasNoMarkers ∧
    forall header, { mutateDouble with env := stranger }.plan (.flat header []) =
      mutateDouble.plan (.flat header []) := by
  have hmarkers : mutateDouble.HasNoMarkers := by
    intro fragments hfragments fragment hmem inner hinner
    cases mutateDouble_fragments.symm.trans hfragments
    cases List.mem_singleton.1 hmem
    simp [Node.apply, Node.walk, Node.walkAll, Node.walkNamed] at hinner
  exact ⟨by decide, by decide, rfl, rfl, hmarkers, fun header =>
    @plan_isolated mutateDouble stranger (by decide) (by decide) rfl rfl hmarkers (.flat header [])⟩

end Invocation
end Wrangle
