import Wrangle.Proofs.Compile.ElementWise
import Wrangle.Proofs.Dataset.ElementWise
import Wrangle.Proofs.Verb.Naming

/-!
# Element-wise calls of verbs

Where the fragments of a call leave rows apart, grouping makes no difference to the
columns that it adds and to the rows that it keeps, and to keep rows by several
conditions is to keep rows by one after another.
-/

namespace Wrangle

open Dataset Compile

/-!
# Element-wise fragments
-/

def Node.IsApart (scope : Scope) (node : Node) : Prop :=
  forall inner, inner ∈ node.walk -> inner.isElementWise scope = true

namespace Request

/-- Fragments whose trees leave rows apart, each one where it sees the columns of those before. -/
def StepsApart : Scope -> List ResolvedFragment -> Prop
  | _, [] => True
  | scope, fragment :: rest =>
      fragment.node.IsApart scope ∧
        forall found, Compile.assigns scope .transform fragment.node = .ok found ->
          StepsApart (extendScope .transform scope (found.map Assign.name)) rest

/-- A request for computing columns, or for rows, whose fragments are element-wise: none of them
calls a row function, and their trees leave rows apart. -/
structure IsElementWise (verb : Verb) (request : Request) : Prop where
  count : request.mentionsCount = false
  rowNumber : request.mentionsRowNumber = false
  apart : match verb with
    | .mutate => StepsApart request.scope request.fragments
    | _ => forall fragment, fragment ∈ request.fragments -> fragment.node.IsApart request.scope

section

variable {request : Request} {verb : Verb}

theorem IsElementWise.fullScope (h : request.IsElementWise verb) :
    request.fullScope = request.scope := by
  simp [Request.fullScope, h.count, h.rowNumber]

theorem IsElementWise.rowColumns (h : request.IsElementWise verb) : request.rowColumns = [] := by
  simp [Request.rowColumns, h.count, h.rowNumber]

theorem IsElementWise.fragment (h : request.IsElementWise verb) {fragment : ResolvedFragment}
    (hf : fragment ∈ request.fragments) :
    fragment.mentionsCount = false ∧ fragment.mentionsRowNumber = false :=
  ⟨Bool.eq_false_iff.2 (List.any_eq_false.1 h.count fragment hf),
    Bool.eq_false_iff.2 (List.any_eq_false.1 h.rowNumber fragment hf)⟩

end

/-!
# Compiled fragments
-/

structure Ordinary (fragment : ResolvedFragment) : Prop where
  tells : fragment.Tells
  plain : Node.ArePlain fragment.node.walk
  count : fragment.mentionsCount = false
  rowNumber : fragment.mentionsRowNumber = false

theorem Ordinary.leavesRows {scope : Scope} {fragment : ResolvedFragment} (h : Ordinary fragment)
    (hapart : fragment.node.IsApart scope) :
    forall inner, inner ∈ fragment.node.walk -> inner.LeavesRows scope := by
  intro inner hinner
  constructor
  · exact hapart inner hinner
  · exact h.plain inner hinner
  · by_contra hcall
    have hcount := h.tells.count
      (List.any_eq_true.2 ⟨inner, hinner, Bool.eq_true_of_not_eq_false hcall⟩)
    rw [h.count] at hcount
    cases hcount
  · by_contra hcall
    have hnumber := h.tells.rowNumber
      (List.any_eq_true.2 ⟨inner, hinner, Bool.eq_true_of_not_eq_false hcall⟩)
    rw [h.rowNumber] at hnumber
    cases hnumber

theorem extendScope_summaries (scope : Scope) (names : List String) :
    (extendScope .transform scope names).summaries = scope.summaries := by
  show (scope.addColumns names).summaries = _
  rw [Scope.addColumns_eq]

theorem assigns_elementWise {scope : Scope} (hsummaries : scope.summaries = [])
    {fragments : List ResolvedFragment}
    (hordinary : forall fragment, fragment ∈ fragments -> Ordinary fragment)
    (hapart : StepsApart scope fragments) {found : List Assign}
    (h : assigns .transform scope fragments = .ok found) : AreElementWise found := by
  induction fragments generalizing scope found with
  | nil =>
      cases h
      intro a ha
      cases ha
  | cons fragment rest ih =>
      rcases List.forall_mem_cons.1 hordinary with ⟨hfirst, hothers⟩
      rcases bind_eq_ok_iff.1 h with ⟨one, hone, h⟩
      rcases bind_eq_ok_iff.1 h with ⟨others, hmore, h⟩
      cases h
      rw [inFragment_eq_ok_iff] at hone
      have hwise := Compile.assigns_elementWise hsummaries (hfirst.leavesRows hapart.1)
      rw [hone] at hwise
      have hrest := ih ((extendScope_summaries scope _).trans hsummaries) hothers
        (hapart.2 one hone) hmore
      intro a ha
      rcases List.mem_append.1 ha with ha | ha
      · rcases List.mem_map.1 ha with ⟨b, hb, rfl⟩
        exact hwise b hb
      · exact hrest a ha

theorem condition_elementWise {scope : Scope} (hsummaries : scope.summaries = [])
    {fragment : ResolvedFragment} (hordinary : Ordinary fragment)
    (hapart : fragment.node.IsApart scope) {a : Assign}
    (h : condition scope fragment = .ok a) : a.expr.isElementWise = true := by
  rcases bind_eq_ok_iff.1 (inFragment_eq_ok_iff.1 h) with ⟨e, he, h⟩
  cases h
  have hwise := Compile.condition_elementWise hsummaries (hordinary.leavesRows hapart)
  rw [he] at hwise
  exact hwise

theorem conditions_elementWise {scope : Scope} (hsummaries : scope.summaries = [])
    {fragments : List ResolvedFragment}
    (hordinary : forall fragment, fragment ∈ fragments -> Ordinary fragment)
    (hapart : forall fragment, fragment ∈ fragments -> fragment.node.IsApart scope)
    {found : List Assign} (h : fragments.mapM (condition scope) = .ok found) :
    AreElementWise found := by
  have hall : Gives AreElementWise (fragments.mapM (condition scope)) := by
    apply Ends.mapM
    intro fragment hf
    cases hcondition : condition scope fragment with
    | error failure => trivial
    | ok a =>
        exact condition_elementWise hsummaries (hordinary fragment hf) (hapart fragment hf)
          hcondition
  rw [h] at hall
  exact hall

end Request

namespace Invocation

variable {call : Invocation} {data result : Dataset} {found : List ResolvedFragment}

/-- A call whose fragments are element-wise on a dataset. -/
def IsElementWise (call : Invocation) (data : Dataset) : Prop :=
  forall request, call.request data = .ok request -> request.IsElementWise call.verb

theorem fragments_ordinary (hwise : call.IsElementWise data) (h : call.fragments = .ok found)
    {fragment : ResolvedFragment} (hf : fragment ∈ found) : Request.Ordinary fragment := by
  have hrequest := request_of_fragments h data
  have hplain := call.request_plain data
  rw [hrequest] at hplain
  rcases (hwise _ hrequest).fragment hf with ⟨hcount, hnumber⟩
  exact ⟨fragments_tell h hf, hplain fragment hf, hcount, hnumber⟩

theorem splits_of_flat (hdata : data.WellFormed) (hflat : data.groups = []) :
    data.Splits [Partition.whole data.nrows] data.groups := by
  refine splits_of_wellFormed hdata ?_ (dividesInto_of_flat hflat)
  constructor
  · exact hdata.keys
  · intro key hkey
    rw [hflat] at hkey
    cases hkey

/-!
# Added columns
-/

theorem dropped_withGroups (keys : List String) (data : Dataset) :
    (data.withGroups keys).dropped isReserved = (data.dropped isReserved).withGroups keys := by
  unfold dropped
  show (if data.header.any isReserved then _ else _) = _
  split
  · rfl
  · rfl

theorem mutate_withGroups (hverb : call.verb = .mutate) (hdata : data.WellFormed)
    (hflat : data.groups = []) (hpure : call.env.functions.MakeNoColumns)
    (hwise : call.IsElementWise data) {keys : List String} {groups : List Partition}
    (hgrouped : (data.withGroups keys).WellFormed)
    (hsplits : (data.withGroups keys).Splits groups keys)
    (hnone : forall plan, call.plan data = .ok plan -> plan.AssignsNone keys) {settings : Settings}
    (h : (call.run settings data).result = .ok result) :
    (call.run settings (data.withGroups keys)).result = .ok (result.withGroups keys) := by
  rcases (run_mutate hverb).1 h with ⟨found, hfound, hmutated⟩
  have hrequest := hwise _ (request_of_fragments hfound data)
  rcases (mutated_eq_ok_iff hdata).1 hmutated with
    ⟨assigns, wide, last, hassigns, hwide, hlast, rfl⟩
  have hset := setNone_of_plan hverb hnone hfound hassigns
  rw [hrequest.rowColumns] at hwide
  cases hwide
  have hassigns' := hassigns
  rw [hrequest.fullScope] at hassigns'
  have hapart := hrequest.apart
  rw [hverb] at hapart
  have helement : AreElementWise assigns := Request.assigns_elementWise rfl
    (fun _ hf => fragments_ordinary hwise hfound hf) hapart hassigns'
  refine (run_mutate hverb).2 ⟨found, hfound, (mutated_eq_ok_iff hgrouped).2
    ⟨assigns, data.withGroups keys, last.withGroups keys, hassigns, ?_, ?_, ?_⟩⟩
  · have hnone' : (call.requestOf (data.withGroups keys) found).rowColumns = [] :=
      hrequest.rowColumns
    rw [hnone']
    rfl
  · exact hsplits.transform_withGroups hpure hflat helement hset hlast
  · rw [dropped_withGroups]

/-!
# Kept rows
-/

theorem subset_nil {callers : CallerFunctions} (hdata : data.WellFormed) {groups : List Partition}
    (hsplits : data.Splits groups data.groups) : subset callers [] data = .ok data := by
  have hall : (List.range data.nrows).filter (groups.map Partition.rows).flatten.contains =
      List.range data.nrows := by
    rw [List.filter_eq_self]
    intro i hi
    rw [List.contains_iff_mem, ← List.flatMap_def]
    exact hsplits.cover.mem_iff.2 hi
  have hkept : (groups.mapM fun group => passingRows callers data.columns group.rows []) =
      .ok (groups.map Partition.rows) := mapM_eq_ok fun _ _ => rfl
  rw [subset_eq hdata.width hsplits.partitions, hkept]
  show Except.ok (data.keep _) = _
  rw [hall, keep, rowsAt, nrows, filterMap_getElem?_range]

theorem subset_header {callers : CallerFunctions} {conditions : List Assign}
    (h : subset callers conditions data = .ok result) : result.header = data.header := by
  rcases bind_eq_ok_iff.1 h with ⟨_, _, h⟩
  rcases bind_eq_ok_iff.1 h with ⟨_, _, h⟩
  cases h
  rfl

def conditionsOn (call : Invocation) (data : Dataset) (found : List ResolvedFragment) :
    Outcome (List Assign) :=
  found.mapM (Request.condition (call.requestOf data found).scope)

theorem filter_eq_ok_iff (hverb : call.verb = .filter) (hdata : data.WellFormed)
    {groups : List Partition} (hsplits : data.Splits groups data.groups)
    (hfound : call.fragments = .ok found)
    (hwise : (call.requestOf data found).IsElementWise call.verb) {settings : Settings} :
    (call.run settings data).result = .ok result <-> exists conditions,
      call.conditionsOn data found = .ok conditions ∧
        subset call.env.functions conditions data = .ok result := by
  have happly : forall conditions : List Assign, Operation.applyAll call.env.functions
      ((call.requestOf data found).enclosed
        (if conditions.isEmpty then [] else [.subset conditions])) data =
      subset call.env.functions conditions data := by
    intro conditions
    have hsome : Operation.applyAll call.env.functions
        (if conditions.isEmpty then [] else [.subset conditions]) data =
          subset call.env.functions conditions data := by
      cases conditions with
      | nil => exact (subset_nil hdata hsplits).symm
      | cons condition rest => exact Operation.applyAll_single _ data
    rw [Request.enclosed, hwise.rowColumns, List.nil_append, Operation.applyAll_append, hsome]
    cases hfound : subset call.env.functions conditions data with
    | error failure => rfl
    | ok next =>
        apply Request.dropReserved_of_unreserved
        rw [subset_header hfound]
        exact hdata.unreserved
  have hplan : call.verb.plan (call.requestOf data found) =
      (call.conditionsOn data found).bind fun conditions =>
        .ok ((call.requestOf data found).enclosed
          (if conditions.isEmpty then [] else [.subset conditions])) := by
    rw [hverb, conditionsOn, ← hwise.fullScope]
    rfl
  rw [run_eq_ok_iff]
  constructor
  · rintro ⟨other, ops, hother, hops, hresult⟩
    rw [hfound] at hother
    cases hother
    rw [hplan] at hops
    rcases bind_eq_ok_iff.1 hops with ⟨conditions, hconditions, hops⟩
    cases hops
    exact ⟨conditions, hconditions, (happly conditions).symm.trans hresult⟩
  · rintro ⟨conditions, hconditions, hresult⟩
    refine ⟨found, _, hfound, ?_, (happly conditions).trans hresult⟩
    rw [hplan, hconditions]
    rfl

theorem filter_withGroups (hverb : call.verb = .filter) (hdata : data.WellFormed)
    (hflat : data.groups = []) (hpure : call.env.functions.MakeNoColumns)
    (hwise : call.IsElementWise data) {keys : List String} {groups : List Partition}
    (hgrouped : (data.withGroups keys).WellFormed)
    (hsplits : (data.withGroups keys).Splits groups keys) {settings : Settings}
    (h : (call.run settings data).result = .ok result) :
    (call.run settings (data.withGroups keys)).result = .ok (result.withGroups keys) := by
  rcases run_eq_ok_iff.1 h with ⟨found, _, hfound, _, _⟩
  have hrequest := hwise _ (request_of_fragments hfound data)
  have hwhole := splits_of_flat hdata hflat
  rcases (filter_eq_ok_iff hverb hdata hwhole hfound hrequest).1 h with
    ⟨conditions, hconditions, hresult⟩
  have hapart := hrequest.apart
  rw [hverb] at hapart
  have helement := Request.conditions_elementWise rfl
    (fun _ hf => fragments_ordinary hwise hfound hf) hapart hconditions
  refine (filter_eq_ok_iff hverb hgrouped hsplits hfound ?_).2 ⟨conditions, hconditions,
    hsplits.subset_withGroups hpure hflat helement hresult⟩
  exact ⟨hrequest.count, hrequest.rowNumber, hrequest.apart⟩

/-!
# Conditions one after another
-/

theorem part_wellFormed (hdata : data.WellFormed) (positions : List Nat) :
    (data.part positions).WellFormed where
  nodup := hdata.nodup
  unreserved := hdata.unreserved
  width := part_hasWidth hdata.width
  keys := fun _ hkey => by cases hkey

theorem runAll_filter (hpure : call.env.functions.MakeNoColumns) {scope : Scope}
    (hscope : scope = Scope.ofColumns data.header call.registry call.env) {calls : List Invocation}
    (hcalls : forall piece, piece ∈ calls ->
      piece.verb = .filter ∧ piece.env = call.env ∧ piece.registry = call.registry)
    {parts : List (List ResolvedFragment)} (hparts : calls.mapM fragments = .ok parts)
    (hordinary : forall fragment, fragment ∈ parts.flatten -> Request.Ordinary fragment)
    (hapart : forall fragment, fragment ∈ parts.flatten -> fragment.node.IsApart scope)
    (hdata : data.WellFormed) (hflat : data.groups = []) {conditions : List Assign}
    (hconditions : parts.flatten.mapM (Request.condition scope) = .ok conditions)
    (h : subset call.env.functions conditions data = .ok result) {settings : Settings} :
    (runAll settings calls data).result = .ok result := by
  induction calls generalizing data parts conditions with
  | nil =>
      cases hparts
      cases hconditions
      have hall : subset call.env.functions [] data = .ok data :=
        subset_nil hdata (splits_of_flat hdata hflat)
      exact hall.symm.trans h
  | cons piece rest ih =>
      rcases List.forall_mem_cons.1 hcalls with ⟨⟨hverb, henv, hregistry⟩, hrest⟩
      rw [List.mapM_cons] at hparts
      rcases bind_eq_ok_iff.1 hparts with ⟨found, hfound, hparts⟩
      rcases bind_eq_ok_iff.1 hparts with ⟨others, hothers, hparts⟩
      cases hparts
      rw [List.flatten_cons] at hordinary hapart hconditions
      rw [List.forall_mem_append] at hordinary hapart
      rw [List.mapM_append] at hconditions
      rcases bind_eq_ok_iff.1 hconditions with ⟨first, hfirst, hconditions⟩
      rcases bind_eq_ok_iff.1 hconditions with ⟨more, hmore, hconditions⟩
      cases hconditions
      have hsame : (piece.requestOf data found).scope = scope := by
        rw [hscope, ← henv, ← hregistry]
        rfl
      have hrequest : (piece.requestOf data found).IsElementWise piece.verb := by
        constructor
        · exact List.any_eq_false.2 fun fragment hf =>
            Bool.eq_false_iff.1 (hordinary.1 fragment hf).count
        · exact List.any_eq_false.2 fun fragment hf =>
            Bool.eq_false_iff.1 (hordinary.1 fragment hf).rowNumber
        · rw [hverb, hsame]
          exact hapart.1
      have helement : AreElementWise more := by
        apply Request.conditions_elementWise _ hordinary.2 hapart.2 hmore
        rw [hscope]
        rfl
      rcases subset_append hpure hdata.nodup hdata.width hflat helement h with
        ⟨kept, hkept, hpart, hresult⟩
      have hpiece : (piece.run settings data).result = .ok (data.part kept) := by
        rw [filter_eq_ok_iff hverb hdata (splits_of_flat hdata hflat) hfound hrequest,
          conditionsOn, hsame, henv]
        exact ⟨first, hfirst, hpart⟩
      rw [runAll, Report.next_result, hpiece]
      exact ih hscope hrest hothers hordinary.2 hapart.2 (part_wellFormed hdata kept) rfl hmore
        hresult

theorem filter_eq_chain (hverb : call.verb = .filter) (hdata : data.WellFormed)
    (hflat : data.groups = []) (hpure : call.env.functions.MakeNoColumns)
    (hwise : call.IsElementWise data) {settings : Settings}
    (h : (call.run settings data).result = .ok result) :
    (runAll settings call.pieces data).result = .ok result := by
  rcases run_eq_ok_iff.1 h with ⟨found, _, hfound, _, _⟩
  have hrequest := hwise _ (request_of_fragments hfound data)
  have hordinary : forall fragment, fragment ∈ found -> Request.Ordinary fragment :=
    fun _ hf => fragments_ordinary hwise hfound hf
  have hapart := hrequest.apart
  rw [hverb] at hapart
  rcases (filter_eq_ok_iff hverb hdata (splits_of_flat hdata hflat) hfound hrequest).1 h with
    ⟨conditions, hconditions, hresult⟩
  rcases fragments_eq_ok_iff.1 hfound with ⟨parts, hparts, rfl⟩
  refine runAll_filter hpure rfl ?_ hparts hordinary hapart hdata hflat hconditions hresult
  intro piece hpiece
  rcases mem_pieces hpiece with ⟨hsame, henv, hregistry⟩
  exact ⟨hsame.trans hverb, henv, hregistry⟩

/-!
# Grouping by columns
-/

/-- A call that groups by columns. -/
def groupingBy (env : Environment) (registry : Registry) (keys : List String) : Invocation where
  verb := .groupBy
  values := keys.map .sym
  named := []
  env := env
  registry := registry

def nameFragment (name : String) : ResolvedFragment where
  node := .identifier name
  mentionsCount := false
  mentionsRowNumber := false
  source := name

section Grouping

variable {env : Environment} {registry : Registry} {keys : List String}

theorem groupingBy_fragments :
    (groupingBy env registry keys).fragments = .ok (keys.map nameFragment) := by
  have hsources : Verb.fragmentsOf (keys.map .sym) [] =
      .ok (keys.map fun key => (.identifier key, key)) := by
    have hmap : (keys.map Value.sym).mapM Verb.fragmentOf =
        .ok (keys.map fun key => (.identifier key, key)) := by
      rw [List.mapM_map]
      exact mapM_eq_ok fun _ _ => rfl
    rw [Verb.fragmentsOf, hmap]
    exact congrArg Except.ok (List.append_nil _)
  have hresolved : (keys.map fun key => (Node.identifier key, key)).mapM (resolved env) =
      .ok (keys.map fun key => [nameFragment key]) := by
    rw [List.mapM_map]
    exact mapM_eq_ok fun _ _ => rfl
  have hflat : (keys.map fun key => [nameFragment key]).flatten = keys.map nameFragment := by
    rw [← List.flatMap_def]
    exact List.flatMap_pure_eq_map ..
  show (Verb.fragmentsOf (keys.map .sym) [] >>= Interpolation.resolveAll env) = _
  rw [hsources, ok_bind, ← hflat]
  exact map_eq_ok_iff.2 ⟨_, hresolved, rfl⟩

theorem groupingBy_names (env : Environment) (registry : Registry) (keys : List String) :
    (groupingBy env registry keys).Names .groupBy keys := by
  refine ⟨rfl, keys.map nameFragment, groupingBy_fragments, ?_⟩
  rw [List.map_map]
  rfl

theorem groupingBy_run (env : Environment) (registry : Registry) (hdata : data.WellFormed)
    (hkeys : forall key, key ∈ keys -> key ∈ data.header) :
    exists found, (forall key, key ∈ found <-> key ∈ keys) ∧ forall settings,
      ((groupingBy env registry keys).run settings data).result =
        .ok (data.withGroups found) := by
  refine ⟨addedNames [] keys, ?_, (groupingBy_names env registry keys).run_groupBy hdata hkeys⟩
  intro key
  rw [mem_addedNames_iff]
  simp

end Grouping

/-!
# Element-wise calls
-/

/-- What an element-wise call adds to a flat dataset it adds to the dataset grouped by columns that
it does not set, and what it keeps of a flat dataset it keeps of the dataset grouped by any columns.
And what it keeps by several conditions is what calls for one condition each keep one after
another. -/
theorem elementWise_groups_and_chains (hverb : call.verb = .mutate ∨ call.verb = .filter)
    (hdata : data.WellFormed) (hflat : data.groups = [])
    (hpure : call.env.functions.MakeNoColumns) (hwise : call.IsElementWise data)
    (settings : Settings) (h : (call.run settings data).result = .ok result) :
    (forall (env : Environment) (registry : Registry) (keys : List String),
      (data.withGroups keys).KeysAre Value.isDiscrete ->
      (call.verb = .mutate -> forall plan, call.plan data = .ok plan -> plan.AssignsNone keys) ->
      exists found, (forall key, key ∈ found <-> key ∈ keys) ∧
        ((groupingBy env registry keys).run settings data).result = .ok (data.withGroups found) ∧
        (call.run settings (data.withGroups found)).result = .ok (result.withGroups found)) ∧
      (call.verb = .filter -> (runAll settings call.pieces data).result = .ok result) := by
  constructor
  · intro env registry keys hkeys hnone
    rcases groupingBy_run env registry hdata hkeys.present with ⟨found, hfound, hgrouping⟩
    have hsame := keysAre_withGroups hkeys hfound
    have hgrouped := withGroups_wellFormed hdata hsame.present
    rcases exists_dividesInto hgrouped.width hsame with ⟨groups, hgroups⟩
    have hsplits := splits_of_wellFormed hgrouped hsame hgroups
    refine ⟨found, hfound, hgrouping settings, ?_⟩
    rcases hverb with hverb | hverb
    · apply mutate_withGroups hverb hdata hflat hpure hwise hgrouped hsplits _ h
      intro plan hplan assigns hassigns a ha hmem
      exact hnone hverb plan hplan assigns hassigns a ha ((hfound a.name).1 hmem)
    · exact filter_withGroups hverb hdata hflat hpure hwise hgrouped hsplits h
  · intro hfilter
    exact filter_eq_chain hfilter hdata hflat hpure hwise h

/-- A flat dataset with a column of numbers and one of truth values. -/
def scores : Dataset :=
  flat ["k", "x", "b"]
    [[.str "u", .int 2, .bool true], [.str "v", .int 3, .bool false], [.str "u", .int 1, .missing]]

theorem scores_wellFormed : scores.WellFormed := by decide

def filterGreater : Invocation :=
  { copyColumn with verb := .filter, values := [.str "x > 1", .sym "b"], named := [] }

def mutateGreater : Invocation :=
  { copyColumn with values := [.str "x > 1"], named := [] }

def comparingFragment : ResolvedFragment where
  node := .binary ">" (.identifier "x") (.literal (.int 1))
  mentionsCount := false
  mentionsRowNumber := false
  source := "x > 1"

theorem fragmentOf_comparing :
    Verb.fragmentOf (.str "x > 1") = .ok (comparingFragment.node, "x > 1") := by
  have hts : tokenize "x > 1" =
      .ok [⟨.identifier "x", 0⟩, ⟨.symbol .greater, 2⟩, ⟨.integer 1, 4⟩, ⟨.finish, 5⟩] := rfl
  exact fragmentOf_text (by decide) hts rfl

theorem comparingFragment_apart {scope : Scope} (hregistry : scope.registry = Registry.standard) :
    comparingFragment.node.IsApart scope := by
  intro inner hinner
  simp only [comparingFragment, Node.binary, Node.walk, Node.walkAll, Node.walkNamed,
    List.mem_cons, List.mem_append, List.not_mem_nil, or_false] at hinner
  rcases hinner with rfl | rfl | rfl
  · rw [Node.isElementWise, hregistry]
    rfl
  · rfl
  · rfl

theorem filterGreater_fragments :
    filterGreater.fragments = .ok [comparingFragment, nameFragment "b"] := by
  unfold fragments Verb.fragmentsOf
  simp only [filterGreater, List.mapM_cons, List.mapM_nil, fragmentOf_comparing]
  rfl

theorem filterGreater_run : (filterGreater.run Settings.initial scores).result =
    .ok (flat ["k", "x", "b"] [[.str "u", .int 2, .bool true]]) :=
  run_eq_ok_iff.2 ⟨_, _, filterGreater_fragments, rfl, rfl⟩

theorem filterGreater_elementWise : filterGreater.IsElementWise scores := by
  intro request hrequest
  rw [request_of_fragments filterGreater_fragments] at hrequest
  cases hrequest
  refine ⟨rfl, rfl, ?_⟩
  intro fragment hf
  simp only [requestOf, List.mem_cons, List.not_mem_nil, or_false] at hf
  rcases hf with rfl | rfl
  · exact comparingFragment_apart rfl
  · intro inner hinner
    simp only [nameFragment, Node.walk, List.mem_singleton] at hinner
    rw [hinner]
    rfl

theorem mutateGreater_fragments : mutateGreater.fragments = .ok [comparingFragment] := by
  unfold fragments Verb.fragmentsOf
  simp only [mutateGreater, List.mapM_cons, List.mapM_nil, fragmentOf_comparing]
  rfl

theorem mutateGreater_operations : mutateGreater.operations scores =
    .ok [.transform [{ name := "x > 1"
                       expr := .broadcast ">" (.binary .greater) [.column "x", .literal (.int 1)] []
                       source := some "x > 1" }],
      .dropReserved] :=
  operations_of_request (request_of_fragments mutateGreater_fragments scores) rfl

theorem mutateGreater_run : (mutateGreater.run Settings.initial scores).result =
    .ok (flat ["k", "x", "b", "x > 1"]
      [[.str "u", .int 2, .bool true, .bool true], [.str "v", .int 3, .bool false, .bool true],
        [.str "u", .int 1, .missing, .bool false]]) :=
  run_eq_ok_iff.2 ⟨_, _, mutateGreater_fragments, rfl, rfl⟩

theorem mutateGreater_elementWise : mutateGreater.IsElementWise scores := by
  intro request hrequest
  rw [request_of_fragments mutateGreater_fragments] at hrequest
  cases hrequest
  exact ⟨rfl, rfl, comparingFragment_apart rfl, fun _ _ => trivial⟩

theorem scores_discreteKeys : (scores.withGroups ["k"]).KeysAre Value.isDiscrete := by
  constructor
  · decide
  · intro key hkey row hrow
    simp only [withGroups, scores, flat, List.mem_cons, List.not_mem_nil, or_false] at hkey hrow
    subst hkey
    rcases hrow with rfl | rfl | rfl
    · rfl
    · rfl
    · rfl

/-- The column that a comparison adds to a flat dataset it adds to the grouped one.  The row that
the comparison and a column keep they keep of the grouped dataset too, and one after the other. -/
theorem elementWise_groups_and_chains_filterGreater :
    (exists found, (forall key, key ∈ found <-> key ∈ ["k"]) ∧
      (mutateGreater.run Settings.initial (scores.withGroups found)).result =
        .ok ((flat ["k", "x", "b", "x > 1"]
          [[.str "u", .int 2, .bool true, .bool true], [.str "v", .int 3, .bool false, .bool true],
            [.str "u", .int 1, .missing, .bool false]]).withGroups found)) ∧
      (exists found, (forall key, key ∈ found <-> key ∈ ["k"]) ∧
        (filterGreater.run Settings.initial (scores.withGroups found)).result =
          .ok ((flat ["k", "x", "b"] [[.str "u", .int 2, .bool true]]).withGroups found)) ∧
      (runAll Settings.initial filterGreater.pieces scores).result =
        .ok (flat ["k", "x", "b"] [[.str "u", .int 2, .bool true]]) := by
  have hpure : forall call : Invocation, call.env = Environment.empty ->
      call.env.functions.MakeNoColumns := by
    intro call henv
    rw [henv]
    exact CallerFunctions.empty_makeNoColumns
  have hnone : forall plan, mutateGreater.plan scores = .ok plan -> plan.AssignsNone ["k"] := by
    intro plan hplan assigns hassigns a ha
    rw [Invocation.plan, mutateGreater_operations] at hplan
    cases hplan
    simp only [Plan.ofOperations, List.map_cons, List.map_nil, List.mem_cons, List.not_mem_nil,
      or_false, Step.operation.injEq, Operation.transform.injEq, reduceCtorEq] at hassigns
    subst hassigns
    rw [List.mem_singleton.1 ha]
    decide
  rcases elementWise_groups_and_chains (Or.inl rfl) scores_wellFormed rfl
    (hpure mutateGreater rfl) mutateGreater_elementWise Settings.initial mutateGreater_run with
    ⟨hmutate, _⟩
  rcases hmutate Environment.empty Registry.standard ["k"] scores_discreteKeys fun _ => hnone with
    ⟨found, hfound, _, hmarked⟩
  rcases elementWise_groups_and_chains (Or.inr rfl) scores_wellFormed rfl
    (hpure filterGreater rfl) filterGreater_elementWise Settings.initial filterGreater_run with
    ⟨hfilter, hchain⟩
  have hother : filterGreater.verb = .mutate -> forall plan, filterGreater.plan scores = .ok plan ->
      plan.AssignsNone ["k"] := by
    intro hverb
    cases hverb
  rcases hfilter Environment.empty Registry.standard ["k"] scores_discreteKeys hother with
    ⟨others, hothers, _, hchosen⟩
  exact ⟨⟨found, hfound, hmarked⟩, ⟨others, hothers, hchosen⟩, hchain rfl⟩

end Invocation

end Wrangle
