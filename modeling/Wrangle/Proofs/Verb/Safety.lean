import Wrangle.Proofs.Dataset.Failures

/-!
# Compiled plans run safely

A plan that a verb compiles to finds all columns that it reads, step by step, and
fails with errors for the user.  Sorting is the one step from which a fault can get
out: where the sorting columns hold an undefined number beside a decimal.  Only a
function from outside can end the program.
-/

namespace Wrangle

open Compile

/-!
# Well-formed datasets
-/

/-- Distinct columns without reserved names, rows as wide as the header, and keys that are there. -/
structure Dataset.WellFormed (data : Dataset) : Prop where
  nodup : data.header.Nodup
  unreserved : forall name, name ∈ data.header -> isReserved name = false
  width : data.HasWidth
  keys : forall key, key ∈ data.groups -> key ∈ data.header

instance (data : Dataset) : Decidable data.WellFormed :=
  decidable_of_iff
    (data.header.Nodup ∧ (forall name, name ∈ data.header -> isReserved name = false) ∧
      (forall row, row ∈ data.rows -> row.length = data.header.length) ∧
      forall key, key ∈ data.groups -> key ∈ data.header)
    ⟨fun ⟨hnodup, hunreserved, hwidth, hkeys⟩ => ⟨hnodup, hunreserved, hwidth, hkeys⟩,
      fun h => ⟨h.nodup, h.unreserved, h.width, h.keys⟩⟩

def Dataset.HasPlainCells (data : Dataset) : Prop :=
  forall row, row ∈ data.rows -> forall value, value ∈ row -> value.isPlain = true

theorem Dataset.WellFormed.ready {data : Dataset} (h : data.WellFormed)
    (hplain : data.HasPlainCells) : data.Ready data.header where
  names := fun _ hname => hname
  width := h.width
  keys := by
    constructor
    · exact h.keys
    · intro key hkey row hrow
      have hlt : data.header.idxOf key < row.length := by
        rw [h.width row hrow]
        exact List.idxOf_lt_length_of_mem (h.keys key hkey)
      exact hplain row hrow _ (List.mem_of_getElem? (cellAt_eq hlt))

/-!
# Steps
-/

namespace Operation

/-- All columns that an operation reads are in the dataset, or are computed by it before. -/
def Sees (data : Dataset) : Operation -> Prop
  | transform assigns => Seen data.header assigns
  | summarize assigns => Seen data.header assigns
  | subset conditions => AllWithin data.header conditions
  | select items => ItemsWithin data.header items
  | sort keys => forall key, key ∈ keys -> key.column ∈ data.header
  | _ => True

/-- Some of the expressions of an operation call a function from outside. -/
def CallsOut : Operation -> Prop
  | transform assigns => Assign.AnyCallsOut assigns
  | summarize assigns => Assign.AnyCallsOut assigns
  | subset conditions => Assign.AnyCallsOut conditions
  | select items => SelectionItem.AnyCallsOut items
  | _ => False

/-- How an operation may fail: for the user, at a sort of undefined numbers and decimals, or with
the end of the program in a call to the outside. -/
def MayFail (data : Dataset) (op : Operation) : Failure -> Prop
  | .user _ => True
  | .fault .exit => op.CallsOut
  | .fault (.raised f) => f = .tooManyDigits ∨ (f = .invalidDecimal ∧
      exists keys, op = sort keys ∧ exists key, key ∈ keys ∧ data.ColumnUndefined key.column)

theorem mayFail_of_harmless {data : Dataset} {op : Operation} {failure : Failure}
    (h : failure.IsHarmless op.CallsOut) : op.MayFail data failure := by
  cases failure with
  | user e => trivial
  | fault f =>
      cases f with
      | raised f => exact Or.inl h
      | exit => exact h

end Operation

def RunsSafely (callers : CallerFunctions) (good : Dataset -> Prop) :
    List Operation -> Dataset -> Prop
  | [], data => good data
  | op :: rest, data =>
      op.Sees data ∧ Ends (op.MayFail data) (RunsSafely callers good rest) (op.apply callers data)

namespace RunsSafely

variable {callers : CallerFunctions} {good better : Dataset -> Prop}

theorem weaken {ops : List Operation} {data : Dataset} (h : RunsSafely callers good ops data)
    (hgood : forall d, good d -> better d) : RunsSafely callers better ops data := by
  induction ops generalizing data with
  | nil => exact hgood data h
  | cons op rest ih => exact ⟨h.1, h.2.weaken fun _ hrest => ih hrest⟩

theorem append {ops more : List Operation} {data : Dataset}
    (h : RunsSafely callers (RunsSafely callers good more) ops data) :
    RunsSafely callers good (ops ++ more) data := by
  induction ops generalizing data with
  | nil => exact h
  | cons op rest ih => exact ⟨h.1, h.2.weaken fun _ hrest => ih hrest⟩

theorem single {op : Operation} {data : Dataset} (hsees : op.Sees data)
    (h : Ends (Failure.IsHarmless op.CallsOut) good (op.apply callers data)) :
    RunsSafely callers good [op] data :=
  ⟨hsees, h.imp (fun _ => Operation.mayFail_of_harmless) (fun _ hd => hd)⟩

theorem sees {before : List Operation} {op : Operation} {after : List Operation}
    {data seen : Dataset} (h : RunsSafely callers good (before ++ op :: after) data)
    (hrun : Plan.runSteps callers (before.map Step.operation) data = .ok seen) :
    op.Sees seen := by
  induction before generalizing data with
  | nil =>
      cases hrun
      exact h.1
  | cons first rest ih =>
      rw [List.map_cons, Plan.runSteps, bind_eq_ok_iff] at hrun
      rcases hrun with ⟨next, hnext, hrun⟩
      have hrest := h.2
      have happly : first.apply callers data = .ok next := hnext
      rw [happly] at hrest
      exact ih hrest hrun

/-- The only step from which a fault gets out is a sort of undefined numbers and decimals. -/
theorem fault {ops : List Operation} {data : Dataset} {f : Fault}
    (h : RunsSafely callers good ops data)
    (hrun : Plan.runSteps callers (ops.map Step.operation) data = .error (.fault f)) :
    f = .tooManyDigits ∨ (f = .invalidDecimal ∧
      exists before keys after seen, ops = before ++ Operation.sort keys :: after ∧
        Plan.runSteps callers (before.map Step.operation) data = .ok seen ∧
        seen.sort keys = .error (.fault Fault.invalidDecimal) ∧
        exists key, key ∈ keys ∧ seen.ColumnUndefined key.column) := by
  induction ops generalizing data with
  | nil => cases hrun
  | cons op rest ih =>
      have hrest := h.2
      have hstep : Step.apply callers data (.operation op) = op.apply callers data := rfl
      rw [List.map_cons, Plan.runSteps, hstep] at hrun
      cases happly : op.apply callers data with
      | error failure =>
          rw [happly] at hrest hrun
          cases hrun
          rcases hrest with hf | ⟨hf, keys, hop, hmet⟩
          · exact Or.inl hf
          · subst hf hop
            exact Or.inr ⟨rfl, [], keys, rest, data, rfl, rfl, happly, hmet⟩
      | ok next =>
          rw [happly] at hrest hrun
          rcases ih hrest hrun with hf | ⟨hf, before, keys, after, seen, hops, hseen, hmet⟩
          · exact Or.inl hf
          · refine Or.inr ⟨hf, op :: before, keys, after, seen, ?_, ?_, hmet⟩
            · rw [hops, List.cons_append]
            · rw [List.map_cons, Plan.runSteps, hstep, happly]
              exact hseen

theorem exit {ops : List Operation} {data : Dataset} (h : RunsSafely callers good ops data)
    (hrun : Plan.runSteps callers (ops.map Step.operation) data = .error (.fault .exit)) :
    exists op, op ∈ ops ∧ op.CallsOut := by
  induction ops generalizing data with
  | nil => cases hrun
  | cons op rest ih =>
      have hrest := h.2
      have hstep : Step.apply callers data (.operation op) = op.apply callers data := rfl
      rw [List.map_cons, Plan.runSteps, hstep] at hrun
      cases happly : op.apply callers data with
      | error failure =>
          rw [happly] at hrest hrun
          cases hrun
          exact ⟨op, List.mem_cons_self, hrest⟩
      | ok next =>
          rw [happly] at hrest hrun
          rcases ih hrest hrun with ⟨other, hother, hout⟩
          exact ⟨other, List.mem_cons_of_mem _ hother, hout⟩

/-- Operations without a sort fail for the user only, or in a call to the outside. -/
theorem harmless {ops : List Operation} {data : Dataset} (h : RunsSafely callers good ops data)
    (hsort : forall keys, Operation.sort keys ∉ ops) :
    Ends (Failure.IsHarmless (exists op, op ∈ ops ∧ op.CallsOut)) (fun _ => True)
      (Plan.runSteps callers (ops.map Step.operation) data) := by
  cases hrun : Plan.runSteps callers (ops.map Step.operation) data with
  | ok result => trivial
  | error failure =>
      cases failure with
      | user e => trivial
      | fault f =>
          cases f with
          | raised f =>
              rcases h.fault hrun with hdigits | ⟨_, before, keys, after, _, rfl, _⟩
              · exact hdigits
              · exact absurd (List.mem_append_right _ List.mem_cons_self) (hsort keys)
          | exit => exact h.exit hrun

end RunsSafely

/-!
# Reserved columns
-/

namespace Request

theorem isReserved_countColumn : isReserved countColumn = true :=
  isReserved_append "n"

theorem isReserved_rowNumberColumn : isReserved rowNumberColumn = true :=
  isReserved_append "row_number"

/-- A request on a dataset that can be divided into groups by keys without reserved names. -/
structure IsReady (request : Request) : Prop where
  honest : request.IsHonest
  scope : request.scope.columns = request.data.header
  ready : request.data.Ready request.data.header
  unreserved : forall key, key ∈ request.data.groups -> isReserved key = false

variable {callers : CallerFunctions} {request : Request}

def HasScope (request : Request) (data : Dataset) : Prop :=
  data.Ready request.fullScope.columns ∧ data.groups = request.data.groups

theorem addColumn_safe {op : Operation} {column : String} {names : List String} {data : Dataset}
    {values : List Partition -> List Value} (hdata : data.Ready names)
    (hcolumn : column ∉ data.groups) (hsees : op.Sees data)
    (happly : forall groups, data.partitions = .ok groups ->
      op.apply callers data = .ok (data.setColumn column (values groups))) :
    RunsSafely callers (fun d => d.Ready (names ++ [column]) ∧ d.groups = data.groups) [op]
      data := by
  rcases Dataset.exists_partitions hdata.width hdata.keys with ⟨groups, hgroups⟩
  apply RunsSafely.single hsees
  rw [happly groups hgroups]
  exact ⟨hdata.setColumn hcolumn _, Dataset.setColumn_groups _ _ _⟩

theorem addRowCount_safe {names : List String} {data : Dataset} (hdata : data.Ready names)
    (hcolumn : countColumn ∉ data.groups) :
    RunsSafely callers (fun d => d.Ready (names ++ [countColumn]) ∧ d.groups = data.groups)
      [.addRowCount countColumn] data :=
  addColumn_safe hdata hcolumn trivial fun groups hgroups => by
    rw [Operation.apply, hgroups]
    rfl

theorem addRowNumber_safe {names : List String} {data : Dataset} (hdata : data.Ready names)
    (hcolumn : rowNumberColumn ∉ data.groups) :
    RunsSafely callers (fun d => d.Ready (names ++ [rowNumberColumn]) ∧ d.groups = data.groups)
      [.addRowNumber rowNumberColumn] data :=
  addColumn_safe hdata hcolumn trivial fun groups hgroups => by
    rw [Operation.apply, hgroups]
    rfl

theorem mem_fullScope {name : String} (h : name ∈ request.fullScope.columns) :
    name ∈ request.scope.columns ∨ (request.mentionsCount = true ∧ name = countColumn) ∨
      (request.mentionsRowNumber = true ∧ name = rowNumberColumn) := by
  unfold fullScope at h
  dsimp only at h
  split at h
  · rename_i hnumber
    rw [Scope.mem_addColumn_iff] at h
    rcases h with h | h
    · split at h
      · rename_i hcount
        rcases Scope.mem_addColumn_iff.1 h with h | h
        · exact Or.inl h
        · exact Or.inr (Or.inl ⟨hcount, h⟩)
      · exact Or.inl h
    · exact Or.inr (Or.inr ⟨hnumber, h⟩)
  · split at h
    · rename_i hcount
      rcases Scope.mem_addColumn_iff.1 h with h | h
      · exact Or.inl h
      · exact Or.inr (Or.inl ⟨hcount, h⟩)
    · exact Or.inl h

theorem notMem_groups_of_isReserved (h : request.IsReady) {column : String}
    (hcolumn : isReserved column = true) : column ∉ request.data.groups := by
  intro hmem
  rw [h.unreserved column hmem] at hcolumn
  cases hcolumn

theorem rowColumns_safe (h : request.IsReady) :
    RunsSafely callers request.HasScope request.rowColumns request.data := by
  have hcount := notMem_groups_of_isReserved h isReserved_countColumn
  have hnumber := notMem_groups_of_isReserved h isReserved_rowNumberColumn
  have hscope : forall {data : Dataset} {names : List String}, data.Ready names ->
      data.groups = request.data.groups ->
      (forall name, name ∈ request.data.header -> name ∈ names) ->
      (request.mentionsCount = true -> countColumn ∈ names) ->
      (request.mentionsRowNumber = true -> rowNumberColumn ∈ names) -> request.HasScope data := by
    intro data names hdata hgroups hheader hc hn
    refine ⟨hdata.mono ?_, hgroups⟩
    intro name hname
    rcases mem_fullScope hname with hname | ⟨hm, rfl⟩ | ⟨hm, rfl⟩
    · exact hheader name (h.scope ▸ hname)
    · exact hc hm
    · exact hn hm
  unfold rowColumns
  apply RunsSafely.append
  by_cases hc : request.mentionsCount = true
  · rw [if_pos hc]
    apply (addRowCount_safe h.ready hcount).weaken
    rintro data ⟨hdata, hgroups⟩
    by_cases hn : request.mentionsRowNumber = true
    · rw [if_pos hn]
      rw [← hgroups] at hnumber
      apply (addRowNumber_safe hdata hnumber).weaken
      rintro result ⟨hresult, hsame⟩
      exact hscope hresult (hsame.trans hgroups) (fun name hname => by simp [hname])
        (fun _ => by simp) (fun _ => by simp)
    · rw [if_neg hn]
      exact hscope hdata hgroups (fun name hname => by simp [hname]) (fun _ => by simp)
        (fun hn' => absurd hn' hn)
  · rw [if_neg hc]
    by_cases hn : request.mentionsRowNumber = true
    · rw [if_pos hn]
      apply (addRowNumber_safe h.ready hnumber).weaken
      rintro data ⟨hdata, hgroups⟩
      exact hscope hdata hgroups (fun name hname => by simp [hname])
        (fun hc' => absurd hc' hc) (fun _ => by simp)
    · rw [if_neg hn]
      exact hscope h.ready rfl (fun _ hname => hname) (fun hc' => absurd hc' hc)
        (fun hn' => absurd hn' hn)

/-!
# Verbs
-/

theorem dropReserved_safe (data : Dataset) :
    RunsSafely callers (fun _ => True) [.dropReserved] data := by
  apply RunsSafely.single
  · trivial
  · rw [Operation.apply, Operation.drop]
    split
    · exact Dataset.checked_harmless _
    · trivial

theorem regroup_safe (keys : List String) (data : Dataset) :
    RunsSafely callers (fun _ => True) [.regroup keys] data := by
  apply RunsSafely.single
  · trivial
  · exact Dataset.regroup_harmless data keys

/-- No column that operations compute is among some keys. -/
def AssignsNone (keys : List String) (ops : List Operation) : Prop :=
  forall assigns, Operation.transform assigns ∈ ops -> forall a, a ∈ assigns -> a.name ∉ keys

theorem enclosed_safe (h : request.IsReady) {ops : List Operation}
    (hops : forall data, request.HasScope data -> RunsSafely callers (fun _ => True) ops data) :
    RunsSafely callers (fun _ => True) (request.enclosed ops) request.data := by
  apply RunsSafely.append
  apply RunsSafely.append
  apply (rowColumns_safe h).weaken
  intro data hdata
  apply (hops data hdata).weaken
  intro result _
  exact dropReserved_safe result

theorem transformOf_safe {names : List String} {assigns : List Assign} {data : Dataset}
    (hdata : data.Ready names) (hseen : Seen names assigns)
    (hkeys : forall a, a ∈ assigns -> a.name ∉ data.groups) :
    RunsSafely callers (fun d => d.Ready (names ++ assigns.map Assign.name)) (transformOf assigns)
      data := by
  unfold transformOf
  split
  · rename_i hempty
    rw [List.isEmpty_iff.1 hempty]
    simpa [RunsSafely] using hdata
  · apply RunsSafely.single
    · exact hseen.mono hdata.names
    · exact (Dataset.transform_harmless callers hdata hseen hkeys id).weaken fun _ hd => hd.1

theorem covers_fragments (h : request.IsReady) :
    forall fragment, fragment ∈ request.fragments ->
      Covers request.fullScope.columns request.fullScope fragment.node.walk :=
  fun _ hf => h.honest.covers hf

theorem planMutate_safe (h : request.IsReady) :
    Gives (fun ops => AssignsNone request.data.groups ops ->
      RunsSafely callers (fun _ => True) ops request.data) request.planMutate := by
  unfold planMutate
  apply Ends.bind (assigns_seen (covers_fragments h))
  intro found hseen hnone
  apply enclosed_safe h
  intro data hdata
  apply (transformOf_safe hdata.1 hseen ?_).weaken fun _ _ => trivial
  intro a ha
  rw [hdata.2]
  apply hnone found _ a ha
  unfold enclosed transformOf
  rw [if_neg (by
    rw [List.isEmpty_iff]
    rintro rfl
    cases ha)]
  simp

theorem planSelect_safe (h : request.IsReady) :
    Gives (RunsSafely callers (fun _ => True) · request.data) request.planSelect := by
  unfold planSelect
  apply Ends.bind (selection_within ?_)
  · intro items hitems
    apply enclosed_safe h
    intro data hdata
    have hwithin : ItemsWithin data.header items := by
      intro item hitem
      have hi := hitems item hitem
      cases item with
      | computed assign => exact Expr.Within.mono hi hdata.1.names
      | picked pick => exact hdata.1.names _ hi
    apply RunsSafely.single
    · exact hwithin
    · exact Dataset.select_harmless callers
        ⟨fun _ hname => hname, hdata.1.width, hdata.1.keys⟩ hwithin id
  · intro fragment hfragment
    rcases List.mem_map.1 hfragment with ⟨resolved, hresolved, rfl⟩
    exact covers_fragments h resolved hresolved

theorem planSummarize_safe (h : request.IsReady) :
    Gives (RunsSafely callers (fun _ => True) · request.data) request.planSummarize := by
  unfold planSummarize
  apply Ends.bind (assigns_seen (covers_fragments h))
  intro found hseen
  apply RunsSafely.append
  apply (enclosed_safe h ?_).weaken
  · intro data _
    split
    · trivial
    · exact regroup_safe _ data
  · intro data hdata
    apply RunsSafely.single
    · exact hseen.mono hdata.1.names
    · exact Dataset.summarize_harmless callers hdata.1 hseen id

theorem planFilter_safe (h : request.IsReady) :
    Gives (RunsSafely callers (fun _ => True) · request.data) request.planFilter := by
  unfold planFilter
  apply Ends.bind (Ends.mapM fun fragment hf => condition_gives (covers_fragments h fragment hf))
  intro conditions hwithin
  apply enclosed_safe h
  intro data hdata
  split
  · trivial
  · apply RunsSafely.single
    · exact fun a ha => (hwithin a ha).mono hdata.1.names
    · exact Dataset.subset_harmless callers hdata.1 hwithin id

theorem sort_safe {keys : List SortKey} {names : List String} {data : Dataset}
    (hdata : data.Ready names) (hkeys : forall key, key ∈ keys -> key.column ∈ names) :
    RunsSafely callers (fun _ => True) [.sort keys] data := by
  have hpresent : forall key, key ∈ keys -> key.column ∈ data.header :=
    fun key hkey => hdata.names _ (hkeys key hkey)
  refine ⟨hpresent, ?_⟩
  apply (Dataset.sort_ends keys hdata.width hpresent).imp
  · intro failure hfailure
    cases failure with
    | user e => trivial
    | fault f =>
        rcases hfailure with ⟨rfl, hmet⟩
        exact Or.inr ⟨rfl, keys, rfl, hmet⟩
  · intro _ _
    trivial

theorem whileFlat_safe {ops : List Operation} {names : List String} {data : Dataset}
    (hdata : data.Ready names)
    (hops : forall d : Dataset, d.Ready names -> d.groups = [] ->
      RunsSafely callers (fun _ => True) ops d) (hgroups : data.groups = request.data.groups) :
    RunsSafely callers (fun _ => True) (request.whileFlat ops) data := by
  unfold whileFlat
  split
  · rename_i hkeys
    apply hops data hdata
    rw [hgroups]
    exact List.isEmpty_iff.1 hkeys
  · apply RunsSafely.append
    apply RunsSafely.append
    have hflat : data.ungroup.Ready names := by
      refine ⟨hdata.names, hdata.width, ?_⟩
      constructor
      · intro key hkey
        cases hkey
      · intro key hkey
        cases hkey
    refine ⟨trivial, ?_⟩
    apply (hops data.ungroup hflat rfl).weaken
    intro result _
    exact regroup_safe _ result

theorem planArrange_safe (h : request.IsReady) :
    Gives (RunsSafely callers (fun _ => True) · request.data) request.planArrange := by
  unfold planArrange
  split
  · trivial
  · apply Ends.bind (sortKeys_gives (covers_fragments h))
    rintro ⟨found, keys⟩ hsorts
    apply RunsSafely.append
    apply (rowColumns_safe h).weaken
    intro data hdata
    apply whileFlat_safe hdata.1 ?_ hdata.2
    intro flat hflat hgroups
    apply RunsSafely.append
    apply RunsSafely.append
    apply (transformOf_safe hflat (seen_of_allWithin hsorts.within) ?_).weaken
    · intro result hresult
      apply (sort_safe hresult ?_).weaken
      · intro sorted _
        exact dropReserved_safe sorted
      · intro key hkey
        exact List.mem_append.2 (hsorts.keys key hkey)
    · intro a _
      rw [hgroups]
      exact List.not_mem_nil

end Request

/-!
# Plans
-/

/-- The verbs that compute, choose or order by columns. -/
def Verb.readsColumns : Verb -> Bool
  | .select | .transmute | .mutate | .summarize | .summarise | .filter | .arrange => true
  | _ => false

namespace Plan

/-- No column that a plan computes is among some keys. -/
def AssignsNone (plan : Plan) (keys : List String) : Prop :=
  forall assigns, .operation (.transform assigns) ∈ plan.steps ->
    forall a, a ∈ assigns -> a.name ∉ keys

/-- The run of a plan reaches a sort that stops, because a column that it sorts by holds an
undefined number beside a decimal. -/
def StopsAtSort (callers : CallerFunctions) (plan : Plan) (data : Dataset) : Prop :=
  exists before keys after seen, plan.steps = before ++ .operation (.sort keys) :: after ∧
    runSteps callers before data = .ok seen ∧
    seen.sort keys = .error (.fault Fault.invalidDecimal) ∧
    exists key, key ∈ keys ∧ seen.ColumnUndefined key.column

/-- Some of the expressions of a plan call a function from outside. -/
def CallsOut (plan : Plan) : Prop :=
  exists op, .operation op ∈ plan.steps ∧ op.CallsOut

theorem run_of_stopsAtSort {callers : CallerFunctions} {plan : Plan} {data : Dataset}
    (h : plan.StopsAtSort callers data) :
    plan.run callers data = .error (.fault Fault.invalidDecimal) := by
  rcases h with ⟨before, keys, after, seen, hsteps, hseen, hsort, _⟩
  have hstep : Step.apply callers seen (.operation (.sort keys)) = seen.sort keys := rfl
  rw [run, hsteps, runSteps_append, hseen, ok_bind, runSteps, hstep, hsort, error_bind]

end Plan

namespace Verb

variable {callers : CallerFunctions} {request : Request}

theorem plan_safe {verb : Verb} (hverb : verb.readsColumns = true) (h : request.IsReady) :
    Gives (fun ops => Request.AssignsNone request.data.groups ops ->
      RunsSafely callers (fun _ => True) ops request.data) (verb.plan request) := by
  cases verb <;> cases hverb
  · exact (Request.planSelect_safe h).weaken fun _ hops _ => hops
  · exact (Request.planSelect_safe h).weaken fun _ hops _ => hops
  · exact Request.planMutate_safe h
  · exact (Request.planSummarize_safe h).weaken fun _ hops _ => hops
  · exact (Request.planSummarize_safe h).weaken fun _ hops _ => hops
  · exact (Request.planFilter_safe h).weaken fun _ hops _ => hops
  · exact (Request.planArrange_safe h).weaken fun _ hops _ => hops

theorem sort_mem_of_enclosed {ops : List Operation} {keys : List SortKey}
    (h : .sort keys ∈ request.enclosed ops) : .sort keys ∈ ops := by
  unfold Request.enclosed Request.rowColumns at h
  simp only [List.mem_append, List.mem_singleton] at h
  rcases h with ((h | h) | h) | h
  · split at h <;> simp at h
  · split at h <;> simp at h
  · exact h
  · cases h

theorem sort_notMem_transformOf {assigns : List Assign} {keys : List SortKey} :
    Operation.sort keys ∉ Request.transformOf assigns := by
  unfold Request.transformOf
  split <;> simp

/-- Of the verbs that read columns only one sorts. -/
theorem eq_arrange_of_sort {verb : Verb} (hverb : verb.readsColumns = true)
    {ops : List Operation} (hops : verb.plan request = .ok ops) {keys : List SortKey}
    (h : .sort keys ∈ ops) : verb = .arrange := by
  have hselect : request.planSelect = .ok ops -> False := by
    intro hops
    rcases bind_eq_ok_iff.1 hops with ⟨items, _, hops⟩
    cases hops
    simpa using sort_mem_of_enclosed h
  have hsummarize : request.planSummarize = .ok ops -> False := by
    intro hops
    rcases bind_eq_ok_iff.1 hops with ⟨found, _, hops⟩
    cases hops
    rcases List.mem_append.1 h with h | h
    · simpa using sort_mem_of_enclosed h
    · split at h <;> simp at h
  cases verb <;> cases hverb
  · exact (hselect hops).elim
  · exact (hselect hops).elim
  · rcases bind_eq_ok_iff.1 hops with ⟨found, _, hops⟩
    cases hops
    exact (sort_notMem_transformOf (sort_mem_of_enclosed h)).elim
  · exact (hsummarize hops).elim
  · exact (hsummarize hops).elim
  · rcases bind_eq_ok_iff.1 hops with ⟨conditions, _, hops⟩
    cases hops
    have hsort := sort_mem_of_enclosed h
    split at hsort <;> simp at hsort
  · rfl

end Verb

namespace Invocation

theorem request_of_ok {call : Invocation} {data : Dataset} {request : Request}
    (h : call.request data = .ok request) :
    request.IsHonest ∧ request.data = data ∧ request.scope.columns = data.header := by
  have hgives := call.request_isHonest data
  rw [h] at hgives
  exact hgives

theorem request_isReady {call : Invocation} {data : Dataset} {request : Request}
    (hdata : data.WellFormed) (hplain : data.HasPlainCells) (h : call.request data = .ok request) :
    request.IsReady := by
  rcases request_of_ok h with ⟨hhonest, rfl, hscope⟩
  constructor
  · exact hhonest
  · exact hscope
  · exact hdata.ready hplain
  · intro key hkey
    exact hdata.unreserved key (hdata.keys key hkey)

theorem plan_eq_ok {call : Invocation} {data : Dataset} {plan : Plan}
    (h : call.plan data = .ok plan) :
    exists request ops, call.request data = .ok request ∧ call.verb.plan request = .ok ops ∧
      plan = Plan.ofOperations call.verb.name ops := by
  rcases map_eq_ok_iff.1 h with ⟨ops, hops, rfl⟩
  rcases bind_eq_ok_iff.1 hops with ⟨request, hrequest, hops⟩
  exact ⟨request, ops, hrequest, hops, rfl⟩

/-- A plan that compiles finds all columns that its steps read, and its run gives a dataset or a
user error.  What is left are messages with integers too long to be written, and, exactly where
a sort stops at an undefined number beside a decimal, the fault of their comparison.  A plan that
calls no function from outside does not end the program. -/
theorem plan_runs_safely {callers : CallerFunctions} {call : Invocation} {data : Dataset}
    {plan : Plan} (hdata : data.WellFormed) (hplain : data.HasPlainCells)
    (hverb : call.verb.readsColumns = true) (hplan : call.plan data = .ok plan)
    (hnone : plan.AssignsNone data.groups) :
    (forall before step after seen, plan.steps = before ++ step :: after ->
      Plan.runSteps callers before data = .ok seen ->
      exists op, step = .operation op ∧ op.Sees seen) ∧
    (forall f : Fault, (plan.run callers data = .error (.fault f) ∧ f ≠ .tooManyDigits) <->
      (f = .invalidDecimal ∧ plan.StopsAtSort callers data)) ∧
    (plan.run callers data = .error (.fault .exit) -> plan.CallsOut) ∧
    (plan.StopsAtSort callers data -> call.verb = .arrange) := by
  rcases plan_eq_ok hplan with ⟨request, ops, hrequest, hops, rfl⟩
  have hready := request_isReady hdata hplain hrequest
  have hsame : request.data = data := (request_of_ok hrequest).2.1
  have hsafe : RunsSafely callers (fun _ => True) ops data := by
    have hplanned : Gives (fun ops => Request.AssignsNone request.data.groups ops ->
        RunsSafely callers (fun _ => True) ops request.data) (call.verb.plan request) :=
      Verb.plan_safe hverb hready
    rw [hops, hsame] at hplanned
    apply hplanned
    intro assigns hassigns
    exact hnone assigns (List.mem_map_of_mem hassigns)
  refine ⟨?sees, ?fault, ?exit, ?sort⟩
  case sees =>
    intro before step after seen hsteps hseen
    rcases List.map_eq_append_iff.1 hsteps with ⟨first, rest, rfl, rfl, hrest⟩
    rcases List.map_eq_cons_iff.1 hrest with ⟨op, others, rfl, rfl, rfl⟩
    exact ⟨op, rfl, hsafe.sees hseen⟩
  case fault =>
    intro f
    constructor
    · rintro ⟨hrun, hf⟩
      rcases hsafe.fault hrun with hdigits | ⟨hf, before, keys, after, seen, rfl, hstops⟩
      · exact absurd hdigits hf
      · refine ⟨hf, before.map Step.operation, keys, after.map Step.operation, seen, ?_, hstops⟩
        simp [Plan.ofOperations]
    · rintro ⟨rfl, hstops⟩
      refine ⟨Plan.run_of_stopsAtSort hstops, ?_⟩
      intro h
      cases h
  case exit =>
    intro hrun
    rcases hsafe.exit hrun with ⟨op, hop, hout⟩
    exact ⟨op, List.mem_map_of_mem hop, hout⟩
  case sort =>
    rintro ⟨before, keys, after, seen, hsteps, _⟩
    have hmem : Step.operation (.sort keys) ∈ ops.map Step.operation := by
      have hall : ops.map Step.operation = before ++ .operation (.sort keys) :: after := hsteps
      rw [hall]
      simp
    rcases List.mem_map.1 hmem with ⟨op, hop, heq⟩
    cases heq
    exact Verb.eq_arrange_of_sort hverb hops hop

/-- Rows in groups by their first column. -/
def pairs : Dataset :=
  { header := ["k", "x"], rows := [[.int 2, .str "b"], [.int 1, .str "a"]], groups := ["k"] }

def copyColumn : Invocation :=
  { verb := .mutate, values := [], named := [("y", .sym "x")], env := Environment.empty
    registry := Registry.standard }

def copyColumnPlan : Plan :=
  Plan.ofOperations "mutate"
    [.transform [{ name := "y", expr := .column "x", source := some "y = x" }], .dropReserved]

theorem copyColumn_plan : copyColumn.plan pairs = .ok copyColumnPlan := rfl

theorem pairs_wellFormed : pairs.WellFormed := by decide

theorem pairs_hasPlainCells : pairs.HasPlainCells := by
  intro row hrow value hvalue
  simp only [pairs, List.mem_cons, List.not_mem_nil, or_false] at hrow
  rcases hrow with rfl | rfl
  · simp only [List.mem_cons, List.not_mem_nil, or_false] at hvalue
    rcases hvalue with rfl | rfl <;> rfl
  · simp only [List.mem_cons, List.not_mem_nil, or_false] at hvalue
    rcases hvalue with rfl | rfl <;> rfl

theorem copyColumnPlan_assignsNone : copyColumnPlan.AssignsNone pairs.groups := by
  intro assigns hassigns a ha
  simp [copyColumnPlan, Plan.ofOperations] at hassigns
  subst hassigns
  cases List.mem_singleton.1 ha
  decide

theorem plan_runs_safely_copyColumn :
    copyColumn.plan pairs = .ok copyColumnPlan ∧
      (forall f : Fault, f ≠ .tooManyDigits ->
        copyColumnPlan.run [] pairs ≠ .error (.fault f)) := by
  refine ⟨copyColumn_plan, ?_⟩
  intro f hf hrun
  rcases plan_runs_safely pairs_wellFormed pairs_hasPlainCells rfl copyColumn_plan
    copyColumnPlan_assignsNone with ⟨_, hfault, _, hsort⟩
  cases hsort ((hfault f).1 ⟨hrun, hf⟩).2

end Invocation

end Wrangle
