import Wrangle.Proofs.Dataset.Parts
import Wrangle.Proofs.Dataset.Filtering
import Wrangle.Proofs.Verb.Safety
import Wrangle.Verb.Running

/-!
# Splitting calls of verbs

To add columns to a grouped dataset, or to keep some of its rows, is to do so for
the rows of each group alone and to put the results back where the rows were.
-/

namespace Wrangle

open Dataset

/-!
# Running operations
-/

def Operation.applyAll (callers : CallerFunctions) (ops : List Operation) (data : Dataset) :
    Outcome Dataset :=
  Plan.runSteps callers (ops.map Step.operation) data

namespace Operation

variable {callers : CallerFunctions} {groups : List Partition} {keyNames : List String}

theorem applyAll_append (ops more : List Operation) (data : Dataset) :
    applyAll callers (ops ++ more) data =
      applyAll callers ops data >>= applyAll callers more := by
  unfold applyAll
  rw [List.map_append, Plan.runSteps_append]

theorem applyAll_single (op : Operation) (data : Dataset) :
    applyAll callers [op] data = op.apply callers data := by
  show (op.apply callers data >>= Except.ok) = _
  cases op.apply callers data with
  | error failure => rfl
  | ok result => rfl

end Operation

theorem Plan.run_ofOperations (callers : CallerFunctions) (verb : String) (ops : List Operation)
    (data : Dataset) :
    (Plan.ofOperations verb ops).run callers data = Operation.applyAll callers ops data := rfl

theorem Plan.exists_render (verb : String) (ops : List Operation) :
    exists text, (Plan.ofOperations verb ops).render = .ok text := by
  have hsteps : exists text, Plan.stepsText (ops.map Step.operation) = .ok text := by
    induction ops with
    | nil => exact ⟨"", rfl⟩
    | cons op rest ih =>
        rcases ih with ⟨others, hothers⟩
        have hop : exists text, op.call.render = .ok text := by
          cases op <;> exact ⟨_, rfl⟩
        rcases hop with ⟨text, htext⟩
        have hstep : (Step.operation op).asCall.render = .ok text := htext
        rw [List.map_cons, Plan.stepsText, hstep, ok_bind, hothers]
        exact ⟨_, rfl⟩
  rcases hsteps with ⟨text, htext⟩
  refine ⟨verb ++ "(data)" ++ text, ?_⟩
  unfold Plan.render
  show (Plan.stepsText (ops.map Step.operation)).map _ = _
  rw [htext]
  rfl

theorem Invocation.run_result {call : Invocation} {data : Dataset} {ops : List Operation}
    (h : call.operations data = .ok ops) (settings : Settings) :
    (call.run settings data).result = Operation.applyAll call.env.functions ops data := by
  have hplan : call.plan data = .ok (Plan.ofOperations call.verb.name ops) := by
    rw [plan, h]
    rfl
  rcases Plan.exists_render call.verb.name ops with ⟨text, htext⟩
  rw [run, hplan]
  show ((Plan.ofOperations call.verb.name ops).execute settings _ data).result = _
  rw [Plan.execute, htext, ← Plan.run_ofOperations]

/-!
# Reserved columns
-/

theorem Dataset.Splits.keys_unreserved {groups : List Partition} {keyNames : List String}
    {data : Dataset} (h : data.Splits groups keyNames)
    (hkeys : forall key, key ∈ keyNames -> isReserved key = false) :
    forall key, key ∈ data.groups -> key ∈ data.header ∧ isReserved key = false := by
  intro key hkey
  refine ⟨h.keys.present key hkey, hkeys key ?_⟩
  rw [← h.names]
  exact hkey

namespace Operation

variable {callers : CallerFunctions} {groups : List Partition} {keyNames : List String}

def Padded (groups : List Partition) (keyNames : List String) (data wide : Dataset)
    (found : Partition -> Dataset) : Prop :=
  SplitsInto groups keyNames wide found ∧ wide.dropped isReserved = data

theorem setColumn_of_addRowCount {data result : Dataset} {name : String}
    (h : apply callers data (.addRowCount name) = .ok result) :
    exists values, values.length = data.nrows ∧ result = data.setColumn name values := by
  rcases bind_eq_ok_iff.1 h with ⟨found, _, hresult⟩
  cases hresult
  exact ⟨groupSizes found data.nrows, scattered_length _ _, rfl⟩

theorem setColumn_of_addRowNumber {data result : Dataset} {name : String}
    (h : apply callers data (.addRowNumber name) = .ok result) :
    exists values, values.length = data.nrows ∧ result = data.setColumn name values := by
  rcases bind_eq_ok_iff.1 h with ⟨found, _, hresult⟩
  cases hresult
  exact ⟨rowNumbers found data.nrows, scattered_length _ _, rfl⟩

theorem combines_padding {data wide : Dataset} (hdata : wide.dropped isReserved = data)
    (h : wide.Splits groups keyNames) {op : Operation} {name : String}
    (hname : isReserved name = true)
    (hset : forall result, op.apply callers wide = .ok result ->
      exists values, values.length = wide.nrows ∧ result = wide.setColumn name values)
    (hop : Combines groups (SplitsInto groups keyNames) (op.apply callers wide)
      fun group => op.apply callers (wide.part group.rows)) (condition : Bool) :
    Combines groups (Padded groups keyNames data)
      (applyAll callers (if condition then [op] else []) wide)
      fun group => applyAll callers (if condition then [op] else []) (wide.part group.rows) := by
  cases condition with
  | false => exact Combines.pure ⟨⟨h, rfl⟩, hdata⟩
  | true =>
      simp only [if_true, applyAll_single]
      apply hop.refine
      intro result found hresult hsplits
      rcases hset result hresult with ⟨values, hvalues, rfl⟩
      exact ⟨hsplits, (dropped_setColumn h.width hname hvalues).trans hdata⟩

end Operation

namespace Request

open Operation

variable {callers : CallerFunctions} {groups : List Partition} {keyNames : List String}

theorem combines_rowColumns (request : Request) {data : Dataset}
    (h : data.Splits groups keyNames)
    (hkeys : forall key, key ∈ keyNames -> isReserved key = false)
    (hheader : forall name, name ∈ data.header -> isReserved name = false) :
    Combines groups (Padded groups keyNames data) (applyAll callers request.rowColumns data)
      fun group => applyAll callers request.rowColumns (data.part group.rows) := by
  have hfresh : forall name, isReserved name = true -> name ∉ keyNames := by
    intro name hname hmem
    rw [hkeys name hmem] at hname
    cases hname
  have hcount : isReserved countColumn = true := by decide
  have hnumber : isReserved rowNumberColumn = true := by decide
  unfold rowColumns
  simp only [applyAll_append]
  apply Combines.bind (combines_padding (dropped_of_none hheader) h hcount
    (fun _ => setColumn_of_addRowCount) (h.combines_addRowCount (hfresh _ hcount)) _)
  rintro wide found ⟨⟨hwide, rfl⟩, hdropped⟩
  exact combines_padding hdropped hwide hnumber (fun _ => setColumn_of_addRowNumber)
    (hwide.combines_addRowNumber (hfresh _ hnumber)) _

/-!
# Added columns
-/

/-- A dataset with as many rows and the same groups as another one, and its parts. -/
def Rejoined (data result : Dataset) (found : Partition -> Dataset) : Prop :=
  result.groups = data.groups ∧ result.nrows = data.nrows ∧
    found = fun group => result.part group.rows

theorem combines_transformOf {data : Dataset} (h : data.Splits groups keyNames)
    {assigns : List Assign}
    (hnames : forall a, .transform assigns ∈ transformOf assigns -> a ∈ assigns ->
      a.name ∉ keyNames) :
    Combines groups (SplitsInto groups keyNames) (applyAll callers (transformOf assigns) data)
      fun group => applyAll callers (transformOf assigns) (data.part group.rows) := by
  unfold transformOf at hnames ⊢
  split
  · exact Combines.pure ⟨h, rfl⟩
  · rename_i hsome
    simp only [applyAll_single]
    exact h.combines_transform fun a ha => hnames a (by simp [hsome]) ha

theorem dropReserved_of_unreserved {data : Dataset}
    (hheader : forall name, name ∈ data.header -> isReserved name = false) :
    applyAll callers [.dropReserved] data = .ok data := by
  have hnone : data.header.any isReserved = false := by
    rw [List.any_eq_false]
    intro name hname
    rw [hheader name hname]
    exact Bool.false_ne_true
  rw [applyAll_single, Operation.apply, Operation.drop, hnone]
  rfl

theorem combines_dropReserved {data wide : Dataset} (hgroups : data.groups = keyNames)
    (hcover : (groups.flatMap Partition.rows).Perm (List.range data.nrows))
    (h : wide.Splits groups keyNames)
    (hkeys : forall key, key ∈ keyNames -> isReserved key = false) :
    Combines groups (Rejoined data) (applyAll callers [.dropReserved] wide)
      fun group => applyAll callers [.dropReserved] (wide.part group.rows) := by
  have hrows : wide.nrows = data.nrows := by
    have hlength := (h.cover.symm.trans hcover).length_eq
    rwa [List.length_range, List.length_range] at hlength
  simp only [applyAll_single, Operation.apply, drop_part,
    drop_eq_ok (h.keys_unreserved hkeys)]
  apply Combines.pure
  refine ⟨?_, ?_, rfl⟩
  · rw [dropped_groups, h.names, hgroups]
  · rw [dropped_nrows, hrows]

theorem combines_mutate (request : Request) {data : Dataset} (h : data.Splits groups keyNames)
    (hkeys : forall key, key ∈ keyNames -> isReserved key = false)
    (hheader : forall name, name ∈ data.header -> isReserved name = false) {assigns : List Assign}
    (hnames : forall a, .transform assigns ∈ transformOf assigns -> a ∈ assigns ->
      a.name ∉ keyNames) :
    Combines groups (Rejoined data)
      (applyAll callers (request.enclosed (transformOf assigns)) data)
      fun group => applyAll callers (request.enclosed (transformOf assigns))
        (data.part group.rows) := by
  unfold enclosed
  simp only [applyAll_append]
  apply Combines.bind
  · apply (request.combines_rowColumns h hkeys hheader).bind
    rintro wide found ⟨⟨hwide, rfl⟩, _⟩
    exact combines_transformOf hwide hnames
  · rintro wide found ⟨hwide, rfl⟩
    exact combines_dropReserved h.names h.cover hwide hkeys

/-!
# Kept rows
-/

theorem combines_nothing {data : Dataset} (h : data.Splits groups keyNames) :
    Combines groups data.Filtered (.ok data) fun group => .ok (data.part group.rows) := by
  have hkeep : data.Filtered data fun group =>
      data.part (group.rows.filter (List.range data.nrows).contains) := by
    refine ⟨List.range data.nrows, List.Sublist.refl _, ?_, rfl⟩
    rw [keep, rowsAt, nrows, filterMap_getElem?_range]
  apply (Combines.pure hkeep).congr
  intro group hgroup
  have hall : group.rows.filter (List.range data.nrows).contains = group.rows := by
    rw [List.filter_eq_self]
    intro i hi
    rw [List.contains_iff_mem]
    exact List.mem_range.2 (h.hasRows hgroup i hi)
  rw [hall]

theorem combines_conditions {data : Dataset} (h : data.Splits groups keyNames)
    (conditions : List Assign) :
    Combines groups data.Filtered
      (applyAll callers (if conditions.isEmpty then [] else [.subset conditions]) data)
      fun group => applyAll callers (if conditions.isEmpty then [] else [.subset conditions])
        (data.part group.rows) := by
  split
  · exact combines_nothing h
  · simp only [applyAll_single]
    exact h.combines_subset

theorem combines_dropAfterFilter {data wide result : Dataset} {found : Partition -> Dataset}
    (hdata : wide.dropped isReserved = data) (h : wide.Splits groups keyNames)
    (hkeys : forall key, key ∈ keyNames -> isReserved key = false)
    (hfiltered : wide.Filtered result found) :
    Combines groups data.Filtered (applyAll callers [.dropReserved] result)
      fun group => applyAll callers [.dropReserved] (found group) := by
  rcases hfiltered with ⟨kept, hkept, rfl, rfl⟩
  simp only [applyAll_single, Operation.apply, drop_part, drop_keep (h.keys_unreserved hkeys),
    hdata]
  apply Combines.pure
  refine ⟨kept, ?_, rfl, rfl⟩
  rw [← hdata, dropped_nrows]
  exact hkept

theorem combines_filter (request : Request) {data : Dataset} (h : data.Splits groups keyNames)
    (hkeys : forall key, key ∈ keyNames -> isReserved key = false)
    (hheader : forall name, name ∈ data.header -> isReserved name = false)
    (conditions : List Assign) :
    Combines groups data.Filtered
      (applyAll callers (request.enclosed
        (if conditions.isEmpty then [] else [.subset conditions])) data)
      fun group => applyAll callers (request.enclosed
        (if conditions.isEmpty then [] else [.subset conditions])) (data.part group.rows) := by
  unfold enclosed
  simp only [applyAll_append]
  apply Combines.bind
  · apply (request.combines_rowColumns h hkeys hheader).bind
    rintro wide found ⟨⟨hwide, rfl⟩, hdata⟩
    apply (combines_conditions hwide conditions).refine
    intro result others _ hfiltered
    exact (⟨wide, hwide, hdata, hfiltered⟩ : exists wide : Dataset, wide.Splits groups keyNames ∧
      wide.dropped isReserved = data ∧ wide.Filtered result others)
  · rintro result found ⟨wide, hwide, hdata, hfiltered⟩
    exact combines_dropAfterFilter hdata hwide hkeys hfiltered

end Request

/-!
# Calls
-/

namespace Invocation

theorem request_part (call : Invocation) (data : Dataset) (positions : List Nat) :
    call.request (data.part positions) =
      (call.request data).map fun request => { request with data := data.part positions } := by
  unfold request
  cases Verb.fragmentsOf call.values call.named with
  | error failure => rfl
  | ok sources =>
      rw [ok_bind, ok_bind]
      cases Interpolation.resolveAll call.env sources with
      | error failure => rfl
      | ok fragments => rfl

theorem operations_part {call : Invocation} (hverb : call.verb = .mutate ∨ call.verb = .filter)
    (data : Dataset) (positions : List Nat) :
    call.operations (data.part positions) = call.operations data := by
  unfold operations
  rw [request_part]
  cases call.request data with
  | error failure => rfl
  | ok request => rcases hverb with hverb | hverb <;> rw [hverb] <;> rfl

theorem splits_of_wellFormed {data : Dataset} (hdata : data.WellFormed)
    (hkeys : data.KeysAre Value.isDiscrete) {groups : List Partition}
    (hgroups : data.DividesInto groups) : data.Splits groups data.groups where
  names := rfl
  nodup := hdata.nodup
  width := hdata.width
  keys := hkeys
  partitions := hgroups.partitions
  cover := hgroups.cover

theorem operations_of_request {call : Invocation} {data : Dataset} {request : Request}
    {ops : List Operation} (hrequest : call.request data = .ok request)
    (hops : call.verb.plan request = .ok ops) : call.operations data = .ok ops := by
  rw [operations, hrequest]
  exact hops

theorem mem_enclosed {request : Request} {ops : List Operation} {op : Operation} (h : op ∈ ops) :
    op ∈ request.enclosed ops := by
  unfold Request.enclosed
  simp [h]

section Split

variable {call : Invocation} {data : Dataset} {plan : Plan} {groups : List Partition}

theorem combines_run {good : Dataset -> (Partition -> Dataset) -> Prop}
    (hverb : call.verb = .mutate ∨ call.verb = .filter) {ops : List Operation}
    (hops : call.operations data = .ok ops)
    (h : Combines groups good (Operation.applyAll call.env.functions ops data)
      fun group => Operation.applyAll call.env.functions ops (data.part group.rows))
    (settings : Settings) :
    Combines groups good (call.run settings data).result
      fun group => (call.run settings (data.part group.rows)).result := by
  rw [run_result hops settings]
  apply h.congr
  intro group _
  apply run_result
  rw [operations_part hverb, hops]

theorem combines_mutate (hverb : call.verb = .mutate) (hdata : data.WellFormed)
    (h : data.Splits groups data.groups) (hplan : call.plan data = .ok plan)
    (hnone : plan.AssignsNone data.groups) (settings : Settings) :
    Combines groups (Request.Rejoined data) (call.run settings data).result
      fun group => (call.run settings (data.part group.rows)).result := by
  rcases plan_eq_ok hplan with ⟨request, ops, hrequest, hops, rfl⟩
  apply combines_run (Or.inl hverb) (operations_of_request hrequest hops)
  rw [hverb] at hops
  rcases bind_eq_ok_iff.1 hops with ⟨assigns, _, hops⟩
  cases hops
  apply request.combines_mutate h (fun key hkey => hdata.unreserved key (hdata.keys key hkey))
    hdata.unreserved
  intro a hassigns ha
  exact hnone assigns (List.mem_map_of_mem (mem_enclosed hassigns)) a ha

theorem combines_filter (hverb : call.verb = .filter) (hdata : data.WellFormed)
    (h : data.Splits groups data.groups) (hplan : call.plan data = .ok plan)
    (settings : Settings) :
    Combines groups data.Filtered (call.run settings data).result
      fun group => (call.run settings (data.part group.rows)).result := by
  rcases plan_eq_ok hplan with ⟨request, ops, hrequest, hops, rfl⟩
  apply combines_run (Or.inr hverb) (operations_of_request hrequest hops)
  rw [hverb] at hops
  rcases bind_eq_ok_iff.1 hops with ⟨conditions, _, hops⟩
  cases hops
  exact request.combines_filter h (fun key hkey => hdata.unreserved key (hdata.keys key hkey))
    hdata.unreserved conditions

end Split

/-- On a dataset that is divided into groups, adding columns and keeping rows succeed just when
they do on the rows of each group alone.  Then the rows of a group in the result are those of the
run on the group, and the rows that are kept are those that the runs on the groups keep. -/
theorem split_apply_combine {call : Invocation} {data : Dataset} {plan : Plan}
    (hdata : data.WellFormed) (hkeys : data.KeysAre Value.isDiscrete)
    (hplan : call.plan data = .ok plan) (hnone : plan.AssignsNone data.groups)
    (settings : Settings) :
    exists groups, data.DividesInto groups ∧
      (call.verb = .mutate ∨ call.verb = .filter ->
        ((exists result, (call.run settings data).result = .ok result) <->
          forall group, group ∈ groups ->
            exists part, (call.run settings (data.part group.rows)).result = .ok part)) ∧
      (call.verb = .mutate -> forall result, (call.run settings data).result = .ok result ->
        result.groups = data.groups ∧ result.nrows = data.nrows ∧
          forall group, group ∈ groups ->
            (call.run settings (data.part group.rows)).result = .ok (result.part group.rows)) ∧
      (call.verb = .filter -> forall result, (call.run settings data).result = .ok result ->
        exists kept, kept.Sublist (List.range data.nrows) ∧ result = data.keep kept ∧
          forall group, group ∈ groups ->
            (call.run settings (data.part group.rows)).result =
              .ok (data.part (group.rows.filter kept.contains))) := by
  rcases exists_dividesInto hdata.width hkeys with ⟨groups, hgroups⟩
  have hsplits := splits_of_wellFormed hdata hkeys hgroups
  refine ⟨groups, hgroups, ?_, ?_, ?_⟩
  · rintro (hverb | hverb)
    · exact (combines_mutate hverb hdata hsplits hplan hnone settings).iff
    · exact (combines_filter hverb hdata hsplits hplan settings).iff
  · intro hverb result hresult
    rcases (combines_mutate hverb hdata hsplits hplan hnone settings).agrees result hresult with
      ⟨_, ⟨hsame, hrows, rfl⟩, hparts⟩
    exact ⟨hsame, hrows, hparts⟩
  · intro hverb result hresult
    rcases (combines_filter hverb hdata hsplits hplan settings).agrees result hresult with
      ⟨_, ⟨kept, hkept, hresult, rfl⟩, hparts⟩
    exact ⟨kept, hkept, hresult, hparts⟩

theorem pairs_discreteKeys : pairs.KeysAre Value.isDiscrete := by
  constructor
  · decide
  · intro key hkey row hrow
    simp only [pairs, List.mem_cons, List.not_mem_nil, or_false] at hkey hrow
    subst hkey
    rcases hrow with rfl | rfl <;> rfl

theorem split_apply_combine_copyColumn :
    copyColumn.plan pairs = .ok copyColumnPlan ∧
      exists groups, pairs.DividesInto groups ∧
        forall result, (copyColumn.run Settings.initial pairs).result = .ok result ->
          forall group, group ∈ groups ->
            (copyColumn.run Settings.initial (pairs.part group.rows)).result =
              .ok (result.part group.rows) := by
  refine ⟨copyColumn_plan, ?_⟩
  rcases split_apply_combine pairs_wellFormed pairs_discreteKeys copyColumn_plan
    copyColumnPlan_assignsNone Settings.initial with ⟨groups, hgroups, _, hmutate, _⟩
  refine ⟨groups, hgroups, ?_⟩
  intro result hresult
  exact (hmutate rfl result hresult).2.2

end Invocation

end Wrangle
