import Wrangle.Proofs.Dataset.Reducing
import Wrangle.Proofs.Verb.Splitting

/-!
# Reducing calls by groups

To summarize a grouped dataset, or to pick rows of its groups by position, is to do
so for the rows of each group alone and to put the results one after another in
ascending order of the keys.
-/

namespace Wrangle

open Dataset

/-!
# Summaries
-/

/-- Summaries of which there is at least one, and which neither repeat a name nor take the name of
a key or a reserved one. -/
structure AreSummaries (keyNames : List String) (assigns : List Assign) : Prop where
  some : assigns ≠ []
  nodup : (assigns.map Assign.name).Nodup
  unreserved : forall a, a ∈ assigns -> isReserved a.name = false
  apart : forall a, a ∈ assigns -> a.name ∉ keyNames

namespace Request

open Operation

variable {callers : CallerFunctions} {groups : List Partition} {keyNames : List String}
variable {data : Dataset} {assigns : List Assign}

theorem combines_summarize (request : Request) (h : data.Splits groups keyNames)
    (hkeys : forall key, key ∈ keyNames -> isReserved key = false)
    (hheader : forall name, name ∈ data.header -> isReserved name = false)
    (hkeyNames : keyNames.Nodup)
    (hlength : forall group, group ∈ groups -> group.key.length = keyNames.length)
    (hassigns : AreSummaries keyNames assigns) :
    Combines groups (Reduced groups keyNames (assigns.map Assign.name))
      (applyAll callers (request.enclosed [.summarize assigns]) data)
      fun group => applyAll callers (request.enclosed [.summarize assigns])
        (data.part group.rows) := by
  have hnames : forall name, name ∈ assigns.map Assign.name -> isReserved name = false := by
    intro name hname
    rcases List.mem_map.1 hname with ⟨a, ha, rfl⟩
    exact hassigns.unreserved a ha
  unfold enclosed
  simp only [applyAll_append]
  apply Combines.bind
  · apply (request.combines_rowColumns h hkeys hheader).bind
    rintro wide found ⟨⟨hwide, rfl⟩, _⟩
    simp only [applyAll_single]
    exact hwide.combines_summarize hkeyNames hlength hassigns.nodup hassigns.some hassigns.apart
  · rintro result found ⟨row, rfl, rfl⟩
    have hresult : forall name, name ∈ keyNames ++ assigns.map Assign.name ->
        isReserved name = false := by
      intro name hname
      rcases List.mem_append.1 hname with hname | hname
      · exact hkeys name hname
      · exact hnames name hname
    rw [dropReserved_of_unreserved hresult]
    apply (Combines.pure (⟨row, rfl, rfl⟩ : Reduced groups keyNames _ _ _)).congr
    intro group _
    exact dropReserved_of_unreserved hnames

/-- A dataset with one row for each group, which is grouped by all keys but the last one. -/
def Summarized (groups : List Partition) (keyNames names : List String) (result : Dataset)
    (found : Partition -> Dataset) : Prop :=
  exists row : Partition -> List Value,
    result = { header := keyNames ++ names
               rows := groups.map fun group => group.key ++ row group
               groups := keyNames.dropLast } ∧
      found = fun group => flat names [row group]

theorem regroup_eq_ok {keys : List String} (h : forall key, key ∈ keys -> key ∈ data.header) :
    data.regroup keys = .ok { data with groups := keys } := by
  have hchecked : { data with groups := keys }.checked = .ok { data with groups := keys } :=
    checked_eq_ok h
  exact hchecked

theorem regroupOuter_eq_ok {names : List String} {rows : List (List Value)} :
    applyAll callers (if keyNames.dropLast.isEmpty then [] else [.regroup keyNames.dropLast])
      (flat (keyNames ++ names) rows) =
        .ok { header := keyNames ++ names, rows := rows, groups := keyNames.dropLast } := by
  split
  · rename_i hempty
    rw [List.isEmpty_iff.1 hempty]
    rfl
  · rw [applyAll_single]
    apply regroup_eq_ok
    intro key hkey
    exact List.mem_append_left _ (List.dropLast_subset _ hkey)

end Request

/-!
# Calls
-/

namespace Invocation

section Reduce

variable {call : Invocation} {data : Dataset} {groups : List Partition}

theorem run_error {failure : Failure} (h : call.plan data = .error failure)
    (settings : Settings) : (call.run settings data).result = .error failure := by
  rw [run, h]
  rfl

/-- What a call summarizes, which depends on the header alone. -/
def summaries (call : Invocation) (data : Dataset) : Outcome (Request × List Assign) := do
  let request <- call.request data
  let found <- Request.assigns .aggregate request.fullScope request.fragments
  .ok (request, found)

theorem operations_eq_summaries (hverb : call.verb = .summarize ∨ call.verb = .summarise) :
    call.operations data = (call.summaries data).map fun entry =>
      entry.1.enclosed [.summarize entry.2] ++
        (if entry.1.keys.dropLast.isEmpty then [] else [.regroup entry.1.keys.dropLast]) := by
  have hplan : forall request, call.verb.plan request = request.planSummarize := by
    rcases hverb with hverb | hverb <;> rw [hverb] <;> exact fun _ => rfl
  unfold operations summaries
  cases call.request data with
  | error failure => rfl
  | ok request =>
      rw [ok_bind, ok_bind, hplan, Request.planSummarize]
      cases Request.assigns .aggregate request.fullScope request.fragments with
      | error failure => rfl
      | ok found => rfl

theorem summaries_part (positions : List Nat) :
    call.summaries (data.part positions) =
      (call.summaries data).map fun entry =>
        ({ entry.1 with data := data.part positions }, entry.2) := by
  unfold summaries
  rw [request_part]
  cases call.request data with
  | error failure => rfl
  | ok request =>
      show (Request.assigns .aggregate request.fullScope request.fragments >>= _) = _
      rw [ok_bind]
      cases Request.assigns .aggregate request.fullScope request.fragments with
      | error failure => rfl
      | ok found => rfl

theorem operations_slice_part (hverb : call.verb = .slice) (positions : List Nat) :
    call.operations (data.part positions) = call.operations data := by
  unfold operations
  rw [request_part, hverb]
  cases call.request data with
  | error failure => rfl
  | ok request => rfl

theorem plan_part_error
    (hverb : call.verb = .summarize ∨ call.verb = .summarise ∨ call.verb = .slice)
    {failure : Failure} (h : call.plan data = .error failure) (positions : List Nat) :
    call.plan (data.part positions) = .error failure := by
  unfold plan at h ⊢
  rw [map_eq_error_iff] at h ⊢
  rcases or_assoc.2 hverb with hverb | hverb
  · rw [operations_eq_summaries hverb, map_eq_error_iff] at h ⊢
    rw [summaries_part, map_eq_error_iff]
    exact h
  · rw [operations_slice_part hverb, h]

theorem summaries_of_plan (hverb : call.verb = .summarize ∨ call.verb = .summarise) {plan : Plan}
    (hplan : call.plan data = .ok plan) {assigns : List Assign}
    (hassigns : .operation (.summarize assigns) ∈ plan.steps) :
    exists request, call.summaries data = .ok (request, assigns) ∧ request.keys = data.groups := by
  rcases map_eq_ok_iff.1 hplan with ⟨ops, hops, rfl⟩
  rw [operations_eq_summaries hverb] at hops
  rcases map_eq_ok_iff.1 hops with ⟨⟨request, found⟩, hfound, rfl⟩
  have hmem : Operation.summarize assigns ∈ request.enclosed [.summarize found] ++
      (if request.keys.dropLast.isEmpty then [] else [.regroup request.keys.dropLast]) := by
    rcases List.mem_map.1 hassigns with ⟨op, hop, heq⟩
    cases heq
    exact hop
  have heq : assigns = found := by
    unfold Request.enclosed Request.rowColumns at hmem
    simp only [List.mem_append, List.mem_ite_nil_right, List.mem_ite_nil_left,
      List.mem_singleton, reduceCtorEq, and_false, or_false, false_or] at hmem
    exact Operation.summarize.inj hmem
  rcases bind_eq_ok_iff.1 hfound with ⟨other, hrequest, hrest⟩
  rcases bind_eq_ok_iff.1 hrest with ⟨_, _, hrest⟩
  cases hrest
  refine ⟨request, heq ▸ hfound, ?_⟩
  rw [Request.keys, (request_of_ok hrequest).2.1]

theorem exists_summaries_of_plan (hverb : call.verb = .summarize ∨ call.verb = .summarise)
    {plan : Plan} (hplan : call.plan data = .ok plan) :
    exists assigns, .operation (.summarize assigns) ∈ plan.steps := by
  rcases map_eq_ok_iff.1 hplan with ⟨ops, hops, rfl⟩
  rw [operations_eq_summaries hverb] at hops
  rcases map_eq_ok_iff.1 hops with ⟨⟨request, found⟩, _, rfl⟩
  refine ⟨found, List.mem_map_of_mem ?_⟩
  apply List.mem_append_left
  unfold Request.enclosed
  simp

theorem exists_plan_of_run {settings : Settings} {result : Dataset}
    (h : (call.run settings data).result = .ok result) :
    exists plan, call.plan data = .ok plan := by
  cases hplan : call.plan data with
  | ok plan => exact ⟨plan, rfl⟩
  | error failure =>
      rw [run_error hplan] at h
      cases h

theorem slice_of_plan (hverb : call.verb = .slice) {plan : Plan}
    (hplan : call.plan data = .ok plan) {positions : Positions}
    (hpositions : .operation (.slice positions) ∈ plan.steps) :
    call.operations data = .ok [.slice positions] := by
  rcases plan_eq_ok hplan with ⟨request, ops, hrequest, hops, rfl⟩
  have hall := operations_of_request hrequest hops
  rw [hverb] at hops
  rcases bind_eq_ok_iff.1 hops with ⟨found, _, hops⟩
  cases hops
  rcases List.mem_map.1 hpositions with ⟨op, hop, heq⟩
  rw [List.mem_singleton.1 hop] at heq
  cases heq
  exact hall

theorem combines_summarize (hverb : call.verb = .summarize ∨ call.verb = .summarise)
    (hdata : data.WellFormed) (hdistinct : data.groups.Nodup)
    (h : data.Splits groups data.groups)
    (hlength : forall group, group ∈ groups -> group.key.length = data.groups.length)
    {request : Request} {assigns : List Assign} (hkeys : request.keys = data.groups)
    (hsummaries : call.summaries data = .ok (request, assigns))
    (hassigns : AreSummaries data.groups assigns) (settings : Settings) :
    Combines groups (Request.Summarized groups data.groups (assigns.map Assign.name))
      (call.run settings data).result
      fun group => (call.run settings (data.part group.rows)).result := by
  have hwhole : call.operations data = .ok (request.enclosed [.summarize assigns] ++
      (if data.groups.dropLast.isEmpty then [] else [.regroup data.groups.dropLast])) := by
    rw [operations_eq_summaries hverb, hsummaries, ← hkeys]
    rfl
  have hpart : forall group : Partition, call.operations (data.part group.rows) =
      .ok (request.enclosed [.summarize assigns]) := by
    intro group
    rw [operations_eq_summaries hverb, summaries_part, hsummaries]
    show Except.ok (request.enclosed [.summarize assigns] ++ []) = _
    rw [List.append_nil]
  rw [run_result hwhole settings, Operation.applyAll_append]
  simp only [fun group => run_result (hpart group) settings]
  apply Combines.andThen (request.combines_summarize h
    (fun key hkey => hdata.unreserved key (hdata.keys key hkey)) hdata.unreserved hdistinct hlength
    hassigns)
  rintro result found ⟨row, rfl, rfl⟩
  exact ⟨_, Request.regroupOuter_eq_ok, row, rfl, rfl⟩

theorem combines_slice (hverb : call.verb = .slice) (h : data.Splits groups data.groups)
    {positions : Positions} (hops : call.operations data = .ok [.slice positions])
    (settings : Settings) :
    Combines groups (Sliced positions groups data) (call.run settings data).result
      fun group => (call.run settings (data.part group.rows)).result := by
  have hpart : forall group : Partition,
      call.operations (data.part group.rows) = .ok [.slice positions] := by
    intro group
    rw [operations_slice_part hverb, hops]
  rw [run_result hops settings]
  simp only [fun group => run_result (hpart group) settings, Operation.applyAll_single]
  exact h.combines_slice

end Reduce

/-- On a dataset that is divided into groups, which come in ascending order of their keys, summaries
that compile succeed just when they do on the rows of each group alone, and so do slices.  Then the
result has, group by group, the cells of the key followed by the summaries of the group, or the rows
that are picked from the group.  A call that does not compile fails, also where there are no groups,
and fails for each group as it does for the dataset. -/
theorem reduce_by_groups {call : Invocation} {data : Dataset} (hdata : data.WellFormed)
    (hdistinct : data.groups.Nodup) (hkeys : data.KeysAre Value.isDiscrete)
    (settings : Settings) :
    exists groups, data.DividesInto groups ∧ (groups.Pairwise fun a b => a.place < b.place) ∧
      (call.verb = .summarize ∨ call.verb = .summarise ∨ call.verb = .slice ->
        forall failure, call.plan data = .error failure ->
          (call.run settings data).result = .error failure ∧
            forall group, group ∈ groups ->
              (call.run settings (data.part group.rows)).result = .error failure) ∧
      (call.verb = .summarize ∨ call.verb = .summarise ->
        (forall plan assigns, call.plan data = .ok plan ->
          .operation (.summarize assigns) ∈ plan.steps -> AreSummaries data.groups assigns) ->
            ((exists result, (call.run settings data).result = .ok result) <->
              (exists plan, call.plan data = .ok plan) ∧ forall group, group ∈ groups ->
                exists part, (call.run settings (data.part group.rows)).result = .ok part) ∧
            forall result, (call.run settings data).result = .ok result ->
              exists plan assigns, call.plan data = .ok plan ∧
                .operation (.summarize assigns) ∈ plan.steps ∧
                exists row : Partition -> List Value,
                  result = { header := data.groups ++ assigns.map Assign.name
                             rows := groups.map fun group => group.key ++ row group
                             groups := data.groups.dropLast } ∧
                    forall group, group ∈ groups ->
                      (call.run settings (data.part group.rows)).result =
                        .ok (flat (assigns.map Assign.name) [row group])) ∧
      (call.verb = .slice -> forall plan positions, call.plan data = .ok plan ->
        .operation (.slice positions) ∈ plan.steps ->
          ((exists result, (call.run settings data).result = .ok result) <->
            forall group, group ∈ groups ->
              exists part, (call.run settings (data.part group.rows)).result = .ok part) ∧
          forall result, (call.run settings data).result = .ok result ->
            exists found : Partition -> Dataset,
              result = { data with rows := groups.flatMap fun group => (found group).rows } ∧
                forall group, group ∈ groups ->
                  (call.run settings (data.part group.rows)).result = .ok (found group) ∧
                    exists offsets, positions.offsets group.size = .ok offsets ∧
                      (forall k, k ∈ offsets -> k < group.size) ∧
                      found group = (data.part group.rows).keep offsets) := by
  rcases exists_dividesInto hdata.width hkeys with ⟨groups, hgroups⟩
  have hsplits := splits_of_wellFormed hdata hkeys hgroups
  have hlength : forall group, group ∈ groups -> group.key.length = data.groups.length :=
    fun group hgroup => key_length hgroups.partitions hgroup
  refine ⟨groups, hgroups, partitions_ascending hdata.width hkeys hgroups.partitions,
    ?failing, ?summaries, ?slices⟩
  case failing =>
    intro hverb failure hplan
    refine ⟨run_error hplan settings, ?_⟩
    intro group _
    exact run_error (plan_part_error hverb hplan group.rows) settings
  case summaries =>
    intro hverb hnamed
    have hcombines : forall {plan assigns}, call.plan data = .ok plan ->
        .operation (.summarize assigns) ∈ plan.steps ->
          Combines groups (Request.Summarized groups data.groups (assigns.map Assign.name))
            (call.run settings data).result
            fun group => (call.run settings (data.part group.rows)).result := by
      intro plan assigns hplan hassigns
      rcases summaries_of_plan hverb hplan hassigns with ⟨request, hfound, hnames⟩
      exact combines_summarize hverb hdata hdistinct hsplits hlength hnames hfound
        (hnamed plan assigns hplan hassigns) settings
    constructor
    · constructor
      · rintro ⟨result, hresult⟩
        rcases exists_plan_of_run hresult with ⟨plan, hplan⟩
        rcases exists_summaries_of_plan hverb hplan with ⟨assigns, hassigns⟩
        exact ⟨⟨plan, hplan⟩, (hcombines hplan hassigns).iff.1 ⟨result, hresult⟩⟩
      · rintro ⟨⟨plan, hplan⟩, hparts⟩
        rcases exists_summaries_of_plan hverb hplan with ⟨assigns, hassigns⟩
        exact (hcombines hplan hassigns).iff.2 hparts
    · intro result hresult
      rcases exists_plan_of_run hresult with ⟨plan, hplan⟩
      rcases exists_summaries_of_plan hverb hplan with ⟨assigns, hassigns⟩
      rcases (hcombines hplan hassigns).agrees result hresult with ⟨_, ⟨row, hrows, rfl⟩, hparts⟩
      exact ⟨plan, assigns, hplan, hassigns, row, hrows, hparts⟩
  case slices =>
    intro hverb plan positions hplan hpositions
    have hcombines := combines_slice hverb hsplits (slice_of_plan hverb hplan hpositions) settings
    refine ⟨hcombines.iff, ?_⟩
    intro result hresult
    rcases hcombines.agrees result hresult with ⟨found, ⟨offsets, hoffsets, hkept, hrows⟩, hparts⟩
    refine ⟨found, hrows, ?_⟩
    intro group hgroup
    rcases hoffsets group hgroup with ⟨hok, hlt⟩
    exact ⟨hparts group hgroup, offsets group, hok, hlt, hkept group hgroup⟩

def summarizeColumn : Invocation :=
  { copyColumn with verb := .summarize }

theorem summarizeColumn_areSummaries {plan : Plan} {assigns : List Assign}
    (hplan : summarizeColumn.plan pairs = .ok plan)
    (hassigns : .operation (.summarize assigns) ∈ plan.steps) :
    AreSummaries pairs.groups assigns := by
  have hfound : summarizeColumn.plan pairs = .ok (Plan.ofOperations "summarize"
      [.summarize [{ name := "y", expr := .column "x", source := some "y = x" }],
        .dropReserved]) := rfl
  cases hfound.symm.trans hplan
  simp [Plan.ofOperations] at hassigns
  subst hassigns
  constructor <;> decide

theorem reduce_by_groups_summarizeColumn :
    exists groups, pairs.DividesInto groups ∧
      forall result, (summarizeColumn.run Settings.initial pairs).result = .ok result ->
        exists (names : List String) (row : Partition -> List Value),
          result = flat ("k" :: names) (groups.map fun group => group.key ++ row group) := by
  rcases @reduce_by_groups summarizeColumn pairs pairs_wellFormed (by decide) pairs_discreteKeys
    Settings.initial with ⟨groups, hgroups, _, _, hsummarize, _⟩
  refine ⟨groups, hgroups, ?_⟩
  intro result hresult
  rcases (hsummarize (Or.inl rfl) fun _ _ => summarizeColumn_areSummaries).2 result hresult with
    ⟨_, assigns, _, _, row, hrows, _⟩
  exact ⟨assigns.map Assign.name, row, hrows⟩

/-- The columns of the pairs, without any rows. -/
def noPairs : Dataset :=
  { pairs with rows := [] }

def summarizeUnknown : Invocation :=
  { copyColumn with verb := .summarize, named := [("s", .sym "nosuch")] }

/-- Without groups there is none for which the call fails; it fails all the same. -/
theorem not_reduce_by_groups_noPairs :
    noPairs.WellFormed ∧ noPairs.KeysAre Value.isDiscrete ∧ noPairs.DividesInto [] ∧
      ¬ ((exists result, (summarizeUnknown.run Settings.initial noPairs).result = .ok result) <->
        forall group, group ∈ ([] : List Partition) -> exists part,
          (summarizeUnknown.run Settings.initial (noPairs.part group.rows)).result =
            .ok part) := by
  have hplan : exists failure, summarizeUnknown.plan noPairs = .error failure := ⟨_, rfl⟩
  have hkeys : noPairs.KeysAre Value.isDiscrete :=
    ⟨by decide, fun _ _ row hrow => absurd hrow List.not_mem_nil⟩
  have hdivides : noPairs.DividesInto [] :=
    ⟨rfl, .nil, List.forall_mem_nil _, List.forall_mem_nil _⟩
  refine ⟨by decide, hkeys, hdivides, ?_⟩
  intro hclaim
  rcases hclaim.2 (List.forall_mem_nil _) with ⟨result, hresult⟩
  rcases hplan with ⟨failure, hfailure⟩
  rw [run_error hfailure] at hresult
  cases hresult

end Invocation
end Wrangle
