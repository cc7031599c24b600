import Wrangle.Proofs.Verb.Sourcing
import Wrangle.Proofs.Verb.Reducing

/-!
# User errors of calls

A call of a verb ends with a user error that shows a fragment, wherever it fails: when
arguments are read, markers resolved, fragments compiled, or columns computed.  What
strays from this are the errors of operations that know no fragment, of a call without
any position, and of functions of the caller that raise them without a text.
-/

namespace Wrangle

open Dataset

/-!
# Operations
-/

namespace Operation

/-- The user errors of operations on a dataset that name no fragment. -/
inductive Strays (data : Dataset) (ops : List Operation) (e : UserError) : Prop where
  | position {positions : Positions} : ops = [.slice positions] ->
      data.MissesPositions positions e -> Strays data ops e
  | order {keys : List SortKey} : .sort keys ∈ ops -> CannotOrder keys e -> Strays data ops e
  | oldKeys : .dropReserved ∈ ops -> LosesKeys data.groups e -> Strays data ops e
  | newKeys {keys : List String} : .groupBy keys ∈ ops -> LosesKeys keys e -> Strays data ops e
  | summaries {assigns : List Assign} : .summarize assigns ∈ ops ->
      RepeatsNames (data.groups ++ assigns.map Assign.name) e -> Strays data ops e
  | columns {items : List SelectionItem} : .select items ∈ ops ->
      RepeatsNames data.header e -> Strays data ops e

theorem Strays.isUnplaced {data : Dataset} {ops : List Operation} {e : UserError}
    (h : Strays data ops e) : e.IsUnplaced := by
  cases h with
  | position _ hmisses => exact hmisses.isUnplaced
  | order _ hcannot => exact hcannot.isUnplaced
  | oldKeys _ hloses => exact hloses.isUnplaced
  | newKeys _ hloses => exact hloses.isUnplaced
  | summaries _ hrepeats => exact hrepeats.2.isUnplaced
  | columns _ hrepeats => exact hrepeats.2.isUnplaced

def Attribute (callers : CallerFunctions) (data : Dataset) (ops : List Operation) : Prop :=
  RaisesAttributed callers (Strays data ops) (fun _ => True) (applyAll callers ops data)

end Operation

namespace Request

open Operation

variable {callers : CallerFunctions} {request : Request} {other : UserError -> Prop}
variable {data : Dataset}

/-- A request whose fragments have texts, about a dataset whose columns are in scope. -/
structure IsSourced (request : Request) : Prop where
  fragments : AreShown request.fragments
  scope : request.scope.columns = request.data.header
  keys : forall key, key ∈ request.keys -> key ∈ request.data.header

theorem rowColumns_attributed (request : Request) (data : Dataset) :
    RaisesAttributed callers other data.Widens (applyAll callers request.rowColumns data) := by
  have hadd (condition : Bool) {op : Operation} (data : Dataset)
      (hop : RaisesAttributed callers other data.Widens (op.apply callers data)) :
      RaisesAttributed callers other data.Widens
        (applyAll callers (if condition then [op] else []) data) := by
    cases condition with
    | false => exact .refl data
    | true =>
        rw [if_pos rfl, applyAll_single]
        exact hop
  have hcount (data : Dataset) : RaisesAttributed callers other data.Widens
      ((addRowCount countColumn).apply callers data) :=
    (raisesOnly_ofFault _).bind_any fun _ => widens_setColumn ..
  have hnumber (data : Dataset) : RaisesAttributed callers other data.Widens
      ((addRowNumber rowNumberColumn).apply callers data) :=
    (raisesOnly_ofFault _).bind_any fun _ => widens_setColumn ..
  unfold rowColumns
  rw [applyAll_append]
  apply (hadd request.mentionsCount data (hcount data)).bind
  intro wide hwide
  apply (hadd request.mentionsRowNumber wide (hnumber wide)).weaken
  intro result hresult
  exact hwide.trans hresult

theorem transformOf_attributed {assigns : List Assign} (hassigns : AreSourced assigns)
    (data : Dataset) :
    RaisesAttributed callers other
      (fun result => data.Widens result ∧
        forall name, name ∈ assigns.map Assign.name -> name ∈ result.header)
      (applyAll callers (transformOf assigns) data) := by
  rw [Invocation.applyAll_transformOf]
  apply (attributed_transform hassigns).weaken
  intro result hresult
  refine ⟨hresult.1, ?_⟩
  intro name hname
  rcases List.mem_map.1 hname with ⟨assign, hassign, rfl⟩
  exact hresult.2 assign hassign

theorem enclosed_attributed {ops : List Operation} {good : Dataset -> Prop}
    (hops : forall wide, data.Widens wide ->
      RaisesAttributed callers other good (applyAll callers ops wide))
    (hgood : forall table, good table -> (forall key, key ∈ table.groups -> key ∈ table.header) ∧
      forall e, LosesKeys table.groups e -> other e) :
    RaisesAttributed callers other (fun result => exists table, good table ∧ table.Retains result)
      (applyAll callers (request.enclosed ops) data) := by
  unfold enclosed
  rw [applyAll_append, applyAll_append]
  apply ((rowColumns_attributed request data).bind hops).bind
  intro table htable
  rcases hgood table htable with ⟨hkeys, hother⟩
  rw [applyAll_single]
  apply (raisesAttributed_of (dropReserved_raises hkeys) hother).weaken
  intro result hresult
  exact ⟨table, htable, hresult⟩

theorem whileFlat_attributed {ops : List Operation} {good : Dataset -> Prop}
    (hgroups : data.groups = request.keys)
    (hops : RaisesAttributed callers other good (applyAll callers ops data.ungroup))
    (hgood : forall result, good result ->
      RaisesOnly other (result.regroup request.keys)) :
    RaisesAttributed callers other (fun _ => True)
      (applyAll callers (request.whileFlat ops) data) := by
  unfold whileFlat
  split
  · rename_i hempty
    have hflat : data.ungroup = data := by
      rw [← hgroups, List.isEmpty_iff] at hempty
      unfold Dataset.ungroup
      rw [← hempty]
    rw [← hflat]
    exact hops.weaken fun _ _ => trivial
  · rw [applyAll_append, applyAll_append, applyAll_single]
    apply hops.bind
    intro result hresult
    rw [applyAll_single]
    exact raisesAttributed_of (hgood result hresult) fun _ he => he

/-!
# Plans
-/

theorem dropReserved_mem_enclosed (ops : List Operation) :
    .dropReserved ∈ request.enclosed ops := by
  simp [enclosed]

theorem mem_whileFlat {op : Operation} {ops : List Operation} (h : op ∈ ops) :
    op ∈ request.whileFlat ops := by
  unfold whileFlat
  split
  · exact h
  · simp [h]

theorem fullScope_retained (h : request.IsSourced) {name : String}
    (hname : name ∈ request.fullScope.columns) :
    name ∈ request.data.header ∨ isReserved name = true := by
  rcases mem_fullScope hname with hname | ⟨_, rfl⟩ | ⟨_, rfl⟩
  · exact Or.inl (h.scope ▸ hname)
  · exact Or.inr isReserved_countColumn
  · exact Or.inr isReserved_rowNumberColumn

theorem keys_retained (h : request.IsSourced) {ops : List Operation} {table : Dataset}
    (hmem : .dropReserved ∈ ops) (htable : request.data.Widens table) :
    (forall key, key ∈ table.groups -> key ∈ table.header) ∧
      forall e, LosesKeys table.groups e -> Strays request.data ops e := by
  rw [htable.groups]
  exact ⟨fun key hkey => htable.header key (h.keys key hkey), fun e he => .oldKeys hmem he⟩

theorem flat_retained {table : Dataset} (hflat : table.groups = []) :
    (forall key, key ∈ table.groups -> key ∈ table.header) ∧
      forall e, LosesKeys table.groups e -> other e := by
  rw [hflat]
  exact ⟨List.forall_mem_nil _, fun e he => absurd he (not_losesKeys_nil e)⟩

theorem planSelect_attributed (h : request.IsSourced) :
    Ends (Failure.IsFaultOr UserError.IsAttributed) (Attribute callers request.data)
      request.planSelect := by
  have hsources (fragment : Node × String)
      (hfragment : fragment ∈ request.fragments.map fun found => (found.node, found.source)) :
      fragment.2 ≠ "" := by
    rcases List.mem_map.1 hfragment with ⟨found, hfound, rfl⟩
    exact h.fragments found hfound
  have hselection := Compile.attributed_selection request.fullScope hsources
  rw [List.map_map] at hselection
  unfold planSelect
  apply hselection.bind
  intro items hitems
  have hselect (wide : Dataset) (hwide : request.data.Widens wide) :
      RaisesAttributed callers (Strays request.data (request.enclosed [.select items]))
        (fun table => table.groups = request.data.groups ∧
          forall key, key ∈ table.groups -> key ∈ table.header)
        (applyAll callers [.select items] wide) := by
    rw [applyAll_single]
    apply (raisesAttributed_mono (attributed_select hitems) ?_).weaken
    · intro table htable
      exact ⟨htable.1.trans hwide.groups, htable.2⟩
    · intro e he
      exact .columns (Invocation.mem_enclosed (List.mem_singleton.2 rfl))
        ⟨fun hnodup => he.1 (hwide.nodup hnodup), he.2⟩
  apply (enclosed_attributed hselect ?_).weaken fun _ _ => trivial
  intro table htable
  refine ⟨htable.2, ?_⟩
  intro e he
  rw [htable.1] at he
  exact .oldKeys (dropReserved_mem_enclosed _) he

theorem planMutate_attributed (h : request.IsSourced) :
    Ends (Failure.IsFaultOr UserError.IsAttributed) (Attribute callers request.data)
      request.planMutate := by
  unfold planMutate
  apply (assigns_sourced h.fragments .transform request.fullScope).bind
  intro found hfound
  have htransform (wide : Dataset) (hwide : request.data.Widens wide) :
      RaisesAttributed callers (Strays request.data (request.enclosed (transformOf found)))
        request.data.Widens (applyAll callers (transformOf found) wide) :=
    (transformOf_attributed hfound wide).weaken fun _ htable => hwide.trans htable.1
  apply (enclosed_attributed htransform ?_).weaken fun _ _ => trivial
  intro table htable
  exact keys_retained h (dropReserved_mem_enclosed _) htable

theorem planFilter_attributed (h : request.IsSourced) :
    Ends (Failure.IsFaultOr UserError.IsAttributed) (Attribute callers request.data)
      request.planFilter := by
  unfold planFilter
  apply (conditions_sourced h.fragments request.fullScope).bind
  intro conditions hconditions
  have hsubset (ops : List Operation) (wide : Dataset) (hwide : request.data.Widens wide) :
      RaisesAttributed callers (Strays request.data ops) request.data.Widens
        (applyAll callers (if conditions.isEmpty then [] else [.subset conditions]) wide) := by
    split
    · exact hwide
    · rw [applyAll_single]
      exact (attributed_subset hconditions).weaken fun _ hresult => hwide.trans hresult
  apply (enclosed_attributed (hsubset _) ?_).weaken fun _ _ => trivial
  intro table htable
  exact keys_retained h (dropReserved_mem_enclosed _) htable

theorem planSummarize_attributed (h : request.IsSourced) :
    Ends (Failure.IsFaultOr UserError.IsAttributed) (Attribute callers request.data)
      request.planSummarize := by
  unfold planSummarize
  apply (assigns_sourced h.fragments .aggregate request.fullScope).bind
  intro found hfound
  dsimp only
  generalize hmore : (if request.keys.dropLast.isEmpty then []
    else [Operation.regroup request.keys.dropLast]) = more
  have hsummarize (wide : Dataset) (hwide : request.data.Widens wide) :
      RaisesAttributed callers
        (Strays request.data (request.enclosed [.summarize found] ++ more))
        (fun table => table.groups = [] ∧
          forall key, key ∈ request.data.groups -> key ∈ table.header)
        (applyAll callers [.summarize found] wide) := by
    rw [applyAll_single, ← hwide.groups]
    apply raisesAttributed_mono (attributed_summarize hfound)
    intro e he
    rw [hwide.groups] at he
    apply Strays.summaries _ he
    exact List.mem_append_left _ (Invocation.mem_enclosed (List.mem_singleton.2 rfl))
  show Attribute callers request.data (request.enclosed [.summarize found] ++ more)
  unfold Attribute
  rw [applyAll_append]
  apply (enclosed_attributed hsummarize ?_).bind
  · intro result hresult
    rcases hresult with ⟨table, htable, hretains⟩
    rw [← hmore]
    split
    · trivial
    · rw [applyAll_single]
      apply raisesAttributed_of (regroup_raises fun key hkey =>
        hretains.header key (htable.2 key (List.dropLast_subset _ hkey)))
      intro e he
      exact .oldKeys (List.mem_append_left _ (dropReserved_mem_enclosed _))
        (he.mono fun key hkey => List.dropLast_subset _ hkey)
  · intro table htable
    exact flat_retained htable.1

theorem planGroupBy_attributed (h : request.IsSourced) :
    Ends (Failure.IsFaultOr UserError.IsAttributed) (Attribute callers request.data)
      request.planGroupBy := by
  unfold planGroupBy
  apply (groupKeys_sourced h.fragments request.fullScope []).bind
  intro keys hkeys
  rcases keys with ⟨found, names⟩
  rcases hkeys with ⟨hfound, hnames⟩
  dsimp only
  generalize hmore : [if names.isEmpty then Operation.ungroup else .groupBy names] = more
  have htransform (wide : Dataset) (hwide : request.data.Widens wide) :
      RaisesAttributed callers
        (Strays request.data (request.enclosed (transformOf found) ++ more))
        (fun table => request.data.Widens table ∧
          forall name, name ∈ found.map Assign.name -> name ∈ table.header)
        (applyAll callers (transformOf found) wide) :=
    (transformOf_attributed hfound wide).weaken fun _ htable =>
      ⟨hwide.trans htable.1, htable.2⟩
  show Attribute callers request.data (request.enclosed (transformOf found) ++ more)
  unfold Attribute
  rw [applyAll_append]
  apply (enclosed_attributed htransform ?_).bind
  · intro result hresult
    rcases hresult with ⟨table, ⟨hwidens, hassigned⟩, hretains⟩
    have hkept (key : String) (hkey : key ∈ names) :
        key ∈ result.header ∨ isReserved key = true := by
      rcases hnames key hkey with hkey | hkey
      · rcases fullScope_retained h hkey with hkey | hkey
        · exact hretains.header key (hwidens.header key hkey)
        · exact Or.inr hkey
      · exact hretains.header key (hassigned key hkey)
    rw [← hmore]
    split
    · trivial
    · rename_i hsome
      rw [applyAll_single]
      apply raisesAttributed_of
        (groupBy_raises (fun hnil => hsome (List.isEmpty_iff.2 hnil)) hkept)
      intro e he
      exact .newKeys (List.mem_append_right _ (List.mem_singleton.2 rfl)) he
  · intro table htable
    exact keys_retained h (List.mem_append_left _ (dropReserved_mem_enclosed _)) htable.1

theorem planRename_attributed (h : request.IsSourced) :
    Ends (Failure.IsFaultOr UserError.IsAttributed) (Attribute callers request.data)
      request.planRename := by
  unfold planRename
  apply (renamings_raises h.fragments request.scope []).bind_any
  intro mapping
  show Attribute callers request.data _
  unfold Attribute
  rw [applyAll_single]
  apply raisesAttributed_of (rename_raises ?_ h.keys) fun _ he => he.elim
  intro entry hentry
  rcases List.mem_map.1 hentry with ⟨pair, _, rfl⟩
  exact ⟨pair.1, rfl⟩

theorem regroup_attributed (h : request.IsSourced) {ops : List Operation}
    (hmem : .dropReserved ∈ ops) {result : Dataset}
    (hresult : forall name, name ∈ request.data.header ->
      name ∈ result.header ∨ isReserved name = true) :
    RaisesOnly (Strays request.data ops) (result.regroup request.keys) := by
  apply (regroup_raises fun key hkey => hresult key (h.keys key hkey)).imp
  · exact fun _ hfailure => hfailure.imp fun e he => .oldKeys hmem he
  · exact fun _ _ => trivial

theorem planArrange_attributed (h : request.IsSourced) :
    Ends (Failure.IsFaultOr UserError.IsAttributed) (Attribute callers request.data)
      request.planArrange := by
  unfold planArrange
  split
  · trivial
  · apply (sortKeys_sourced h.fragments request.fullScope).bind
    intro sorting hfound
    rcases sorting with ⟨found, keys⟩
    dsimp only at hfound ⊢
    generalize hops : request.rowColumns ++
      request.whileFlat (transformOf found ++ [.sort keys] ++ [.dropReserved]) = ops
    have hmem {op : Operation}
        (hop : op ∈ transformOf found ++ [.sort keys] ++ [.dropReserved]) : op ∈ ops := by
      rw [← hops]
      exact List.mem_append_right _ (mem_whileFlat hop)
    have hdrop : .dropReserved ∈ ops := hmem (by simp)
    have hsort : .sort keys ∈ ops := hmem (by simp)
    have hflat (wide : Dataset) (hwide : request.data.Widens wide) :
        RaisesAttributed callers (Strays request.data ops)
          (fun result => forall name, name ∈ request.data.header ->
            name ∈ result.header ∨ isReserved name = true)
          (applyAll callers (transformOf found ++ [.sort keys] ++ [.dropReserved])
            wide.ungroup) := by
      rw [applyAll_append, applyAll_append]
      apply Ends.bind
      · apply (transformOf_attributed hfound wide.ungroup).bind
        intro table htable
        rw [applyAll_single]
        apply (raisesAttributed_of (sort_raises keys) fun _ he => .order hsort he).weaken
        intro sorted hsorted
        exact htable.1.trans hsorted
      · intro sorted hsorted
        rcases flat_retained hsorted.groups with ⟨hkeys, hother⟩
        rw [applyAll_single]
        apply (raisesAttributed_of (dropReserved_raises hkeys) hother).weaken
        intro result hresult name hname
        exact hresult.header name (hsorted.header name (hwide.header name hname))
    show Attribute callers request.data ops
    unfold Attribute
    rw [← hops, applyAll_append, hops]
    apply (rowColumns_attributed request request.data).bind
    intro wide hwide
    apply whileFlat_attributed hwide.groups (hflat wide hwide)
    intro result hresult
    exact regroup_attributed h hdrop hresult

theorem planDistinct_attributed (h : request.IsSourced) :
    Ends (Failure.IsFaultOr UserError.IsAttributed) (Attribute callers request.data)
      request.planDistinct := by
  unfold planDistinct
  apply (columnNames_raises h.fragments request.fullScope []).bind_any
  intro names
  generalize hops : request.whileFlat (request.enclosed [.unique names]) = ops
  have hdrop : .dropReserved ∈ ops := by
    rw [← hops]
    exact mem_whileFlat (dropReserved_mem_enclosed _)
  have hunique (wide : Dataset) (hwide : request.data.ungroup.Widens wide) :
      RaisesAttributed callers (Strays request.data ops) request.data.ungroup.Widens
        (applyAll callers [.unique names] wide) := by
    rw [applyAll_single]
    apply (raisesAttributed_of (unique_raises names) fun _ he => he.elim).weaken
    exact fun _ hresult => hwide.trans hresult
  have hflat : RaisesAttributed callers (Strays request.data ops) request.data.ungroup.Retains
      (applyAll callers (request.enclosed [.unique names]) request.data.ungroup) := by
    apply (enclosed_attributed hunique ?_).weaken
    · intro result hresult
      rcases hresult with ⟨table, hwidens, hretains⟩
      exact hwidens.retains hretains
    · intro table htable
      exact flat_retained htable.groups
  have hruns := whileFlat_attributed rfl hflat fun result hresult =>
    regroup_attributed h hdrop hresult.header
  rw [hops] at hruns
  exact hruns

theorem planDropMissing_attributed (h : request.IsSourced) :
    Ends (Failure.IsFaultOr UserError.IsAttributed) (Attribute callers request.data)
      request.planDropMissing := by
  unfold planDropMissing
  apply (columnNames_raises h.fragments request.scope []).bind_any
  intro names
  have hdropped : RaisesAttributed callers
      (Strays request.data (request.whileFlat [.dropMissing (names.map .str)]))
      request.data.ungroup.Widens
      (applyAll callers [.dropMissing (names.map .str)] request.data.ungroup) := by
    rw [applyAll_single]
    exact raisesAttributed_of (dropMissing_raises _) fun _ he => he.elim
  apply whileFlat_attributed rfl hdropped
  intro result hresult
  rw [Request.regroup_eq_ok fun key hkey => hresult.header key (h.keys key hkey)]
  trivial

/-- What a call that picks rows is told when there is no fragment that gives positions. -/
def noPosition : UserError :=
  (UserError.unsupported "slice() needs at least one position." none).withFragment ""

theorem planSlice_attributed (h : request.IsSourced) :
    Ends (Failure.IsFaultOr fun e => e.IsAttributed ∨ (request.fragments = [] ∧ e = noPosition))
      (Attribute callers request.data) request.planSlice := by
  have hruns (positions : Positions) : Attribute callers request.data [.slice positions] := by
    unfold Attribute
    rw [applyAll_single]
    exact raisesAttributed_of (slice_raises positions) fun _ he => .position rfl he
  unfold planSlice
  by_cases hnone : request.fragments = []
  · rw [hnone]
    exact Or.inr ⟨rfl, rfl⟩
  · have hsource : Text.joined ", " (request.fragments.map ResolvedFragment.source) ≠ "" := by
      apply joined_ne_empty
      · exact fun hmap => hnone (List.map_eq_nil_iff.1 hmap)
      · intro text htext
        rcases List.mem_map.1 htext with ⟨fragment, hfragment, rfl⟩
        exact h.fragments fragment hfragment
    apply Ends.bind_any
    · apply (inFragment_unplaced hsource (Positions.unplaced_ofNodes _)).imp
      · exact fun _ hfailure => hfailure.imp fun _ he => Or.inl he
      · exact fun _ _ => trivial
    · exact hruns

end Request

namespace Verb

/-- Planning shows the fragments, unless there is none to show, and so does running the plan. -/
theorem plan_attributed {callers : CallerFunctions} (verb : Verb) {request : Request}
    (h : request.IsSourced) :
    Ends (Failure.IsFaultOr fun e => e.IsAttributed ∨
        (verb = .slice ∧ request.fragments = [] ∧ e = Request.noPosition))
      (Operation.Attribute callers request.data) (verb.plan request) := by
  have hplain {outcome : Outcome (List Operation)}
      (hplan : Ends (Failure.IsFaultOr UserError.IsAttributed)
        (Operation.Attribute callers request.data) outcome) :
      Ends (Failure.IsFaultOr fun e => e.IsAttributed ∨
          (verb = .slice ∧ request.fragments = [] ∧ e = Request.noPosition))
        (Operation.Attribute callers request.data) outcome :=
    hplan.imp (fun _ hfailure => hfailure.imp fun _ he => Or.inl he) fun _ hruns => hruns
  cases verb with
  | select => exact hplain (Request.planSelect_attributed h)
  | transmute => exact hplain (Request.planSelect_attributed h)
  | rename => exact hplain (Request.planRename_attributed h)
  | mutate => exact hplain (Request.planMutate_attributed h)
  | summarize => exact hplain (Request.planSummarize_attributed h)
  | summarise => exact hplain (Request.planSummarize_attributed h)
  | filter => exact hplain (Request.planFilter_attributed h)
  | groupBy => exact hplain (Request.planGroupBy_attributed h)
  | ungroup => trivial
  | slice =>
      apply (Request.planSlice_attributed h).imp
      · exact fun _ hfailure => hfailure.imp fun _ he => he.imp id fun hnone => ⟨rfl, hnone⟩
      · exact fun _ hruns => hruns
  | arrange => exact hplain (Request.planArrange_attributed h)
  | distinct => exact hplain (Request.planDistinct_attributed h)
  | dropMissing => exact hplain (Request.planDropMissing_attributed h)

end Verb

/-!
# Calls
-/

namespace Invocation

/-- The user errors of a call that show no fragment: errors of functions of the caller, which come
out of markers as they are, and out of columns if they are about an empty text; the error of a call
without any position; and the errors of its operations that name none. -/
inductive Strays (call : Invocation) (data : Dataset) (e : UserError) : Prop where
  | marker : call.request data = .error (.user e) -> call.env.functions.Raise e ->
      ¬ e.IsAttributed -> Strays call data e
  | raised : call.env.functions.Raise e -> e.fragment = some "" -> Strays call data e
  | nothing {request : Request} : call.verb = .slice -> call.request data = .ok request ->
      request.fragments = [] -> e = Request.noPosition -> Strays call data e
  | running {ops : List Operation} : call.operations data = .ok ops ->
      Operation.Strays data ops e -> Strays call data e

theorem Strays.not_isAttributed {call : Invocation} {data : Dataset} {e : UserError}
    (h : call.Strays data e) : ¬ e.IsAttributed := by
  have hempty (hfragment : e.fragment = some "") : ¬ e.IsAttributed := by
    intro hshown
    rcases hshown with ⟨text, htext, hsome⟩
    cases htext.symm.trans hfragment
    exact hsome rfl
  cases h with
  | marker _ _ hnot => exact hnot
  | raised _ hfragment => exact hempty hfragment
  | nothing _ _ _ he => exact hempty (he ▸ rfl)
  | running _ hstrays => exact hstrays.isUnplaced.not_isAttributed

theorem request_isSourced {call : Invocation} (hmade : call.IsMade) {data : Dataset}
    (hdata : forall key, key ∈ data.groups -> key ∈ data.header) {request : Request}
    (h : call.request data = .ok request) : request.IsSourced := by
  have hends := request_attributed hmade data
  rw [h] at hends
  rcases request_of_ok h with ⟨_, hsame, hcolumns⟩
  constructor
  · exact hends
  · rw [hsame, hcolumns]
  · rw [Request.keys, hsame]
    exact hdata

theorem run_attributed {call : Invocation} (hmade : call.IsMade) {data : Dataset}
    (hdata : forall key, key ∈ data.groups -> key ∈ data.header) (settings : Settings) :
    RaisesOnly (fun e => e.IsAttributed ∨ call.Strays data e)
      (call.run settings data).result := by
  cases hrequest : call.request data with
  | error failure =>
      have hplan : call.plan data = .error failure := by
        rw [plan, operations, hrequest]
        rfl
      rw [run_error hplan settings]
      have hfailure := (request_attributed hmade data).bad_of_eq hrequest
      cases failure with
      | fault f => trivial
      | user e =>
          by_cases hshown : e.IsAttributed
          · exact Or.inl hshown
          · exact Or.inr (.marker hrequest (hfailure.resolve_left hshown) hshown)
  | ok request =>
      have hsame : request.data = data := (request_of_ok hrequest).2.1
      have hends : Ends _ (Operation.Attribute call.env.functions request.data) _ :=
        call.verb.plan_attributed (request_isSourced hmade hdata hrequest)
      rw [hsame] at hends
      cases hops : call.verb.plan request with
      | error failure =>
          have hplan : call.plan data = .error failure := by
            rw [plan, operations, hrequest, ok_bind, hops]
            rfl
          rw [run_error hplan settings]
          apply (hends.bad_of_eq hops).imp
          intro e he
          apply he.imp id
          intro hnothing
          exact .nothing hnothing.1 hrequest hnothing.2.1 hnothing.2.2
      | ok ops =>
          have hcall := operations_of_request hrequest hops
          have hruns : Operation.Attribute call.env.functions data ops := by
            rw [hops] at hends
            exact hends
          unfold Operation.Attribute at hruns
          rw [run_result hcall settings]
          apply hruns.imp
          · intro failure hfailure
            apply hfailure.imp
            intro e he
            apply he.imp id
            intro hstrays
            rcases hstrays with hraised | hstrays
            · exact .raised hraised.1 hraised.2
            · exact .running hcall hstrays
          · exact fun _ _ => trivial

/-- A call of a verb that ends with a user error shows a fragment, unless the error strays: then
it does not. -/
theorem run_isAttributed_iff {call : Invocation} (hmade : call.IsMade) {data : Dataset}
    (hdata : forall key, key ∈ data.groups -> key ∈ data.header) {settings : Settings}
    {e : UserError} (h : (call.run settings data).result = .error (.user e)) :
    e.IsAttributed <-> ¬ call.Strays data e := by
  have hends : e.IsAttributed ∨ call.Strays data e :=
    (run_attributed hmade hdata settings).bad_of_eq h
  constructor
  · exact fun hshown hstrays => hstrays.not_isAttributed hshown
  · exact hends.resolve_right

def sliceBothEnds : Invocation where
  verb := .slice
  values := [.str "n() - 1", .str "-1"]
  named := []
  env := Environment.empty
  registry := Registry.standard

theorem sliceBothEnds_isMade : sliceBothEnds.IsMade where
  values := fun value hvalue => by
    simp only [sliceBothEnds, List.mem_cons, List.not_mem_nil, or_false] at hvalue
    rcases hvalue with rfl | rfl
    · trivial
    · trivial
  named := List.forall_mem_nil _

theorem sliceBothEnds_operations : sliceBothEnds.operations singles =
    .ok [.slice { nodes := [.binary "-" (.call countFunction [] [] false) (.literal (.int 1)),
      .literal (.int (-1))] }] := by
  have hfirst : Verb.fragmentOf (.str "n() - 1") =
      .ok (.binary "-" (.call countFunction [] [] false) (.literal (.int 1)), "n() - 1") := by
    have hts : tokenize "n() - 1" =
        .ok [⟨.identifier "n", 0⟩, ⟨.symbol .openParen, 1⟩, ⟨.symbol .closeParen, 2⟩,
          ⟨.symbol .minus, 4⟩, ⟨.integer 1, 6⟩, ⟨.finish, 7⟩] := rfl
    exact fragmentOf_text (by decide) hts rfl
  have hlast : Verb.fragmentOf (.str "-1") = .ok (.literal (.int (-1)), "-1") := by
    have hts : tokenize "-1" = .ok [⟨.symbol .minus, 0⟩, ⟨.integer 1, 1⟩, ⟨.finish, 2⟩] := rfl
    exact fragmentOf_text (by decide) hts rfl
  have hfragments : sliceBothEnds.fragments = .ok
      [⟨.binary "-" (.call countFunction [] [] false) (.literal (.int 1)), true, false, "n() - 1"⟩,
        ⟨.literal (.int (-1)), false, false, "-1"⟩] := by
    unfold fragments Verb.fragmentsOf
    simp only [sliceBothEnds, List.mapM_cons, List.mapM_nil, hfirst, hlast]
    rfl
  rw [operations, request_of_fragments hfragments]
  rfl

/-- The signs are mixed in the only group, and nobody tells which fragment the error is about. -/
theorem run_isAttributed_iff_sliceBothEnds :
    exists e, (sliceBothEnds.run Settings.initial singles).result = .error (.user e) ∧
      e.kind = .mixedSign ∧ e.fragment = none ∧ sliceBothEnds.Strays singles e := by
  have hfails : exists e, (sliceBothEnds.run Settings.initial singles).result = .error (.user e) ∧
      e.kind = .mixedSign ∧ e.IsUnplaced :=
    ⟨_, (run_result sliceBothEnds_operations Settings.initial).trans rfl, rfl, rfl⟩
  rcases hfails with ⟨e, hresult, hkind, hunplaced⟩
  have hkeys : forall key, key ∈ singles.groups -> key ∈ singles.header := List.forall_mem_nil _
  have hiff := run_isAttributed_iff sliceBothEnds_isMade hkeys hresult
  refine ⟨e, hresult, hkind, hunplaced, Classical.byContradiction ?_⟩
  exact fun hstrays => hunplaced.not_isAttributed (hiff.2 hstrays)

end Invocation
end Wrangle
