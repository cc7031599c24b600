import Wrangle.Proofs.Dataset.Shape
import Wrangle.Proofs.Verb.Splitting

/-!
# Verbs preserve well-formed datasets

Every verb but the one that renames columns turns a well-formed dataset into a
well-formed one.  The operations of its plan are traced: each of them keeps tables,
and tells which keys there are after it and whether reserved columns may be there.
-/

namespace Wrangle

open Dataset
open Compile (Gives gives_any)

/-- A well-formed dataset with distinct keys. -/
structure Dataset.IsSound (data : Dataset) : Prop extends data.WellFormed where
  distinct : data.groups.Nodup

/-!
# Tracing operations
-/

namespace Operation

/-- Operations that keep tables: they name their columns apart, group by distinct keys, and do not
rename columns. -/
def IsFit : Operation -> Prop
  | select items => Compile.AreNamedApart items
  | groupBy keys => keys.Nodup
  | regroup keys => keys.Nodup
  | rename _ => False
  | _ => True

def keysAfter (keys : List String) : Operation -> List String
  | summarize _ => []
  | groupBy found => found
  | ungroup => []
  | regroup found => found
  | _ => keys

def tidyAfter (tidy : Bool) : Operation -> Bool
  | dropReserved => true
  | subset _ => tidy
  | slice _ => tidy
  | sort _ => tidy
  | unique _ => tidy
  | dropMissing _ => tidy
  | groupBy _ => tidy
  | ungroup => tidy
  | regroup _ => tidy
  | _ => false

end Operation

/-- A table whose keys are known, and perhaps that it has no reserved columns. -/
structure Dataset.Traced (tidy : Bool) (keys : List String) (data : Dataset) : Prop where
  table : data.IsTable
  groups : data.groups = keys
  unreserved : tidy = true -> forall name, name ∈ data.header -> isReserved name = false

theorem Dataset.IsSound.traced {data : Dataset} (h : data.IsSound) :
    data.Traced true data.groups :=
  ⟨⟨h.nodup, h.width, h.keys, h.distinct⟩, rfl, fun _ => h.unreserved⟩

theorem Dataset.Traced.isSound {keys : List String} {data : Dataset} (h : data.Traced true keys) :
    data.IsSound :=
  ⟨⟨h.table.nodup, h.unreserved rfl, h.table.width, h.table.keys⟩, h.table.distinct⟩

section Trace

variable {callers : CallerFunctions} {data result : Dataset} {tidy : Bool} {keys : List String}

theorem Dataset.Traced.of_rows (h : data.Traced tidy keys) (hrows : data.HasRowsOf result) :
    result.Traced tidy keys := by
  have htable := h.table.of_rows hrows
  rcases hrows with ⟨rows, rfl, _⟩
  exact ⟨htable, h.groups, h.unreserved⟩

theorem Dataset.Traced.regrouped (h : data.Traced tidy keys) {found : List String}
    (hdistinct : found.Nodup) (hfound : forall key, key ∈ found -> key ∈ data.header) :
    { data with groups := found }.Traced tidy found :=
  ⟨h.table.withKeys hdistinct hfound, rfl, h.unreserved⟩

theorem Dataset.Traced.rebuilt (h : result.IsTable ∧ result.groups = keys) :
    result.Traced false keys :=
  ⟨h.1, h.2, fun hfalse => nomatch hfalse⟩

theorem Dataset.Traced.setColumn (h : data.Traced tidy keys) (name : String)
    (values : List Value) : (data.setColumn name values).Traced false keys :=
  .rebuilt ⟨h.table.setColumn name values, by rw [setColumn_groups, h.groups]⟩

theorem Operation.apply_traced {op : Operation} (h : data.Traced tidy keys) (hfit : op.IsFit)
    (hresult : op.apply callers data = .ok result) :
    result.Traced (op.tidyAfter tidy) (op.keysAfter keys) := by
  cases op with
  | addRowCount column =>
      rcases setColumn_of_addRowCount hresult with ⟨values, _, rfl⟩
      exact h.setColumn column values
  | addRowNumber column =>
      rcases setColumn_of_addRowNumber hresult with ⟨values, _, rfl⟩
      exact h.setColumn column values
  | transform assigns =>
      rcases h.table.transform hresult with ⟨htable, hgroups⟩
      exact .rebuilt ⟨htable, hgroups.trans h.groups⟩
  | select items =>
      rcases h.table.select hfit hresult with ⟨htable, hgroups⟩
      exact .rebuilt ⟨htable, hgroups.trans h.groups⟩
  | rename mapping => exact hfit.elim
  | dropReserved =>
      rcases h.table.drop hresult with ⟨htable, hgroups, hnone⟩
      exact ⟨htable, hgroups.trans h.groups, fun _ => hnone⟩
  | dropPattern pattern =>
      rcases bind_eq_ok_iff.1 hresult with ⟨parsed, _, hdrop⟩
      rcases h.table.drop hdrop with ⟨htable, hgroups, _⟩
      exact .rebuilt ⟨htable, hgroups.trans h.groups⟩
  | summarize assigns => exact .rebuilt (summarize_isTable hresult)
  | subset conditions => exact h.of_rows (subset_rows h.table.width hresult)
  | slice positions => exact h.of_rows (slice_rows hresult)
  | sort keys => exact h.of_rows (sort_rows hresult)
  | unique columns => exact h.of_rows (unique_rows hresult)
  | dropMissing asked => exact h.of_rows (dropMissing_rows hresult)
  | groupBy found =>
      rcases groupBy_eq_ok hresult with ⟨rfl, hfound⟩
      exact h.regrouped hfit hfound
  | ungroup =>
      cases hresult
      exact h.regrouped List.nodup_nil fun key hkey => by cases hkey
  | regroup found =>
      rcases regroup_eq_ok hresult with ⟨rfl, hfound⟩
      exact h.regrouped hfit hfound

theorem Operation.applyAll_traced {ops : List Operation} (h : data.Traced tidy keys)
    (hfit : forall op, op ∈ ops -> op.IsFit)
    (hresult : applyAll callers ops data = .ok result) :
    result.Traced (ops.foldl tidyAfter tidy) (ops.foldl keysAfter keys) := by
  induction ops generalizing data tidy keys with
  | nil =>
      cases hresult
      exact h
  | cons op rest ih =>
      rcases bind_eq_ok_iff.1 hresult with ⟨next, hnext, hrest⟩
      have hstep := apply_traced h (hfit op (List.mem_cons_self ..)) hnext
      exact ih hstep (fun other hother => hfit other (List.mem_cons_of_mem _ hother)) hrest

end Trace

/-!
# Tracing plans
-/

/-- Operations that keep tables, leave no reserved column, and lead from some keys to others. -/
structure Operation.Preserve (before after : List String) (ops : List Operation) : Prop where
  fit : forall op, op ∈ ops -> op.IsFit
  tidy : ops.foldl Operation.tidyAfter true = true
  keys : ops.foldl Operation.keysAfter before = after

theorem Operation.isFit_single {op : Operation} (h : op.IsFit) :
    forall other, other ∈ [op] -> other.IsFit := by
  intro other hother
  rw [List.mem_singleton.1 hother]
  exact h

theorem Operation.preserve_nil (keys : List String) : Preserve keys keys [] where
  fit := fun _ hop => nomatch hop
  tidy := rfl
  keys := rfl

theorem Operation.Preserve.append {before between after : List String} {ops more : List Operation}
    (h : Preserve before between ops) (hmore : Preserve between after more) :
    Preserve before after (ops ++ more) := by
  constructor
  · intro op hop
    rcases List.mem_append.1 hop with hop | hop
    · exact h.fit op hop
    · exact hmore.fit op hop
  · rw [List.foldl_append, h.tidy, hmore.tidy]
  · rw [List.foldl_append, h.keys, hmore.keys]

namespace Request

open Operation

variable {request : Request}

theorem rowColumns_fit {op : Operation} (h : op ∈ request.rowColumns) : op.IsFit := by
  unfold rowColumns at h
  simp only [List.mem_append, List.mem_ite_nil_right, List.mem_singleton] at h
  rcases h with ⟨_, rfl⟩ | ⟨_, rfl⟩ <;> trivial

theorem rowColumns_keys (keys : List String) :
    request.rowColumns.foldl keysAfter keys = keys := by
  unfold rowColumns
  cases request.mentionsCount <;> cases request.mentionsRowNumber <;> rfl

theorem enclosed_preserve {before after : List String} {ops : List Operation}
    (hfit : forall op, op ∈ ops -> op.IsFit) (hkeys : ops.foldl keysAfter before = after) :
    Preserve before after (request.enclosed ops) := by
  unfold enclosed
  constructor
  · intro op hop
    rcases List.mem_append.1 hop with hop | hop
    · rcases List.mem_append.1 hop with hop | hop
      · exact rowColumns_fit hop
      · exact hfit op hop
    · rw [List.mem_singleton.1 hop]
      trivial
  · rw [List.foldl_append]
    rfl
  · rw [List.foldl_append, List.foldl_append, rowColumns_keys, hkeys]
    rfl

theorem whileFlat_preserve {ops : List Operation} (hkeys : request.keys.Nodup)
    (h : Preserve [] [] ops) : Preserve request.keys request.keys (request.whileFlat ops) := by
  unfold whileFlat
  split
  · rename_i hempty
    rw [List.isEmpty_iff.1 hempty]
    exact h
  · constructor
    · intro op hop
      simp only [List.mem_append, List.mem_singleton] at hop
      rcases hop with (rfl | hop) | rfl
      · trivial
      · exact h.fit op hop
      · exact hkeys
    · simp only [List.foldl_append, List.foldl_cons, List.foldl_nil, tidyAfter, h.tidy]
    · simp only [List.foldl_append, List.foldl_cons, List.foldl_nil, keysAfter]

theorem whileFlat_tidy (before ops : List Operation) :
    (before ++ request.whileFlat (ops ++ [.dropReserved])).foldl tidyAfter true = true := by
  unfold whileFlat
  split
  · simp only [List.foldl_append, List.foldl_cons, List.foldl_nil, tidyAfter]
  · simp only [List.foldl_append, List.foldl_cons, List.foldl_nil, tidyAfter]

/-!
# Verbs
-/

theorem transformOf_fit (assigns : List Assign) :
    (forall op, op ∈ transformOf assigns -> op.IsFit) ∧
      forall keys, (transformOf assigns).foldl keysAfter keys = keys := by
  unfold transformOf
  split
  · exact ⟨(preserve_nil []).fit, fun _ => rfl⟩
  · exact ⟨isFit_single trivial, fun _ => rfl⟩

theorem planMutate_preserve :
    Gives (Preserve request.keys request.keys) request.planMutate := by
  unfold planMutate
  apply Ends.bind_any (gives_any _)
  intro found
  exact enclosed_preserve (transformOf_fit found).1 ((transformOf_fit found).2 _)

theorem planSelect_preserve :
    Gives (Preserve request.keys request.keys) request.planSelect := by
  unfold planSelect
  apply Ends.bind (Compile.selection_apart _)
  intro items hitems
  exact enclosed_preserve (isFit_single hitems) rfl

theorem planSummarize_preserve (hkeys : request.keys.Nodup) :
    Gives (Preserve request.keys request.keys.dropLast) request.planSummarize := by
  unfold planSummarize
  apply Ends.bind_any (gives_any _)
  intro found
  have hsummarize : Preserve request.keys [] (request.enclosed [.summarize found]) :=
    enclosed_preserve (isFit_single trivial) rfl
  apply hsummarize.append
  split
  · rename_i hempty
    rw [List.isEmpty_iff.1 hempty]
    exact preserve_nil []
  · exact ⟨isFit_single (hkeys.sublist (List.dropLast_sublist _)), rfl, rfl⟩

theorem planFilter_preserve :
    Gives (Preserve request.keys request.keys) request.planFilter := by
  unfold planFilter
  apply Ends.bind_any (gives_any _)
  intro conditions
  split
  · exact enclosed_preserve (preserve_nil []).fit rfl
  · exact enclosed_preserve (isFit_single trivial) rfl

theorem groupKeys_nodup {scope : Scope} (hscope : scope.columns.Nodup) {names : List String}
    (hnames : names.Nodup) (fragments : List ResolvedFragment) :
    Gives (fun found => found.2.Nodup) (groupKeys scope names fragments) := by
  induction fragments generalizing scope names with
  | nil => exact hnames
  | cons fragment rest ih =>
      rw [groupKeys]
      apply Ends.bind (inFragment_gives (Compile.groupKeys_nodup hscope fragment.node))
      rintro ⟨found, keys, after⟩ ⟨hkeys, hafter⟩
      apply Ends.bind (ih hafter (Compile.ColumnSets.addNew_nodup hnames hkeys))
      rintro ⟨others, all⟩ hall
      exact hall

theorem planGroupBy_preserve (hscope : request.fullScope.columns.Nodup) :
    Gives (fun ops => exists after, Preserve request.keys after ops) request.planGroupBy := by
  unfold planGroupBy
  apply Ends.bind (groupKeys_nodup hscope List.nodup_nil request.fragments)
  rintro ⟨found, names⟩ hnames
  have htransform : Preserve request.keys request.keys (request.enclosed (transformOf found)) :=
    enclosed_preserve (transformOf_fit found).1 ((transformOf_fit found).2 _)
  dsimp only
  split
  · exact ⟨[], htransform.append ⟨isFit_single trivial, rfl, rfl⟩⟩
  · exact ⟨names, htransform.append ⟨isFit_single hnames, rfl, rfl⟩⟩

theorem planSlice_preserve :
    Gives (Preserve request.keys request.keys) request.planSlice := by
  unfold planSlice
  apply Ends.bind_any (gives_any _)
  intro positions
  exact ⟨isFit_single trivial, rfl, rfl⟩

theorem planArrange_preserve (hkeys : request.keys.Nodup) :
    Gives (Preserve request.keys request.keys) request.planArrange := by
  unfold planArrange
  split
  · exact preserve_nil _
  · apply Ends.bind_any (gives_any _)
    rintro ⟨found, keys⟩
    have hsorting : Preserve [] [] (transformOf found ++ [.sort keys] ++ [.dropReserved]) := by
      constructor
      · intro op hop
        simp only [List.mem_append, List.mem_singleton] at hop
        rcases hop with (hop | rfl) | rfl
        · exact (transformOf_fit found).1 op hop
        · trivial
        · trivial
      · rw [List.foldl_append]
        rfl
      · rw [List.foldl_append, List.foldl_append, (transformOf_fit found).2]
        rfl
    have hflat := whileFlat_preserve hkeys hsorting
    constructor
    · intro op hop
      rcases List.mem_append.1 hop with hop | hop
      · exact rowColumns_fit hop
      · exact hflat.fit op hop
    · exact whileFlat_tidy request.rowColumns (transformOf found ++ [.sort keys])
    · rw [List.foldl_append, rowColumns_keys, hflat.keys]

theorem planDistinct_preserve (hkeys : request.keys.Nodup) :
    Gives (Preserve request.keys request.keys) request.planDistinct := by
  unfold planDistinct
  apply Ends.bind_any (gives_any _)
  intro names
  exact whileFlat_preserve hkeys (enclosed_preserve (isFit_single trivial) rfl)

theorem planDropMissing_preserve (hkeys : request.keys.Nodup) :
    Gives (Preserve request.keys request.keys) request.planDropMissing := by
  unfold planDropMissing
  apply Ends.bind_any (gives_any _)
  intro names
  apply whileFlat_preserve hkeys
  exact ⟨isFit_single trivial, rfl, rfl⟩

end Request

namespace Verb

def keysAfter? (verb : Verb) (keys : List String) : Option (List String) :=
  match verb with
  | summarize | summarise => some keys.dropLast
  | ungroup => some []
  | groupBy | rename => none
  | select | transmute | mutate | filter | slice | arrange | distinct | dropMissing => some keys

/-- Every verb but the one that renames columns keeps tables, and leaves the keys that it should. -/
theorem plan_preserve {verb : Verb} (hverb : verb ≠ .rename) {request : Request}
    (hscope : request.fullScope.columns.Nodup) (hkeys : request.keys.Nodup) :
    Gives (fun ops => exists after, Operation.Preserve request.keys after ops ∧
      forall known, verb.keysAfter? request.keys = some known -> after = known)
      (verb.plan request) := by
  have hknown : forall {outcome : Outcome (List Operation)} {after : List String},
      verb.keysAfter? request.keys = some after ->
      Gives (Operation.Preserve request.keys after) outcome ->
      Gives (fun ops => exists after, Operation.Preserve request.keys after ops ∧
        forall known, verb.keysAfter? request.keys = some known -> after = known) outcome := by
    intro outcome after hafter h
    apply h.weaken
    intro ops hops
    refine ⟨after, hops, ?_⟩
    intro known hknown
    rw [hafter] at hknown
    exact Option.some.inj hknown
  cases verb with
  | select => exact hknown rfl Request.planSelect_preserve
  | transmute => exact hknown rfl Request.planSelect_preserve
  | rename => exact absurd rfl hverb
  | mutate => exact hknown rfl Request.planMutate_preserve
  | summarize => exact hknown rfl (Request.planSummarize_preserve hkeys)
  | summarise => exact hknown rfl (Request.planSummarize_preserve hkeys)
  | filter => exact hknown rfl Request.planFilter_preserve
  | groupBy =>
      apply (Request.planGroupBy_preserve hscope).weaken
      rintro ops ⟨after, hops⟩
      refine ⟨after, hops, ?_⟩
      intro known hafter
      cases hafter
  | ungroup =>
      have hflat : Operation.Preserve request.keys [] [.ungroup] :=
        ⟨Operation.isFit_single trivial, rfl, rfl⟩
      exact hknown rfl hflat
  | slice => exact hknown rfl Request.planSlice_preserve
  | arrange => exact hknown rfl (Request.planArrange_preserve hkeys)
  | distinct => exact hknown rfl (Request.planDistinct_preserve hkeys)
  | dropMissing => exact hknown rfl (Request.planDropMissing_preserve hkeys)

end Verb

/-!
# Calls
-/

namespace Invocation

theorem fullScope_nodup {request : Request} (h : request.scope.columns.Nodup) :
    request.fullScope.columns.Nodup := by
  unfold Request.fullScope
  dsimp only
  split
  · split
    · exact Compile.addColumn_nodup (Compile.addColumn_nodup h _) _
    · exact Compile.addColumn_nodup h _
  · split
    · exact Compile.addColumn_nodup h _
    · exact h

theorem operations_of_run {call : Invocation} {settings : Settings} {data result : Dataset}
    (h : (call.run settings data).result = .ok result) :
    exists request ops, call.request data = .ok request ∧ call.verb.plan request = .ok ops ∧
      Operation.applyAll call.env.functions ops data = .ok result := by
  cases hplan : call.plan data with
  | error failure =>
      rw [run, hplan] at h
      cases h
  | ok plan =>
      rcases plan_eq_ok hplan with ⟨request, ops, hrequest, hops, _⟩
      refine ⟨request, ops, hrequest, hops, ?_⟩
      rw [← run_result (operations_of_request hrequest hops) settings, h]

theorem run_isSound {call : Invocation} (hverb : call.verb ≠ .rename) {data result : Dataset}
    (hdata : data.IsSound) {settings : Settings}
    (h : (call.run settings data).result = .ok result) :
    result.IsSound ∧
      forall known, call.verb.keysAfter? data.groups = some known -> result.groups = known := by
  rcases operations_of_run h with ⟨request, ops, hrequest, hops, hresult⟩
  rcases request_of_ok hrequest with ⟨_, hsame, hcolumns⟩
  have hkeys : request.keys = data.groups := by
    rw [Request.keys, hsame]
  have hscope : request.fullScope.columns.Nodup := by
    apply fullScope_nodup
    rw [hcolumns]
    exact hdata.nodup
  have hplan := Verb.plan_preserve hverb hscope (hkeys ▸ hdata.distinct)
  rw [hops, hkeys] at hplan
  rcases hplan with ⟨after, hpreserve, hknown⟩
  have htraced := Operation.applyAll_traced hdata.traced hpreserve.fit hresult
  rw [hpreserve.tidy, hpreserve.keys] at htraced
  refine ⟨htraced.isSound, ?_⟩
  intro known hafter
  rw [htraced.groups, hknown known hafter]

end Invocation

/-!
# Counting
-/

theorem Report.next_result {alpha beta : Type} (report : Report alpha)
    (step : alpha -> Report beta) :
    (report.next step).result = report.result >>= fun value => (step value).result := by
  unfold Report.next
  cases report.result with
  | error failure => rfl
  | ok value => rfl

@[simp] theorem Report.silent_result {alpha : Type} (result : Outcome alpha) :
    (Report.silent result).result = result := rfl

namespace Dataset

variable {settings : Settings} {env : Environment} {sorted : Bool} {name : String}
variable {data result : Dataset}

theorem invoke_isSound {verb : Verb} (hverb : verb ≠ .rename) {values : List Value}
    (hdata : data.IsSound) (h : (verb.invoke settings env values data).result = .ok result) :
    result.IsSound ∧
      forall known, verb.keysAfter? data.groups = some known -> result.groups = known :=
  Invocation.run_isSound hverb hdata h

theorem sortedByCount_isSound (hdata : data.IsSound)
    (h : (data.sortedByCount settings env sorted name).result = .ok result) :
    result.IsSound ∧ result.groups = data.groups := by
  unfold sortedByCount at h
  split at h
  · rcases invoke_isSound (by decide) hdata h with ⟨hresult, hkeys⟩
    exact ⟨hresult, hkeys data.groups rfl⟩
  · cases h
    exact ⟨hdata, rfl⟩

theorem tally_isSound (hdata : data.IsSound)
    (h : (data.tally settings sorted name).result = .ok result) :
    result.IsSound ∧ result.groups = data.groups.dropLast := by
  rw [tally, Report.next_result] at h
  rcases bind_eq_ok_iff.1 h with ⟨counted, hcounted, h⟩
  rcases invoke_isSound (by decide) hdata hcounted with ⟨hsound, hkeys⟩
  rcases sortedByCount_isSound hsound h with ⟨hresult, hsame⟩
  exact ⟨hresult, hsame.trans (hkeys _ rfl)⟩

theorem count_isSound {values : List Value} (hdata : data.IsSound)
    (h : (data.count settings env values sorted name).result = .ok result) :
    result.IsSound ∧ result.groups = data.groups := by
  simp only [count, Report.next_result] at h
  rcases bind_eq_ok_iff.1 h with ⟨regrouped, hregrouped, h⟩
  rcases bind_eq_ok_iff.1 hregrouped with ⟨counted, hcounted, hregrouped⟩
  rcases bind_eq_ok_iff.1 hcounted with ⟨grouped, hgrouped, hcounted⟩
  rcases bind_eq_ok_iff.1 hgrouped with ⟨symbols, -, hgrouped⟩
  have hsource : (if grouped.isGrouped then grouped else data).IsSound := by
    split
    · exact (invoke_isSound (by decide) hdata hgrouped).1
    · exact hdata
  have hsound := (invoke_isSound (by decide) hsource hcounted).1
  rcases regroup_eq_ok hregrouped with ⟨rfl, hkeys⟩
  have hrestored := (hsound.traced.regrouped hdata.distinct hkeys).isSound
  rcases sortedByCount_isSound hrestored h with ⟨hresult, hsame⟩
  exact ⟨hresult, hsame⟩

/-- Calls that succeed on a well-formed dataset give well-formed datasets, whatever columns they
compute and under whatever names: no reserved column is left.  Most verbs keep the keys, summaries
all but the last, and counting gives the original ones back. -/
theorem verbs_preserve_isSound (hdata : data.IsSound) (settings : Settings) :
    (forall (call : Invocation) (result : Dataset), call.verb ≠ .rename ->
      (call.run settings data).result = .ok result ->
        result.IsSound ∧
          (call.verb ∈ [.mutate, .filter, .select, .transmute, .slice, .arrange, .distinct,
              .dropMissing] -> result.groups = data.groups) ∧
          (call.verb = .summarize ∨ call.verb = .summarise ->
            result.groups = data.groups.dropLast) ∧
          (call.verb = .ungroup -> result.groups = [])) ∧
    (forall (env : Environment) (values : List Value) (sorted : Bool) (name : String)
        (result : Dataset), (data.count settings env values sorted name).result = .ok result ->
      result.IsSound ∧ result.groups = data.groups) ∧
    (forall (sorted : Bool) (name : String) (result : Dataset),
        (data.tally settings sorted name).result = .ok result ->
      result.IsSound ∧ result.groups = data.groups.dropLast) := by
  refine ⟨?_, fun _ _ _ _ _ h => count_isSound hdata h, fun _ _ _ h => tally_isSound hdata h⟩
  intro call result hverb h
  rcases Invocation.run_isSound hverb hdata h with ⟨hresult, hkeys⟩
  refine ⟨hresult, ?kept, ?peeled, ?flat⟩
  case kept =>
    intro hmem
    apply hkeys
    simp only [List.mem_cons, List.not_mem_nil, or_false] at hmem
    rcases hmem with h | h | h | h | h | h | h | h <;> rw [h] <;> rfl
  case peeled =>
    intro hmem
    apply hkeys
    rcases hmem with h | h <;> rw [h] <;> rfl
  case flat =>
    intro hungroup
    apply hkeys
    rw [hungroup]
    rfl

end Dataset

namespace Invocation

def groupByColumn : Invocation :=
  { copyColumn with verb := .groupBy, values := [.sym "x"], named := [] }

theorem groupByColumn_result :
    (groupByColumn.run Settings.initial pairs).result = .ok { pairs with groups := ["x"] } := by
  have hops : groupByColumn.operations pairs = .ok [.dropReserved, .groupBy ["x"]] := rfl
  rw [run_result hops]
  rfl

theorem pairs_isSound : pairs.IsSound where
  toWellFormed := pairs_wellFormed
  distinct := by decide

theorem verbs_preserve_isSound_groupByColumn : { pairs with groups := ["x"] }.IsSound :=
  ((verbs_preserve_isSound pairs_isSound Settings.initial).1 groupByColumn _ (by decide)
    groupByColumn_result).1

end Invocation

end Wrangle
