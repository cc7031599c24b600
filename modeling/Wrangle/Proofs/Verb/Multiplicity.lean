import Wrangle.Proofs.Dataset.Reducing
import Wrangle.Proofs.Fragment.RoundTrip
import Wrangle.Proofs.Verb.Chaining

/-!
# Numbers of summary rows

The table of summaries is collected by name: for every group, each key and each
summary adds its value to the values of its name.  So a name that is used twice gets
two values from every group.  When all names are used equally often, the columns are
of equal length nevertheless, and the table has that many rows for every group.
-/

namespace Wrangle

open Dataset

namespace Dataset

variable {callers : CallerFunctions} {data result : Dataset} {groups : List Partition}
variable {assigns : List Assign} {names : List String}

/-!
# Collecting by name
-/

theorem groupRow_names {group : Partition} {entries : List (String × Value)}
    (hlength : group.key.length = data.groups.length)
    (h : groupRow callers data assigns group = .ok entries) :
    entries.map Prod.fst = data.groups ++ assigns.map Assign.name := by
  rcases exists_of_groupRow h with ⟨found, rfl, hfound⟩
  rw [List.map_append, hfound, List.map_fst_zip (le_of_eq hlength.symm)]

theorem length_entriesNamed {rows : List (List (String × Value))}
    (h : forall entries, entries ∈ rows -> entries.map Prod.fst = names) (name : String) :
    (entriesNamed rows name).length = names.count name * rows.length := by
  have hrow : forall entries, entries ∈ rows ->
      ((entries.filter fun entry => entry.1 == name).map Prod.snd).length = names.count name := by
    intro entries hentries
    rw [← h entries hentries, List.length_map, List.count, List.countP_map,
      ← List.countP_eq_length_filter]
    rfl
  induction rows with
  | nil => rfl
  | cons entries rest ih =>
      rcases List.forall_mem_cons.1 h with ⟨_, hothers⟩
      rcases List.forall_mem_cons.1 hrow with ⟨hfirst, hrest⟩
      have hrows := ih hothers hrest
      unfold entriesNamed at hrows ⊢
      rw [List.flatMap_cons, List.length_append, hfirst, hrows, List.length_cons, Nat.mul_succ,
        Nat.add_comm]

theorem nrows_ofColumns {columns : List (String × List Value)}
    (h : ofColumns columns = .ok result) :
    (columns = [] -> result.nrows = 0) ∧
      forall column, column ∈ columns -> result.nrows = column.2.length := by
  rcases exists_of_ofColumns h with ⟨n, hnone, hlengths, rfl⟩
  have hnrows : (flat (columns.map Prod.fst)
      ((List.range n).map (rowOf (columns.map Prod.snd)))).nrows = n := by
    simp [nrows, flat]
  rw [hnrows]
  exact ⟨hnone, fun column hcolumn => (hlengths column hcolumn).symm⟩

/-- A table of summaries has a row for each group and each use of a name. -/
theorem summarize_nrows (hgroups : data.partitions = .ok groups)
    (h : summarize callers assigns data = .ok result) :
    (data.groups ++ assigns.map Assign.name = [] -> result.nrows = 0) ∧
      forall name, name ∈ data.groups ++ assigns.map Assign.name ->
        result.nrows = (data.groups ++ assigns.map Assign.name).count name * groups.length := by
  rcases bind_eq_ok_iff.1 h with ⟨found, hfound, h⟩
  rw [hgroups] at hfound
  cases hfound
  rcases bind_eq_ok_iff.1 h with ⟨rows, hrows, h⟩
  have hnames : forall entries, entries ∈ rows ->
      entries.map Prod.fst = data.groups ++ assigns.map Assign.name := by
    have hall : Ends (fun _ => True) (fun rows => forall entries, entries ∈ rows ->
        entries.map Prod.fst = data.groups ++ assigns.map Assign.name)
        (groups.mapM (groupRow callers data assigns)) := by
      apply Ends.mapM
      intro group hgroup
      cases hrow : groupRow callers data assigns group with
      | error failure => trivial
      | ok entries => exact groupRow_names (key_length hgroups hgroup) hrow
    rw [hrows] at hall
    exact hall
  have hlength : rows.length = groups.length := length_of_mapM_eq_ok hrows
  rcases nrows_ofColumns h with ⟨hnone, hsome⟩
  constructor
  · intro hempty
    apply hnone
    rw [hempty]
    rfl
  · intro name hname
    rw [hsome _ (List.mem_map_of_mem (List.mem_eraseDups.2 hname)),
      length_entriesNamed hnames, hlength]

/-- As many rows as groups: either there is no group, or no name is used twice. -/
theorem nrows_eq_length_iff {nrows length : Nat} (hnone : names = [] -> nrows = 0)
    (hsome : forall name, name ∈ names -> nrows = names.count name * length) :
    nrows = length <-> length = 0 ∨ (names ≠ [] ∧ names.Nodup) := by
  constructor
  · intro hnrows
    by_cases hlength : length = 0
    · exact Or.inl hlength
    · right
      constructor
      · intro hempty
        exact hlength (hnrows.symm.trans (hnone hempty))
      · rw [List.nodup_iff_count_le_one]
        intro name
        by_cases hname : name ∈ names
        · have hcount := hsome name hname
          rw [hnrows] at hcount
          exact le_of_eq (Nat.eq_of_mul_eq_mul_right (Nat.pos_of_ne_zero hlength)
            (hcount.symm.trans (Nat.one_mul length).symm))
        · rw [List.count_eq_zero_of_not_mem hname]
          exact Nat.zero_le 1
  · rintro (rfl | ⟨hnames, hnodup⟩)
    · cases names with
      | nil => exact hnone rfl
      | cons name rest => exact hsome name (List.mem_cons_self ..)
    · rcases List.exists_mem_of_ne_nil _ hnames with ⟨name, hname⟩
      rw [hsome name hname, List.count_eq_one_of_mem hnodup hname, Nat.one_mul]

end Dataset

/-!
# Calls
-/

namespace Invocation

variable {call : Invocation} {data wide result : Dataset} {found : List ResolvedFragment}
variable {assigns : List Assign}

/-- What the summaries of a call compile to, and the padded dataset that they are computed on. -/
structure Condenses (call : Invocation) (data : Dataset) (found : List ResolvedFragment)
    (assigns : List Assign) (wide : Dataset) : Prop where
  summarizes : call.verb = .summarize ∨ call.verb = .summarise
  fragments : call.fragments = .ok found
  compiled : Request.assigns .aggregate (call.requestOf data found).fullScope found = .ok assigns
  padded : Operation.applyAll call.env.functions (call.requestOf data found).rowColumns data =
    .ok wide

theorem plan_summarize (hverb : call.verb = .summarize ∨ call.verb = .summarise)
    (request : Request) : call.verb.plan request = request.planSummarize := by
  rcases hverb with hverb | hverb
  · rw [hverb]
    rfl
  · rw [hverb]
    rfl

theorem Condenses.plan_eq (h : call.Condenses data found assigns wide) :
    call.verb.plan (call.requestOf data found) =
      .ok ((call.requestOf data found).enclosed [.summarize assigns] ++
        if data.groups.dropLast.isEmpty then [] else [.regroup data.groups.dropLast]) := by
  rw [plan_summarize h.summarizes, Request.planSummarize]
  show (Request.assigns .aggregate _ found >>= _) = _
  rw [h.compiled]
  rfl

theorem Condenses.run_eq (h : call.Condenses data found assigns wide) (settings : Settings) :
    (call.run settings data).result = summarize call.env.functions assigns wide >>=
      Operation.applyAll call.env.functions (.dropReserved ::
        if data.groups.dropLast.isEmpty then [] else [.regroup data.groups.dropLast]) := by
  rw [run_result (operations_of_request (request_of_fragments h.fragments data) h.plan_eq),
    Request.enclosed, List.append_assoc, List.append_assoc, Operation.applyAll_append, h.padded,
    ok_bind, Operation.applyAll_append, Operation.applyAll_single]
  rfl

theorem Condenses.summarized (h : call.Condenses data found assigns wide) {settings : Settings}
    (hrun : (call.run settings data).result = .ok result) :
    exists table, summarize call.env.functions assigns wide = .ok table ∧
      result = { table.dropped isReserved with groups := data.groups.dropLast } := by
  rw [h.run_eq] at hrun
  rcases bind_eq_ok_iff.1 hrun with ⟨table, htable, hrest⟩
  refine ⟨table, htable, ?_⟩
  have hflat : table.groups = [] := (summarize_isTable htable).2
  have hdrop : Operation.dropReserved.apply call.env.functions table =
      .ok (table.dropped isReserved) :=
    drop_eq_ok fun key hkey => by rw [hflat] at hkey; cases hkey
  rw [← List.singleton_append, Operation.applyAll_append, Operation.applyAll_single, hdrop,
    ok_bind] at hrest
  split at hrest
  · rename_i hnone
    cases hrest
    have hsame : data.groups.dropLast = (table.dropped isReserved).groups := by
      rw [dropped_groups, hflat]
      exact List.isEmpty_iff.1 hnone
    rw [hsame]
  · rw [Operation.applyAll_single] at hrest
    exact (regroup_eq_ok hrest).1

theorem exists_condenses (hverb : call.verb = .summarize ∨ call.verb = .summarise)
    {settings : Settings} (h : (call.run settings data).result = .ok result) :
    exists found assigns wide, call.Condenses data found assigns wide := by
  rcases run_eq_ok_iff.1 h with ⟨found, ops, hfound, hops, hresult⟩
  rw [plan_summarize hverb] at hops
  rcases bind_eq_ok_iff.1 hops with ⟨assigns, hassigns, hops⟩
  cases hops
  rw [Request.enclosed, List.append_assoc, List.append_assoc, Operation.applyAll_append] at hresult
  rcases bind_eq_ok_iff.1 hresult with ⟨wide, hwide, _⟩
  exact ⟨found, assigns, wide, hverb, hfound, hassigns, hwide⟩

theorem summarize_of_run (hverb : call.verb = .summarize ∨ call.verb = .summarise)
    (hdata : data.WellFormed) {settings : Settings}
    (h : (call.run settings data).result = .ok result) :
    exists plan assigns names wide table, call.plan data = .ok plan ∧
      .operation (.summarize assigns) ∈ plan.steps ∧ data.Pads names wide ∧
      summarize call.env.functions assigns wide = .ok table ∧ result.nrows = table.nrows := by
  rcases exists_condenses hverb h with ⟨found, assigns, wide, hcondenses⟩
  rcases hcondenses.summarized h with ⟨table, htable, rfl⟩
  have hplan : exists plan, call.plan data = .ok plan ∧
      .operation (.summarize assigns) ∈ plan.steps := by
    rw [plan, operations_of_request (request_of_fragments hcondenses.fragments data)
      hcondenses.plan_eq]
    refine ⟨_, rfl, ?_⟩
    apply List.mem_map_of_mem
    simp [Request.enclosed]
  rcases hplan with ⟨plan, hplan, hmem⟩
  exact ⟨plan, assigns, _, wide, table, hplan, hmem, hdata.pads_rowColumns hcondenses.padded,
    htable, dropped_nrows⟩

/-- A call that summarizes a well-formed dataset and succeeds gives, for each group, as many rows
as a name occurs among the keys and the summaries.  So there is one row for each group exactly
when these names are distinct, if there are groups at all. -/
theorem summarize_row_per_group_iff (hverb : call.verb = .summarize ∨ call.verb = .summarise)
    (hdata : data.WellFormed) {settings : Settings}
    (h : (call.run settings data).result = .ok result) :
    exists plan assigns groups, call.plan data = .ok plan ∧
      .operation (.summarize assigns) ∈ plan.steps ∧ data.partitions = .ok groups ∧
      (forall name, name ∈ data.groups ++ assigns.map Assign.name ->
        result.nrows = (data.groups ++ assigns.map Assign.name).count name * groups.length) ∧
      (result.nrows = groups.length <-> groups.length = 0 ∨
        (data.groups ++ assigns.map Assign.name ≠ [] ∧
          (data.groups ++ assigns.map Assign.name).Nodup)) := by
  rcases summarize_of_run hverb hdata h with
    ⟨plan, assigns, names, wide, table, hplan, hmem, hpads, htable, hnrows⟩
  rcases bind_eq_ok_iff.1 htable with ⟨groups, hgroups, _⟩
  rw [ofFault_eq_ok_iff] at hgroups
  have hcounts := summarize_nrows hgroups htable
  rw [hpads.groups, ← hnrows] at hcounts
  refine ⟨plan, assigns, groups, hplan, hmem, hpads.partitions ▸ hgroups, hcounts.2, ?_⟩
  exact nrows_eq_length_iff hcounts.1 hcounts.2

def summarizeTwice : Invocation :=
  { copyColumn with verb := .summarize, values := [.str "s = n()", .str "s = n()"], named := [] }

def singles : Dataset :=
  flat ["x"] [[.int 1], [.int 2]]

theorem singles_wellFormed : singles.WellFormed := by decide

theorem summarizeTwice_result :
    (summarizeTwice.run Settings.initial singles).result =
      .ok (flat ["s"] [[.int 2], [.int 2]]) := by
  have hparse : parse true "s = n()" = .ok (.assignment "s" (.call countFunction [] [] false)) := by
    have hts : tokenize "s = n()" =
        .ok [⟨.identifier "s", 0⟩, ⟨.symbol .assign, 2⟩, ⟨.identifier "n", 4⟩,
          ⟨.symbol .openParen, 5⟩, ⟨.symbol .closeParen, 6⟩, ⟨.finish, 7⟩] := rfl
    exact Grammar.parse_eq_ok_iff.mpr ⟨by decide, _, hts, rfl⟩
  have hfragments : summarizeTwice.fragments = .ok (List.replicate 2
      ⟨.assignment "s" (.call countFunction [] [] false), true, false, "s = n()"⟩) := by
    unfold fragments Verb.fragmentsOf
    simp only [summarizeTwice, List.mapM_cons, List.mapM_nil, Verb.fragmentOf, hparse]
    rfl
  have hops : summarizeTwice.operations singles = .ok [.addRowCount countColumn,
      .summarize (List.replicate 2 { name := "s", expr := .groupSize, source := some "s = n()" }),
      .dropReserved] := by
    rw [operations, request_of_fragments hfragments]
    rfl
  rw [run_result hops]
  rfl

/-- Two rows for the only group. -/
theorem summarize_row_per_group_iff_twice :
    exists (result : Dataset) (assigns : List Assign) (groups : List Partition),
      (summarizeTwice.run Settings.initial singles).result = .ok result ∧ result.nrows = 2 ∧
      singles.partitions = .ok groups ∧ groups.length = 1 ∧
      ¬(singles.groups ++ assigns.map Assign.name ≠ [] ∧
        (singles.groups ++ assigns.map Assign.name).Nodup) := by
  rcases summarize_row_per_group_iff (Or.inl rfl) singles_wellFormed summarizeTwice_result with
    ⟨_, assigns, groups, _, _, hgroups, _, hiff⟩
  cases hgroups
  refine ⟨_, assigns, _, summarizeTwice_result, rfl, rfl, rfl, ?_⟩
  intro hdistinct
  cases hiff.2 (Or.inr hdistinct)

end Invocation
end Wrangle
