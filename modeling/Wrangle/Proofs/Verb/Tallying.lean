import Wrangle.Proofs.Dataset.Conditions
import Wrangle.Proofs.Fragment.Names
import Wrangle.Proofs.Interpolation.Resolved
import Wrangle.Proofs.Verb.Counting
import Wrangle.Proofs.Verb.Multiplicity
import Wrangle.Proofs.Verb.SortKeys

/-!
# Names of counts

The name of the counts is put between backticks, as part of a fragment.  A name with backticks or
backslashes in it is read as another name from there, or not at all.
-/

namespace Wrangle

open Dataset Compile

/-!
# Columns that are added on the way
-/

namespace Operation

def AddsReserved : Operation -> Prop
  | addRowCount column => isReserved column = true
  | addRowNumber column => isReserved column = true
  | transform assigns => forall assign, assign ∈ assigns -> isReserved assign.name = true
  | sort _ => True
  | dropReserved => True
  | ungroup => True
  | regroup _ => True
  | _ => False

variable {callers : CallerFunctions} {data result : Dataset} {name : String}

theorem mem_of_setColumn {values : List Value} {column : String}
    (hcolumn : isReserved column = true) (hname : isReserved name = false)
    (h : name ∈ (data.setColumn column values).header) : name ∈ data.header := by
  rw [setColumn_header, mem_headerWith_iff] at h
  rcases h with h | rfl
  · exact h
  · rw [hcolumn] at hname
    cases hname

theorem mem_of_transform {assigns : List Assign}
    (hassigns : forall assign, assign ∈ assigns -> isReserved assign.name = true)
    (hname : isReserved name = false)
    (hresult : Dataset.transform callers assigns data = .ok result) (h : name ∈ result.header) :
    name ∈ data.header := by
  induction assigns generalizing data with
  | nil =>
      cases hresult
      exact h
  | cons assign rest ih =>
      rcases List.forall_mem_cons.1 hassigns with ⟨hfirst, hrest⟩
      rcases bind_eq_ok_iff.1 hresult with ⟨values, _, hresult⟩
      exact mem_of_setColumn hfirst hname (ih hrest hresult)

theorem mem_of_apply {op : Operation} (hop : op.AddsReserved) (hname : isReserved name = false)
    (hresult : op.apply callers data = .ok result) (h : name ∈ result.header) :
    name ∈ data.header := by
  cases op with
  | addRowCount column =>
      rcases bind_eq_ok_iff.1 hresult with ⟨groups, _, hresult⟩
      cases hresult
      exact mem_of_setColumn hop hname h
  | addRowNumber column =>
      rcases bind_eq_ok_iff.1 hresult with ⟨groups, _, hresult⟩
      cases hresult
      exact mem_of_setColumn hop hname h
  | transform assigns => exact mem_of_transform hop hname hresult h
  | sort keys =>
      rcases sort_rows hresult with ⟨rows, rfl, _⟩
      exact h
  | dropReserved =>
      have hdrop : Operation.drop isReserved data = .ok result := hresult
      unfold drop at hdrop
      split at hdrop
      · rcases eq_of_checked hdrop with ⟨rfl, _⟩
        exact (dropColumns_header_sublist isReserved).subset h
      · cases hdrop
        exact h
  | ungroup =>
      cases hresult
      exact h
  | regroup keys =>
      rcases Dataset.regroup_eq_ok hresult with ⟨rfl, _⟩
      exact h
  | _ => exact hop.elim

theorem mem_of_applyAll {ops : List Operation} (hops : forall op, op ∈ ops -> op.AddsReserved)
    (hname : isReserved name = false) (hresult : applyAll callers ops data = .ok result)
    (h : name ∈ result.header) : name ∈ data.header := by
  induction ops generalizing data with
  | nil =>
      cases hresult
      exact h
  | cons op rest ih =>
      rcases List.forall_mem_cons.1 hops with ⟨hfirst, hrest⟩
      rcases bind_eq_ok_iff.1 hresult with ⟨next, hnext, hresult⟩
      exact mem_of_apply hfirst hname hnext (ih hrest hresult)

end Operation

namespace Request

theorem isReserved_of_orderKey {scope : Scope} {node : Node}
    {found : List Assign × SortKey × Scope} (h : orderKey scope node = .ok found) :
    forall assign, assign ∈ found.1 -> isReserved assign.name = true := by
  rcases bind_eq_ok_iff.1 h with ⟨stripped, _, h⟩
  dsimp only at h
  split at h
  · cases h
    nofun
  · rcases bind_eq_ok_iff.1 h with ⟨e, _, h⟩
    cases h
    intro assign hassign
    rw [List.mem_singleton.1 hassign]
    exact isReserved_keyColumn _

theorem isReserved_of_sortKeys {fragments : List ResolvedFragment} {scope : Scope}
    {found : List Assign × List SortKey} (h : sortKeys scope fragments = .ok found) :
    forall assign, assign ∈ found.1 -> isReserved assign.name = true := by
  induction fragments generalizing scope found with
  | nil =>
      cases h
      nofun
  | cons fragment rest ih =>
      rcases bind_eq_ok_iff.1 h with ⟨⟨first, key, after⟩, hfirst, h⟩
      rcases bind_eq_ok_iff.1 h with ⟨⟨others, keys⟩, hothers, h⟩
      cases h
      intro assign hassign
      rcases List.mem_append.1 hassign with hassign | hassign
      · rcases List.mem_map.1 hassign with ⟨source, hsource, rfl⟩
        exact isReserved_of_orderKey (inFragment_eq_ok_iff.1 hfirst) source hsource
      · exact ih hothers assign hassign

theorem addsReserved_rowColumns {request : Request} :
    forall op, op ∈ request.rowColumns -> op.AddsReserved := by
  intro op hop
  rw [rowColumns, List.mem_append, List.mem_ite_nil_right, List.mem_ite_nil_right] at hop
  rcases hop with ⟨_, hop⟩ | ⟨_, hop⟩
  · rw [List.mem_singleton.1 hop]
    exact isReserved_countColumn
  · rw [List.mem_singleton.1 hop]
    exact isReserved_rowNumberColumn

theorem addsReserved_planArrange {request : Request} {ops : List Operation}
    (h : request.planArrange = .ok ops) : forall op, op ∈ ops -> op.AddsReserved := by
  unfold planArrange at h
  split at h
  · cases h
    nofun
  · rcases bind_eq_ok_iff.1 h with ⟨⟨found, keys⟩, hfound, h⟩
    cases h
    have hsorting : forall op, op ∈ (transformOf found ++ [.sort keys]) ++ [.dropReserved] ->
        op.AddsReserved := by
      intro op hop
      rw [List.mem_append, List.mem_append, List.mem_singleton, List.mem_singleton] at hop
      rcases hop with (hop | rfl) | rfl
      · unfold transformOf at hop
        split at hop
        · cases hop
        · rw [List.mem_singleton.1 hop]
          exact isReserved_of_sortKeys hfound
      · trivial
      · trivial
    intro op hop
    rcases List.mem_append.1 hop with hop | hop
    · exact addsReserved_rowColumns op hop
    · unfold whileFlat at hop
      split at hop
      · exact hsorting op hop
      · rw [List.mem_append, List.mem_append, List.mem_singleton, List.mem_singleton] at hop
        rcases hop with (rfl | hop) | rfl
        · trivial
        · exact hsorting op hop
        · trivial

end Request

theorem Dataset.mem_of_sortedByCount {settings : Settings} {env : Environment} {sorted : Bool}
    {name column : String} {data result : Dataset} (hcolumn : isReserved column = false)
    (hresult : (data.sortedByCount settings env sorted name).result = .ok result)
    (h : column ∈ result.header) : column ∈ data.header := by
  unfold sortedByCount at hresult
  split at hresult
  · rw [Verb.invoke_result] at hresult
    rcases Invocation.run_eq_ok_iff.1 hresult with ⟨found, ops, _, hops, hresult⟩
    exact Operation.mem_of_applyAll (Request.addsReserved_planArrange hops) hcolumn hresult h
  · cases hresult
    exact h

/-!
# Numbers of rows
-/

namespace Dataset

variable {data wide : Dataset} {groups : List Partition} {name : String}

def sizeTable (data : Dataset) (name : String) (groups : List Partition) (keys : List String) :
    Dataset where
  header := data.groups ++ [name]
  rows := groups.map fun group => group.key ++ [.int (Int.ofNat group.size)]
  groups := keys

theorem sizeTable_last (groups : List Partition) (keys : List String) :
    (data.sizeTable name groups keys).header.getLast? = some name :=
  List.getLast?_concat

theorem sizeTable_hasWidth (hgroups : data.partitions = .ok groups) (keys : List String) :
    (data.sizeTable name groups keys).HasWidth := by
  intro row hrow
  rcases List.mem_map.1 hrow with ⟨group, hgroup, rfl⟩
  simp [sizeTable, key_length hgroups hgroup]

theorem sizeTable_wellFormed (hdata : data.IsSound) (hgroups : data.partitions = .ok groups)
    (hname : isReserved name = false) (hnew : name ∉ data.groups) {keys : List String}
    (hkeys : forall key, key ∈ keys -> key ∈ data.groups) :
    (data.sizeTable name groups keys).WellFormed where
  nodup := by
    refine List.nodup_append.2 ⟨hdata.distinct, List.nodup_singleton name, ?_⟩
    intro key hkey other hother heq
    exact hnew (List.mem_singleton.1 hother ▸ heq ▸ hkey)
  unreserved := by
    intro column hcolumn
    rcases List.mem_append.1 hcolumn with hcolumn | hcolumn
    · exact hdata.unreserved column (hdata.keys column hcolumn)
    · rw [List.mem_singleton.1 hcolumn]
      exact hname
  width := sizeTable_hasWidth hgroups keys
  keys := fun key hkey => List.mem_append_left _ (hkeys key hkey)

theorem exists_sorted_sizes (hgroups : data.partitions = .ok groups) (hnew : name ∉ data.groups)
    (keys : List String) :
    exists rows, sort [descending name] (data.sizeTable name groups keys).ungroup =
      .ok { (data.sizeTable name groups keys).ungroup with rows := rows } := by
  have hcell : forall row, row ∈ (data.sizeTable name groups keys).rows -> exists n,
      cellAt ((data.groups ++ [name]).idxOf name) row = .int n := by
    intro row hrow
    rcases List.mem_map.1 hrow with ⟨group, hgroup, rfl⟩
    refine ⟨Int.ofNat group.size, ?_⟩
    rw [List.idxOf_append_of_notMem hnew, List.idxOf_cons_self, Nat.add_zero,
      ← key_length hgroups hgroup, cellAt, List.getElem?_concat_length]
    rfl
  have hsort : exists sorted, sortBy (data.groups ++ [name]) (descending name)
      (data.sizeTable name groups keys).rows = .ok sorted ∧
        IsArrangement
          (fun row => OrderDual.toDual (cellAt ((data.groups ++ [name]).idxOf name) row).place)
          (data.sizeTable name groups keys).rows sorted := by
    apply exists_sortBy_descending
    · exact List.mem_append_right _ (List.mem_singleton_self name)
    · exact sizeTable_hasWidth hgroups keys
    · intro row hrow
      rcases hcell row hrow with ⟨n, hn⟩
      rw [hn]
      rfl
    · intro row hrow
      rcases hcell row hrow with ⟨n, hn⟩
      rw [hn]
      rfl
  rcases hsort with ⟨rows, hrows, _⟩
  refine ⟨rows, ?_⟩
  rw [sort]
  show (sortRows _ _ _).map _ = _
  rw [sortRows, sortRows, ok_bind]
  show (sortBy (data.groups ++ [name]) _ (data.sizeTable name groups keys).rows).map _ = _
  rw [hrows]
  rfl

theorem summarize_sizes {callers : CallerFunctions} {names : List String} {assigns : List Assign}
    (hdata : data.IsSound) (hgroups : data.partitions = .ok groups) (hwide : data.Pads names wide)
    (hnew : name ∉ data.groups) (hassigns : Compute assigns [(name, .size)]) :
    summarize callers assigns wide =
      .ok (data.sizeTable name groups []) := by
  have hregular := hdata.isRegular
  have hallows : data.Allows [(name, .size)] :=
    allows_single hnew fun column hcolumn => by cases hcolumn
  have hrows : forall group, group ∈ groups -> data.HasRows group.rows :=
    fun group hgroup i hi => List.mem_range.1 ((sublist_of_partitions hgroups hgroup).subset hi)
  have hmapM : groups.mapM (groupRow callers wide assigns) =
      .ok (groups.map (data.summaryRow [(name, .size)])) :=
    mapM_eq_ok fun group hgroup =>
      groupRow_eq hregular hdata.unreserved hwide (hrows group hgroup) hassigns hallows
  unfold summarize
  rw [hwide.partitions, hgroups, hwide.groups, hassigns.names]
  show (groups.mapM (groupRow callers wide assigns) >>= _) = _
  rw [hmapM, ok_bind, ofColumns_entriesNamed (hallows.nodup hdata.distinct) (by simp)]
  · have hcells : forall group, group ∈ groups ->
        (data.summaryRow [(name, .size)] group).map Prod.snd =
          group.key ++ [.int (Int.ofNat group.size)] := by
      intro group hgroup
      have hlength := key_length hgroups hgroup
      rw [summaryRow, List.map_append, List.map_snd_zip (le_of_eq hlength)]
      show group.key ++ [.int (Int.ofNat (data.rowsAt group.rows).length)] = _
      rw [rowsAt_eq (hrows group hgroup), List.length_map]
      rfl
    rw [ofEntries, List.map_map]
    exact congrArg (fun rows => Except.ok (flat (data.groups ++ [name]) rows))
      (List.map_congr_left hcells)
  · intro entries hentries
    rcases List.mem_map.1 hentries with ⟨group, hgroup, rfl⟩
    exact summaryRow_names (key_length hgroups hgroup)

theorem summarize_header {callers : CallerFunctions} {assigns : List Assign} {table : Dataset}
    (h : summarize callers assigns data = .ok table) :
    table.header = (data.groups ++ assigns.map Assign.name).eraseDups := by
  rcases bind_eq_ok_iff.1 h with ⟨groups, _, h⟩
  rcases bind_eq_ok_iff.1 h with ⟨rows, _, h⟩
  rw [(ofColumns_eq_ok h).1, List.map_map]
  exact List.map_id _

end Dataset

/-!
# The fragment of counts
-/

namespace Invocation

variable {settings : Settings} {env : Environment} {data result : Dataset} {name target : String}

/-- The fragment that counts the rows of a group, with the name that is read from it. -/
def sizeFragment (name target : String) : ResolvedFragment where
  node := .assignment target Summary.size.node
  mentionsCount := true
  mentionsRowNumber := false
  source := markQuoted name ++ " = n()"

theorem fragments_of_parse
    (h : parse true (markQuoted name ++ " = n()") = .ok (.assignment target Summary.size.node)) :
    (Verb.summarize.calling settings env [countFragment name]).fragments =
      .ok [sizeFragment name target] := by
  have hfragment : Verb.fragmentOf (countFragment name) =
      .ok (.assignment target (.call countFunction [] [] false), markQuoted name ++ " = n()") := by
    rw [countFragment, Verb.fragmentOf, h]
    rfl
  unfold fragments Verb.fragmentsOf
  simp only [Verb.calling, List.mapM_cons, List.mapM_nil, hfragment]
  rfl

/-- A call that counts rows, where it is accepted, names the numbers by a single name.  This is the
given one only if there are neither backticks nor backslashes in it. -/
theorem exists_target {found : List ResolvedFragment}
    (h : (Verb.summarize.calling settings env [countFragment name]).fragments = .ok found) :
    exists target, found = [sizeFragment name target] ∧
      (target = name -> Grammar.IsQuotable name) := by
  have hparsed : exists tree, parse true (markQuoted name ++ " = n()") = .ok tree := by
    unfold fragments Verb.fragmentsOf at h
    simp only [Verb.calling, List.mapM_cons, List.mapM_nil, countFragment, Verb.fragmentOf] at h
    cases hparse : parse true (markQuoted name ++ " = n()") with
    | ok tree => exact ⟨tree, rfl⟩
    | error failure =>
        rw [hparse] at h
        cases h
  rcases hparsed with ⟨tree, hparse⟩
  have hcall : Grammar.Derives
      [.identifier countFunction, .symbol .openParen, .symbol .closeParen]
      (.node .clause Summary.size.node) :=
    Grammar.derives_of_rank_le (.call (.onlyNamed .noNamed)) (Grammar.Level.rank_le _)
  have htail : IsUnquoted " = n()".toList := by
    show forall c, c ∈ " = n()".toList -> isQuote c = false
    have hall : (" = n()".toList.all fun c => !isQuote c) = true := rfl
    exact fun c hc => by simpa using List.all_eq_true.1 hall c hc
  rcases Grammar.assignment_of_parse htail rfl hcall hparse with ⟨target, rfl, hsame⟩
  cases (fragments_of_parse hparse).symm.trans h
  exact ⟨target, rfl, fun heq => ⟨(hsame heq).1, (hsame heq).2⟩⟩

theorem assigns_sizeFragment (scope : Scope) :
    Request.assigns .aggregate scope [sizeFragment name target] =
      .ok [{ name := target
             expr := .groupSize
             source := some (markQuoted name ++ " = n()") }] := rfl

/-- The columns of counted groups are their keys, and the numbers under the name that is read. -/
theorem isQuotable_of_run (hdata : data.WellFormed)
    (h : ((Verb.summarize.calling settings env [countFragment name]).run settings data).result =
      .ok result) (hmem : name ∈ result.header) (hnew : name ∉ data.groups) :
    Grammar.IsQuotable name := by
  rcases exists_condenses (Or.inl rfl) h with ⟨found, assigns, wide, hcondenses⟩
  rcases hcondenses.summarized h with ⟨table, htable, rfl⟩
  rcases exists_target hcondenses.fragments with ⟨target, rfl, hsame⟩
  cases (assigns_sizeFragment _).symm.trans hcondenses.compiled
  have hheader := summarize_header htable
  rw [(hdata.pads_rowColumns hcondenses.padded).groups] at hheader
  have hkept : name ∈ table.header := (mem_dropped_header.1 hmem).1
  rw [hheader, List.mem_eraseDups, List.mem_append] at hkept
  rcases hkept with hmem | hmem
  · exact absurd hmem hnew
  · exact hsame (List.mem_singleton.1 hmem).symm

theorem run_sizes {groups : List Partition} (hquotable : Grammar.IsQuotable name)
    (hdata : data.IsSound) (hgroups : data.partitions = .ok groups)
    (hname : isReserved name = false) (hnew : name ∉ data.groups) :
    ((Verb.summarize.calling settings env [countFragment name]).run settings data).result =
      .ok (data.sizeTable name groups data.groups.dropLast) := by
  have hfragments : (Verb.summarize.calling settings env [countFragment name]).fragments =
      .ok [sizeFragment name name] := fragments_of_parse (Grammar.parse_countFragment hquotable)
  have hpadded : exists wide, Operation.applyAll env.functions
      ((Verb.summarize.calling settings env [countFragment name]).requestOf data
        [sizeFragment name name]).rowColumns data = .ok wide :=
    hdata.exists_rowColumns fun _ => ⟨groups, hgroups⟩
  rcases hpadded with ⟨wide, hwide⟩
  have hcondenses : (Verb.summarize.calling settings env [countFragment name]).Condenses data
      [sizeFragment name name] [{ name := name
                                  expr := .groupSize
                                  source := some (markQuoted name ++ " = n()") }] wide :=
    ⟨Or.inl rfl, hfragments, assigns_sizeFragment _, hwide⟩
  have htable : (data.sizeTable name groups []).WellFormed :=
    sizeTable_wellFormed hdata hgroups hname hnew nofun
  have hassigns : Compute [{ name := name
                             expr := .groupSize
                             source := some (markQuoted name ++ " = n()") }]
      [(name, .size)] := rfl
  rw [hcondenses.run_eq, summarize_sizes hdata hgroups (hdata.pads_rowColumns hwide) hnew hassigns,
    ok_bind]
  have hsplit : forall rest : List Operation, .dropReserved :: rest = [.dropReserved] ++ rest :=
    fun _ => rfl
  rw [hsplit, Operation.applyAll_append, Request.dropReserved_of_unreserved htable.unreserved,
    ok_bind]
  exact Request.regroupOuter_eq_ok

theorem run_sorted_sizes {groups : List Partition} {keys : List String}
    (hquotable : Grammar.IsQuotable name) (hgroups : data.partitions = .ok groups)
    (hnew : name ∉ data.groups) (htable : (data.sizeTable name groups keys).WellFormed)
    (sorted : Bool) :
    exists rows, ((data.sizeTable name groups keys).sortedByCount settings env sorted
      name).result = .ok { data.sizeTable name groups keys with rows := rows } := by
  cases sorted with
  | false => exact ⟨_, rfl⟩
  | true =>
      rcases exists_sorted_sizes hgroups hnew keys with ⟨rows, hrows⟩
      have hquiet : AreQuiet [largestFirstFragment name] := by
        intro fragment hfragment
        rw [List.mem_singleton.1 hfragment]
        exact ⟨rfl, rfl⟩
      refine ⟨rows, ?_⟩
      rw [sortedByCount, if_pos rfl, Verb.invoke_result]
      exact Invocation.run_arrange rfl htable (largestFirst_fragments hquotable) hquiet
        (sortKeys_largestFirst _ _ _) hrows settings

theorem groupBy_keys (hdata : data.IsSound) (settings : Settings) (env : Environment) :
    (Verb.groupBy.invoke settings env (data.groups.map Value.sym ++ []) data).result =
      .ok data := by
  rw [List.append_nil, Verb.invoke_result]
  have hnames : (Verb.groupBy.calling settings env (data.groups.map Value.sym)).Names .groupBy
      data.groups := groupingBy_names env settings.registry data.groups
  have hkept : addedNames [] data.groups = [] ++ data.groups :=
    addedNames_of_nodup hdata.distinct
  rw [hnames.run_groupBy hdata.toWellFormed hdata.keys settings, hkept]
  rfl

theorem count_keys (hdata : data.IsSound) (hnamed : "" ∉ data.groups) (sorted : Bool) :
    (data.count settings env [] sorted name).result =
      ((Verb.summarize.calling settings env [countFragment name]).run settings data).result >>=
        fun found => found.regroup data.groups >>= fun regrouped =>
          (regrouped.sortedByCount settings env sorted name).result := by
  rw [count]
  simp only [Report.next_result, Report.silent_result]
  rw [groupSymbols_eq hnamed, ok_bind, groupBy_keys hdata, ok_bind, ite_self, Verb.invoke_result,
    bind_assoc]

section Named

variable {groups : List Partition} (hdata : data.IsSound) (hgroups : data.partitions = .ok groups)
  (hname : isReserved name = false) (hnew : name ∉ data.groups)

include hdata hgroups hname hnew

/-- The numbers of rows of the groups have the name that is asked for just when it is quotable. -/
theorem tally_named_iff (settings : Settings) (sorted : Bool) :
    (exists result, (data.tally settings sorted name).result = .ok result ∧
      result.header.getLast? = some name) <-> Grammar.IsQuotable name := by
  constructor
  · rintro ⟨result, hresult, hheader⟩
    rw [tally, Report.next_result, Verb.invoke_result] at hresult
    rcases bind_eq_ok_iff.1 hresult with ⟨table, htable, hresult⟩
    have hmem := mem_of_sortedByCount hname hresult (List.mem_of_getLast? hheader)
    exact isQuotable_of_run hdata.toWellFormed htable hmem hnew
  · intro hquotable
    have htable : (data.sizeTable name groups data.groups.dropLast).WellFormed :=
      sizeTable_wellFormed hdata hgroups hname hnew fun _ => List.mem_of_mem_dropLast
    rcases @run_sorted_sizes settings .empty _ _ _ _ hquotable hgroups hnew htable sorted with
      ⟨rows, hrows⟩
    refine ⟨{ data.sizeTable name groups data.groups.dropLast with rows := rows }, ?_,
      sizeTable_last groups data.groups.dropLast⟩
    rw [tally, Report.next_result, Verb.invoke_result,
      run_sizes hquotable hdata hgroups hname hnew, ok_bind, hrows]

theorem count_named_iff (settings : Settings) (env : Environment) (sorted : Bool) :
    (exists result, (data.count settings env [] sorted name).result = .ok result ∧
      result.header.getLast? = some name) <->
      Grammar.IsQuotable name ∧ "" ∉ data.groups := by
  constructor
  · rintro ⟨result, hresult, hheader⟩
    have hnamed : "" ∉ data.groups := by
      intro hunnamed
      rw [count] at hresult
      simp only [Report.next_result, Report.silent_result] at hresult
      rw [groupSymbols_error hunnamed] at hresult
      cases hresult
    rw [count_keys hdata hnamed] at hresult
    rcases bind_eq_ok_iff.1 hresult with ⟨table, htable, hresult⟩
    rcases bind_eq_ok_iff.1 hresult with ⟨regrouped, hregrouped, hresult⟩
    have hmem := mem_of_sortedByCount hname hresult (List.mem_of_getLast? hheader)
    rcases Dataset.regroup_eq_ok hregrouped with ⟨rfl, _⟩
    exact ⟨isQuotable_of_run hdata.toWellFormed htable hmem hnew, hnamed⟩
  · rintro ⟨hquotable, hnamed⟩
    have htable : (data.sizeTable name groups data.groups).WellFormed :=
      sizeTable_wellFormed hdata hgroups hname hnew fun _ hkey => hkey
    have hregroup : (data.sizeTable name groups data.groups.dropLast).regroup data.groups =
        .ok (data.sizeTable name groups data.groups) :=
      Request.regroup_eq_ok fun key hkey => List.mem_append_left _ hkey
    rcases @run_sorted_sizes settings env _ _ _ _ hquotable hgroups hnew htable sorted with
      ⟨rows, hrows⟩
    refine ⟨{ data.sizeTable name groups data.groups with rows := rows }, ?_,
      sizeTable_last groups data.groups⟩
    rw [count_keys hdata hnamed, run_sizes hquotable hdata hgroups hname hnew, ok_bind, hregroup,
      ok_bind, hrows]

end Named

/-- Numbers of rows, sorted or not, are given under the name that is asked for just when there are
neither backticks nor backslashes in the name.  If the columns that the dataset is grouped by are
to be kept as well, each of them needs a name. -/
theorem counts_named_iff (hdata : data.IsSound)
    (hgroups : exists groups, data.partitions = .ok groups) (hname : isReserved name = false)
    (hnew : name ∉ data.groups) (settings : Settings) (env : Environment) (sorted : Bool) :
    ((exists result, (data.tally settings sorted name).result = .ok result ∧
        result.header.getLast? = some name) <-> Grammar.IsQuotable name) ∧
    ((exists result, (data.count settings env [] sorted name).result = .ok result ∧
        result.header.getLast? = some name) <->
      Grammar.IsQuotable name ∧ "" ∉ data.groups) := by
  rcases hgroups with ⟨groups, hgroups⟩
  exact ⟨tally_named_iff hdata hgroups hname hnew settings sorted,
    count_named_iff hdata hgroups hname hnew settings env sorted⟩

theorem singles_isSound : singles.IsSound where
  toWellFormed := singles_wellFormed
  distinct := List.nodup_nil

/-- A backtick in the name is one too many; blanks do no harm. -/
theorem counts_named_iff_backtick :
    ¬(exists result,
      (singles.count Settings.initial .empty [] false "a\x60b").result = .ok result ∧
        result.header.getLast? = some "a\x60b") ∧
    exists result,
      (singles.tally Settings.initial true "how many").result = .ok result ∧
        result.header.getLast? = some "how many" := by
  constructor
  · intro hcounted
    exact ((counts_named_iff singles_isSound ⟨_, rfl⟩ (by decide) (by decide) Settings.initial
      .empty false).2.1 hcounted).1.backtick (by decide)
  · exact (counts_named_iff singles_isSound ⟨_, rfl⟩ (by decide) (by decide) Settings.initial
      .empty true).1.2 ⟨by decide, by decide⟩

end Invocation
end Wrangle
