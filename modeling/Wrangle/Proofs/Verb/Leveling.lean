import Wrangle.Proofs.Verb.Counting

/-!
# Rows in another order

The groups of a dataset come in the order of their keys, and a summary of a group is
the same for all orders of its rows.  So a dataset is summarized to the same table
whatever the order of its rows, and so are the numbers of rows for each key.
-/

namespace Wrangle

open Dataset

namespace Dataset

variable {data : Dataset} {rows : List (List Value)}

theorem WellFormed.of_perm (h : data.WellFormed) (hrows : rows.Perm data.rows) :
    (data.withRows rows).WellFormed where
  nodup := h.nodup
  unreserved := h.unreserved
  width := fun row hrow => h.width row (hrows.mem_iff.1 hrow)
  keys := h.keys

end Dataset

namespace Invocation

variable {data : Dataset} {columns : List String} {keys rows : List (List Value)}
variable {settings : Settings} {env : Environment} {values : List Value}

/-!
# Counts
-/

theorem counts_of_names (hdata : data.WellFormed) (hflat : data.groups = [])
    (hcounting : (Verb.groupBy.calling settings env values).Names .groupBy columns)
    (hkeys : (data.withGroups columns).KeysAre Value.isSimple) (hname : "n" ∉ columns) :
    Counts settings env values data columns "n" where
  sound := ⟨hdata, hflat ▸ List.nodup_nil⟩
  selects := hcounting.selects hkeys.present
  simple := by
    rw [hflat]
    exact hkeys
  quotable := ⟨by decide, by decide⟩
  unreserved := by decide
  new := by
    rw [hflat]
    exact hname

theorem countTable_of_perm (hrows : rows.Perm data.rows) (name : String) :
    (data.withRows rows).countTable columns name keys = data.countTable columns name keys := by
  have htallies : (data.withRows rows).tallyOf columns = data.tallyOf columns := by
    funext key
    exact (@rowsWith_of_perm (data.withGroups columns) rows hrows key).length_eq
  have hcounts : (data.withRows rows).countRow columns = data.countRow columns := by
    funext key
    rw [countRow, countRow, htallies]
  rw [countTable, countTable, hcounts]
  rfl

theorem count_of_perm (hdata : data.WellFormed) (hflat : data.groups = [])
    (hrows : rows.Perm data.rows)
    (hcounting : (Verb.groupBy.calling settings env values).Names .groupBy columns)
    (hkeys : (data.withGroups columns).KeysAre Value.isSimple) (hname : "n" ∉ columns) :
    (forall sorted, (data.count settings env values sorted "n").result =
      ((data.withRows rows).count settings env values sorted "n").result) ∧
      exists result, (data.count settings env values false "n").result = .ok result := by
  have hregroupedKeys : ((data.withGroups columns).withRows rows).KeysAre Value.isSimple :=
    hkeys.of_perm hrows
  have hcounts := counts_of_names hdata hflat hcounting hkeys hname
  have hrecounts : Counts settings env values (data.withRows rows) columns "n" :=
    counts_of_names (hdata.of_perm hrows) hflat hcounting hregroupedKeys hname
  have hkeyed := hcounts.keyed
  have hnamed : "" ∉ data.groups := hflat ▸ List.not_mem_nil
  rcases exists_isKeyList hkeyed.wellFormed.width hkeyed.keys with ⟨keys, hlist⟩
  refine ⟨?_, _, hcounts.count_result hnamed hlist false⟩
  intro sorted
  rw [hcounts.count_result hnamed hlist sorted,
    hrecounts.count_result hnamed (hlist.of_perm hrows) sorted]
  exact congrArg (fun table => (sortedByCount settings env sorted "n" table).result)
    (countTable_of_perm hrows "n").symm

/-!
# Summaries
-/

theorem summaryTable_of_perm (data : Dataset) (hrows : rows.Perm data.rows)
    (entries : List (String × Summary)) (keys : List (List Value)) :
    summaryTable (data.withRows rows) entries keys = summaryTable data entries keys := by
  rw [summaryTable, summarized_of_perm hrows]
  rfl

/-- Whatever the order of the rows of a dataset is, to group it by columns and to summarize it, with
the number of rows and with statistics of columns, gives the same table, and so does counting. -/
theorem summarize_of_perm (hdata : data.WellFormed) (hflat : data.groups = [])
    (hrows : rows.Perm data.rows) (hkeys : (data.withGroups columns).KeysAre Value.isSimple)
    (settings : Settings) :
    (forall (grouping summing : Invocation) (entries : List (String × Summary)),
      grouping.Names .groupBy columns -> summing.Summarizes entries ->
      (entries.map Prod.fst).Nodup -> (forall entry, entry ∈ entries -> entry.1 ∉ data.header) ->
      data.ReadWhole entries ->
        exists grouped regrouped result,
          (grouping.run settings data).result = .ok grouped ∧
            (grouping.run settings (data.withRows rows)).result = .ok regrouped ∧
            (summing.run settings grouped).result = .ok result ∧
            (summing.run settings regrouped).result = .ok result) ∧
      (forall (env : Environment) (values : List Value),
        (Verb.groupBy.calling settings env values).Names .groupBy columns -> "n" ∉ columns ->
          (exists result, (data.count settings env values false "n").result = .ok result ∧
            ((data.withRows rows).count settings env values false "n").result = .ok result) ∧
            forall sorted, (data.count settings env values sorted "n").result =
              ((data.withRows rows).count settings env values sorted "n").result) := by
  have hgrouped := isKeyed_withGroups hdata hkeys
  have hpermuted : (data.withRows rows).WellFormed := hdata.of_perm hrows
  have hregroupedKeys : ((data.withGroups columns).withRows rows).KeysAre Value.isSimple :=
    hkeys.of_perm hrows
  have hregrouped := isKeyed_withGroups hpermuted hregroupedKeys
  rcases exists_isKeyList hgrouped.wellFormed.width hgrouped.keys with ⟨keys, hlist⟩
  have hrelist : ((data.withRows rows).withGroups (addedNames [] columns)).IsKeyList keys :=
    hlist.of_perm hrows
  have htable : forall entries,
      summaryTable ((data.withRows rows).withGroups (addedNames [] columns)) entries keys =
        summaryTable (data.withGroups (addedNames [] columns)) entries keys :=
    fun entries => summaryTable_of_perm (data.withGroups (addedNames [] columns)) hrows entries keys
  constructor
  · intro grouping summing entries hgrouping hsumming hdistinct hnew hread
    have hallows : (data.withGroups (addedNames [] columns)).Allows entries :=
      .of_new hgrouped.wellFormed.keys hdistinct hnew hread
    have hreallows : ((data.withGroups (addedNames [] columns)).withRows rows).Allows entries :=
      hallows.of_perm hrows
    refine ⟨_, _, _, hgrouping.run_groupBy hdata hkeys.present settings,
      hgrouping.run_groupBy hpermuted hkeys.present settings,
      hsumming.run_eq hgrouped hlist hallows settings, ?_⟩
    rw [← htable]
    exact hsumming.run_eq hregrouped hrelist hreallows settings
  · intro env values hcounting hname
    rcases @count_of_perm data columns rows settings env values hdata hflat hrows hcounting hkeys
      hname with ⟨hsame, result, hresult⟩
    exact ⟨⟨result, hresult, (hsame false).symm.trans hresult⟩, hsame⟩

/-- A flat dataset with two columns to group by, and numbers of which one is missing. -/
def tallies : Dataset :=
  flat ["a", "b", "x"]
    [[.str "u", .int 1, .int 5], [.missing, .int 2, .int 7], [.str "u", .missing, .int 1],
      [.int 3, .int 2, .missing], [.str "u", .int 1, .int (-2)]]

theorem tallies_wellFormed : tallies.WellFormed := by decide

theorem tallies_keys : (tallies.withGroups ["a", "b"]).KeysAre Value.isSimple := by
  constructor
  · decide
  · decide

def summarizeTotal : Invocation :=
  { copyColumn with
    verb := .summarize
    values := [.str "s = sum(x)", .str "n()"]
    named := [] }

theorem summarizeTotal_summarizes :
    summarizeTotal.Summarizes [("s", .statistic .total "x"), ("n()", .size)] := by
  have hsum : parse true "s = sum(x)" =
      .ok (.assignment "s" (.call "sum" [.identifier "x"] [] false)) := by
    have hts : tokenize "s = sum(x)" =
        .ok [⟨.identifier "s", 0⟩, ⟨.symbol .assign, 2⟩, ⟨.identifier "sum", 4⟩,
          ⟨.symbol .openParen, 7⟩, ⟨.identifier "x", 8⟩, ⟨.symbol .closeParen, 9⟩,
          ⟨.finish, 10⟩] := rfl
    exact Grammar.parse_eq_ok_iff.mpr ⟨by decide, _, hts, rfl⟩
  have hcount : parse true "n()" = .ok (.call countFunction [] [] false) := by
    have hts : tokenize "n()" =
        .ok [⟨.identifier "n", 0⟩, ⟨.symbol .openParen, 1⟩, ⟨.symbol .closeParen, 2⟩,
          ⟨.finish, 3⟩] := rfl
    exact Grammar.parse_eq_ok_iff.mpr ⟨by decide, _, hts, rfl⟩
  refine ⟨Or.inl rfl,
    [⟨.assignment "s" (.call "sum" [.identifier "x"] [] false), false, false, "s = sum(x)"⟩,
      ⟨.call countFunction [] [] false, true, false, "n()"⟩], ?_, ?_⟩
  · unfold fragments Verb.fragmentsOf
    simp only [summarizeTotal, List.mapM_cons, List.mapM_nil, Verb.fragmentOf, hsum, hcount]
    rfl
  · exact .cons (Or.inl rfl) (.cons (Or.inr ⟨rfl, by decide⟩) .nil)

theorem tallies_readWhole :
    tallies.ReadWhole [("s", .statistic .total "x"), ("n()", .size)] := by
  intro entry hentry column hcolumn
  rcases List.mem_cons.1 hentry with rfl | hentry
  · cases hcolumn
    exact ⟨by decide, by decide⟩
  · rw [List.mem_singleton.1 hentry] at hcolumn
    cases hcolumn

theorem summarize_of_perm_tallies :
    exists grouped regrouped result counted,
      ((groupingBy Environment.empty Registry.standard ["a", "b"]).run Settings.initial
          tallies).result = .ok grouped ∧
        ((groupingBy Environment.empty Registry.standard ["a", "b"]).run Settings.initial
          (tallies.withRows tallies.rows.reverse)).result = .ok regrouped ∧
        (summarizeTotal.run Settings.initial grouped).result = .ok result ∧
        (summarizeTotal.run Settings.initial regrouped).result = .ok result ∧
        (tallies.count Settings.initial Environment.empty [.sym "a", .sym "b"] false "n").result =
          .ok counted ∧
        ((tallies.withRows tallies.rows.reverse).count Settings.initial Environment.empty
          [.sym "a", .sym "b"] false "n").result = .ok counted := by
  have hnames := groupingBy_names Environment.empty Registry.standard ["a", "b"]
  rcases summarize_of_perm tallies_wellFormed rfl (List.reverse_perm tallies.rows) tallies_keys
    Settings.initial with ⟨hsummarize, hcount⟩
  rcases hsummarize _ summarizeTotal _ hnames summarizeTotal_summarizes (by decide) (by decide)
    tallies_readWhole with ⟨grouped, regrouped, result, hgrouped, hregrouped, hresult, hsame⟩
  rcases (hcount Environment.empty [.sym "a", .sym "b"] hnames (by decide)).1 with
    ⟨counted, hcounted, hrecounted⟩
  exact ⟨grouped, regrouped, result, counted, hgrouped, hregrouped, hresult, hsame, hcounted,
    hrecounted⟩

end Invocation

/-!
# Summaries of summaries

To summarize a dataset leaves it grouped by all keys but the last one, so that the
summaries can be summed up in turn.  Where a summary adds up, as a sum and the number
of rows do, this is the summary by these keys in one step.
-/

namespace Invocation

variable {data : Dataset} {columns : List String} {keys : List (List Value)}
variable {summary : Summary} {s t : String}

/-!
# The table of one summary
-/

def levelTable (data : Dataset) (columns : List String) (s : String) (summary : Summary)
    (keys : List (List Value)) : Dataset :=
  keyTable columns [s] keys fun key =>
    [summary.value data.header ((data.withGroups columns).rowsWith key)]

theorem summaryTable_single (hkeyed : IsKeyed (data.withGroups columns))
    (hreserved : isReserved s = false) :
    summaryTable (data.withGroups columns) [(s, summary)] keys =
      levelTable data columns s summary keys := by
  have htable : (data.withGroups columns).summarized [(s, summary)] keys =
      flat (columns ++ [s]) (keys.map fun key =>
        key ++ [summary.value data.header ((data.withGroups columns).rowsWith key)]) := by
    show tableOf (columns ++ [s]) _ = _
    rw [tableOf, if_neg (by simp)]
    rfl
  have hkept : forall name, name ∈ (flat (columns ++ [s]) (keys.map fun key =>
      key ++ [summary.value data.header ((data.withGroups columns).rowsWith key)])).header ->
        isReserved name = false := by
    intro name hname
    rcases List.mem_append.1 hname with hkey | hs
    · exact hkeyed.wellFormed.unreserved name (hkeyed.wellFormed.keys name hkey)
    · rw [List.mem_singleton.1 hs]
      exact hreserved
  rw [summaryTable, htable, dropped_of_none hkept]
  rfl

theorem cellAt_append_single (hs : s ∉ columns) {key : List Value}
    (hlength : key.length = columns.length) (cell : Value) :
    cellAt ((columns ++ [s]).idxOf s) (key ++ [cell]) = cell := by
  have hidx : (columns ++ [s]).idxOf s = key.length := by
    rw [List.idxOf_append_of_notMem hs, hlength]
    simp
  rw [hidx, cellAt]
  simp

section Level

variable (hkeyed : IsKeyed (data.withGroups columns))
variable (hlist : (data.withGroups columns).IsKeyList keys) (hs : s ∉ data.header)

include hkeyed hlist hs

theorem isKeyed_levelTable (hreserved : isReserved s = false) :
    IsKeyed (levelTable data columns s summary keys) := by
  have hpresent : forall column, column ∈ columns -> column ∈ data.header :=
    hkeyed.wellFormed.keys
  have hdistinct : columns.Nodup := hkeyed.distinct
  constructor
  · constructor
    · show (columns ++ [s]).Nodup
      rw [← List.concat_eq_append]
      exact List.Nodup.concat (fun hmem => hs (hpresent s hmem)) hdistinct
    · intro name hname
      rcases List.mem_append.1 hname with hcolumn | hname
      · exact hkeyed.wellFormed.unreserved name (hpresent name hcolumn)
      · rw [List.mem_singleton.1 hname]
        exact hreserved
    · intro row hrow
      rcases List.mem_map.1 hrow with ⟨key, hkey, rfl⟩
      have hlength : key.length = columns.length := hasKey_length ((hlist.mem_iff key).1 hkey)
      simp [levelTable, keyTable, hlength]
    · exact fun column hcolumn => List.mem_append_left _ (List.dropLast_subset _ hcolumn)
  · exact keysAre_keyTable hdistinct hlist hkeyed.keys
  · exact hdistinct.sublist (List.dropLast_sublist columns)

theorem allows_levelTable (ht : t ∉ columns) :
    (levelTable data columns s summary keys).Allows [(t, .statistic .total s)] := by
  have hnew : s ∉ columns := fun hmem => hs (hkeyed.wellFormed.keys s hmem)
  apply allows_single
  · exact fun hmem => ht (List.dropLast_subset _ hmem)
  · intro column hcolumn
    cases hcolumn
    refine ⟨List.mem_append_right _ (List.mem_singleton_self s), ?_⟩
    intro row hrow
    rcases List.mem_map.1 hrow with ⟨key, hkey, rfl⟩
    have hlength : key.length = columns.length := hasKey_length ((hlist.mem_iff key).1 hkey)
    show (cellAt ((columns ++ [s]).idxOf s) (key ++ [_])).isWhole = true
    rw [cellAt_append_single hnew hlength]
    exact summary.isWhole_value

/-!
# The next table
-/

/-- The sum over the table of a summary that adds up is the summary of the rows behind it. -/
theorem total_levelTable (hadditive : summary.IsAdditive) (key : List Value) :
    (Summary.statistic .total s).value (columns ++ [s])
        ((levelTable data columns s summary keys).rowsWith key) =
      summary.value data.header ((data.withGroups columns.dropLast).rowsWith key) := by
  have hdistinct : columns.Nodup := hkeyed.distinct
  have hnew : s ∉ columns := fun hmem => hs (hkeyed.wellFormed.keys s hmem)
  have hcells : ((levelTable data columns s summary keys).rowsWith key).map
      (cellAt ((columns ++ [s]).idxOf s)) = (keysWithin keys key).map fun inner =>
        summary.value data.header ((data.withGroups columns).rowsWith inner) := by
    rw [levelTable, rowsWith_keyTable hdistinct hlist, List.map_map]
    apply List.map_congr_left
    intro inner hinner
    have hkey := (hlist.mem_iff inner).1 (mem_itemsAt_iff.1 hinner).1
    exact cellAt_append_single hnew (hasKey_length hkey) _
  calc
    _ = Statistic.total.value ((keysWithin keys key).map fun inner =>
          summary.value data.header ((data.withGroups columns).rowsWith inner)) := by
      rw [Summary.value, hcells]
    _ = summary.value data.header
          ((keysWithin keys key).flatMap (data.withGroups columns).rowsWith) :=
      hadditive.total_map ..
    _ = summary.value data.header ((data.withGroups columns.dropLast).rowsWith key) :=
      summary.value_perm (rowsWith_dropLast_perm hlist key)

theorem summaryTable_levelTable (hadditive : summary.IsAdditive) (t : String)
    (outerKeys : List (List Value)) :
    summaryTable (levelTable data columns s summary keys) [(t, .statistic .total s)] outerKeys =
      summaryTable (data.withGroups columns.dropLast) [(t, summary)] outerKeys := by
  have hsummarized :
      (levelTable data columns s summary keys).summarized [(t, .statistic .total s)] outerKeys =
        (data.withGroups columns.dropLast).summarized [(t, summary)] outerKeys := by
    show tableOf (columns.dropLast ++ [t]) _ = tableOf (columns.dropLast ++ [t]) _
    congr 1
    apply List.map_congr_left
    intro key _
    exact congrArg (fun cell => key ++ [cell]) (total_levelTable hkeyed hlist hs hadditive key)
  rw [summaryTable, summaryTable, hsummarized]
  rfl

end Level

theorem exists_keyed (hdata : data.WellFormed) (hdistinct : columns.Nodup)
    (hkeys : (data.withGroups columns).KeysAre Value.isSimple) {call : Invocation}
    (hcall : call.Names .groupBy columns) (settings : Settings) :
    (call.run settings data).result = .ok (data.withGroups columns) ∧
      IsKeyed (data.withGroups columns) ∧
        exists keys, (data.withGroups columns).IsKeyList keys := by
  have hnames : addedNames [] columns = columns := addedNames_of_nodup hdistinct
  have hrun := hcall.run_groupBy hdata hkeys.present settings
  have hkeyed := isKeyed_withGroups hdata hkeys
  rw [hnames] at hrun hkeyed
  exact ⟨hrun, hkeyed, exists_isKeyList hkeyed.wellFormed.width hkeyed.keys⟩

/-!
# Calls that sum up one column
-/

/-- A call with one fragment. -/
def summarizing (fragment : String) : Invocation :=
  { copyColumn with
    verb := .summarize
    values := [.str fragment]
    named := [] }

section Totals

variable {fragment target column : String}

theorem parse_total {a b c d e f g : Nat} (hblank : isBlankText fragment = false)
    (hts : tokenize fragment = .ok
      [⟨.identifier target, a⟩, ⟨.symbol .assign, b⟩, ⟨.identifier "sum", c⟩,
        ⟨.symbol .openParen, d⟩, ⟨.identifier column, e⟩, ⟨.symbol .closeParen, f⟩,
        ⟨.finish, g⟩]) :
    parse true fragment =
      .ok (.assignment target (Summary.node (.statistic .total column))) :=
  Grammar.parse_eq_ok_iff.mpr ⟨hblank, _, hts, rfl⟩

variable (h : parse true fragment =
  .ok (.assignment target (Summary.node (.statistic .total column))))

include h

theorem summarizing_fragments :
    (summarizing fragment).fragments =
      .ok [⟨.assignment target (Summary.node (.statistic .total column)), false, false,
        fragment⟩] := by
  unfold fragments Verb.fragmentsOf
  simp only [summarizing, List.mapM_cons, List.mapM_nil, Verb.fragmentOf, h]
  rfl

theorem summarizing_total :
    (summarizing fragment).Summarizes [(target, .statistic .total column)] :=
  ⟨Or.inl rfl, _, summarizing_fragments h, .cons (Or.inl rfl) .nil⟩

theorem summarizing_ne_ok {failure : Failure}
    (hname : (Scope.ofColumns data.header Registry.standard Environment.empty).name? column =
      .error failure) (settings : Settings) (result : Dataset) :
    ((summarizing fragment).run settings data).result ≠ .ok result := by
  intro hrun
  rcases run_eq_ok_iff.1 hrun with ⟨found, ops, hfound, hplan, _⟩
  rw [summarizing_fragments h] at hfound
  cases hfound
  have hexpr : Compile.expr (Scope.ofColumns data.header Registry.standard Environment.empty)
      .aggregate true (Summary.node (.statistic .total column)) = .error failure := by
    rw [Summary.expr_statistic, Compile.expr, if_neg (by simp [Scope.ofColumns]), hname]
    rfl
  have hassigns : exists failure, Request.assigns .aggregate
      (Scope.ofColumns data.header Registry.standard Environment.empty)
      [⟨.assignment target (Summary.node (.statistic .total column)), false, false,
        fragment⟩] = .error failure := by
    rw [Request.assigns, Summary.assigns_assignment, hexpr]
    exact ⟨_, rfl⟩
  rcases hassigns with ⟨_, hassigns⟩
  rcases bind_eq_ok_iff.1 hplan with ⟨assigns, hok, _⟩
  have hclash := hassigns.symm.trans hok
  cases hclash

end Totals

theorem not_mem_summaryTable (hreserved : isReserved s = true) (data : Dataset)
    (entries : List (String × Summary)) (keys : List (List Value)) :
    s ∉ (summaryTable data entries keys).header := by
  intro hmem
  rw [(mem_dropped_header.1 hmem).2] at hreserved
  cases hreserved

theorem tallies_readTotal (name : String) :
    tallies.ReadWhole [(name, .statistic .total "x")] := by
  intro entry hentry column hcolumn
  rw [List.mem_singleton.1 hentry] at hcolumn
  cases hcolumn
  exact ⟨by decide, by decide⟩

theorem tallies_allows {columns : List String} (hname : s ∉ columns) :
    (tallies.withGroups columns).Allows [(s, .statistic .total "x")] :=
  allows_single hname (tallies_readTotal s _ (List.mem_singleton_self _))

/-!
# Level by level
-/

/-- To summarize a dataset by some columns, and to sum the summaries up by all of these but the last
one, is to summarize the dataset by these at once. -/
theorem summarize_levels (hdata : data.WellFormed) (hsome : columns ≠ [])
    (hdistinct : columns.Nodup) (hkeys : (data.withGroups columns).KeysAre Value.isSimple)
    (hadditive : summary.IsAdditive) (hread : data.ReadWhole [(s, summary)])
    (hs : s ∉ data.header) (ht : t ∉ data.header) (hreserved : isReserved s = false)
    {fine coarse inner outer direct : Invocation}
    (hfine : fine.Names .groupBy columns) (hcoarse : coarse.Names .groupBy columns.dropLast)
    (hinner : inner.Summarizes [(s, summary)])
    (houter : outer.Summarizes [(t, .statistic .total s)])
    (hdirect : direct.Summarizes [(t, summary)]) (settings : Settings) :
    exists grouped between regrouped result,
      (fine.run settings data).result = .ok grouped ∧
        (inner.run settings grouped).result = .ok between ∧
        (outer.run settings between).result = .ok result ∧
        (coarse.run settings data).result = .ok regrouped ∧
        (direct.run settings regrouped).result = .ok result := by
  have hreads := hread _ (List.mem_singleton_self _)
  rcases exists_keyed hdata hdistinct hkeys hfine settings with
    ⟨hgrouped, hkeyed, keys, hlist⟩
  rcases exists_keyed hdata (hdistinct.sublist (List.dropLast_sublist columns)) hkeys.dropLast
    hcoarse settings with ⟨hregrouped, houterKeyed, outerKeys, houterList⟩
  have hnew : s ∉ columns := fun hmem => hs (hkeys.present s hmem)
  have htarget : t ∉ columns := fun hmem => ht (hkeys.present t hmem)
  have hbetween : (inner.run settings (data.withGroups columns)).result =
      .ok (levelTable data columns s summary keys) := by
    rw [← summaryTable_single hkeyed hreserved]
    exact hinner.run_eq hkeyed hlist (allows_single hnew hreads) settings
  -- the table in between has one group for each group by the outer columns
  have hlevelList : (levelTable data columns s summary keys).IsKeyList outerKeys := by
    refine ⟨houterList.ascending, fun key => ?_⟩
    rw [houterList.mem_iff, levelTable, hasKey_keyTable hdistinct hlist hsome]
  have hresult := houter.run_eq (isKeyed_levelTable hkeyed hlist hs hreserved) hlevelList
    (allows_levelTable hkeyed hlist hs htarget) settings
  rw [summaryTable_levelTable hkeyed hlist hs hadditive] at hresult
  have hallows : (data.withGroups columns.dropLast).Allows [(t, summary)] :=
    allows_single (fun hmem => htarget (List.dropLast_subset _ hmem)) hreads
  exact ⟨_, _, _, _, hgrouped, hbetween, hresult, hregrouped,
    hdirect.run_eq houterKeyed houterList hallows settings⟩

theorem summarize_levels_tallies :
    exists grouped between regrouped result,
      ((groupingBy Environment.empty Registry.standard ["a", "b"]).run Settings.initial
          tallies).result = .ok grouped ∧
        ((summarizing "s = sum(x)").run Settings.initial grouped).result = .ok between ∧
        ((summarizing "t = sum(s)").run Settings.initial between).result = .ok result ∧
        ((groupingBy Environment.empty Registry.standard ["a"]).run Settings.initial
          tallies).result = .ok regrouped ∧
        ((summarizing "t = sum(x)").run Settings.initial regrouped).result = .ok result := by
  have hinner : (summarizing "s = sum(x)").Summarizes [("s", .statistic .total "x")] :=
    summarizing_total (parse_total (by decide) rfl)
  have houter : (summarizing "t = sum(s)").Summarizes [("t", .statistic .total "s")] :=
    summarizing_total (parse_total (by decide) rfl)
  have hdirect : (summarizing "t = sum(x)").Summarizes [("t", .statistic .total "x")] :=
    summarizing_total (parse_total (by decide) rfl)
  exact summarize_levels tallies_wellFormed (by decide) (by decide) tallies_keys (.total "x")
    (tallies_readTotal "s") (by decide) (by decide) (by decide)
    (groupingBy_names Environment.empty Registry.standard ["a", "b"])
    (groupingBy_names Environment.empty Registry.standard ["a"]) hinner houter hdirect
    Settings.initial

/-- A sum with a reserved name is dropped, and cannot be summed up in turn. -/
theorem summarize_levels_reserved :
    tallies.WellFormed ∧ tallies.groups = [] ∧
      (tallies.withGroups ["a", "b"]).KeysAre Value.isSimple ∧
      tallies.ReadWhole [("__tidyverbs_s", .statistic .total "x")] ∧
      "__tidyverbs_s" ∉ tallies.header ∧ "t" ∉ tallies.header ∧
      exists grouped between regrouped result,
        ((groupingBy Environment.empty Registry.standard ["a", "b"]).run Settings.initial
            tallies).result = .ok grouped ∧
          ((summarizing "__tidyverbs_s = sum(x)").run Settings.initial grouped).result =
            .ok between ∧
          ((groupingBy Environment.empty Registry.standard ["a"]).run Settings.initial
            tallies).result = .ok regrouped ∧
          ((summarizing "t = sum(x)").run Settings.initial regrouped).result = .ok result ∧
          forall other,
            ((summarizing "t = sum(__tidyverbs_s)").run Settings.initial between).result ≠
              .ok other := by
  have hinner : (summarizing "__tidyverbs_s = sum(x)").Summarizes
      [("__tidyverbs_s", .statistic .total "x")] :=
    summarizing_total (parse_total (by decide) rfl)
  have hdirect : (summarizing "t = sum(x)").Summarizes [("t", .statistic .total "x")] :=
    summarizing_total (parse_total (by decide) rfl)
  have houter : parse true "t = sum(__tidyverbs_s)" =
      .ok (.assignment "t" (Summary.node (.statistic .total "__tidyverbs_s"))) :=
    parse_total (by decide) rfl
  rcases exists_keyed tallies_wellFormed (by decide) tallies_keys
    (groupingBy_names Environment.empty Registry.standard ["a", "b"]) Settings.initial with
    ⟨hgrouped, hkeyed, keys, hlist⟩
  rcases exists_keyed tallies_wellFormed (by decide) tallies_keys.dropLast
    (groupingBy_names Environment.empty Registry.standard ["a"]) Settings.initial with
    ⟨hregrouped, hrekeyed, others, hothers⟩
  refine ⟨tallies_wellFormed, rfl, tallies_keys, tallies_readTotal _, by decide, by decide,
    _, _, _, _, hgrouped, hinner.run_eq hkeyed hlist (tallies_allows (by decide)) _, hregrouped,
    hdirect.run_eq hrekeyed hothers (tallies_allows (by decide)) _, ?_⟩
  -- the name is neither a column, since it was dropped, nor a function
  have hname : exists failure, Scope.name?
      (Scope.ofColumns (summaryTable (tallies.withGroups ["a", "b"])
        [("__tidyverbs_s", .statistic .total "x")] keys).header Registry.standard
          Environment.empty) "__tidyverbs_s" = .error failure := by
    have hdropped : "__tidyverbs_s" ∉ (summaryTable (tallies.withGroups ["a", "b"])
        [("__tidyverbs_s", .statistic .total "x")] keys).header := not_mem_summaryTable rfl _ _ _
    rw [Scope.name?, if_neg (by simpa [Scope.ofColumns] using hdropped)]
    exact ⟨_, rfl⟩
  rcases hname with ⟨failure, hname⟩
  exact summarizing_ne_ok houter hname Settings.initial

end Invocation
end Wrangle
