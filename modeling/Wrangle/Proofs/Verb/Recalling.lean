import Wrangle.Proofs.Dataset.Accumulating
import Wrangle.Proofs.Verb.Multiplicity

/-!
# Summaries that refer to earlier ones

A summary whose fragment is the bare name of an earlier one has the same value in every
row of the result, except in two cases.  On a flat table without rows the earlier summary
is stored nowhere, and what is read is missing.  And a summary that is a column of one
value is taken apart.  Where summaries are named like keys, the cells of these keys stand
between the summaries.
-/

namespace Wrangle

open Dataset

namespace Dataset

variable {callers : CallerFunctions} {data : Dataset} {groups : List Partition}
variable {rows : List (List (String × Value))} {names : List String} {source target : String}

/-!
# Columns that collect the same values
-/

theorem flatMap_eq_iff {alpha beta : Type} {f g : alpha -> List beta} {items : List alpha}
    (h : forall a, a ∈ items -> (f a).length = (g a).length) :
    items.flatMap f = items.flatMap g <-> forall a, a ∈ items -> f a = g a := by
  induction items with
  | nil => simp
  | cons a rest ih =>
      rcases List.forall_mem_cons.1 h with ⟨hfirst, hrest⟩
      rw [List.flatMap_cons, List.flatMap_cons, List.forall_mem_cons, ← ih hrest]
      constructor
      · exact fun heq => List.append_inj heq hfirst
      · rintro ⟨hsame, hothers⟩
        rw [hsame, hothers]

def entryValues (name : String) (entries : List (String × Value)) : List Value :=
  (entries.filter fun entry => entry.1 == name).map Prod.snd

theorem entriesNamed_eq_iff (hrows : forall entries, entries ∈ rows -> entries.map Prod.fst = names)
    (hlength : (entriesNamed rows target).length = (entriesNamed rows source).length) :
    entriesNamed rows target = entriesNamed rows source <->
      forall entries, entries ∈ rows ->
        entryValues target entries = entryValues source entries := by
  refine flatMap_eq_iff ?_
  intro entries hentries
  have hcount : forall name, (entryValues name entries).length = names.count name := by
    intro name
    have hone : forall other, other ∈ [entries] -> other.map Prod.fst = names := by
      intro other hother
      rw [List.mem_singleton.1 hother, hrows entries hentries]
    have hlength := length_entriesNamed hone name
    rwa [entriesNamed, List.flatMap_singleton, List.length_singleton, Nat.mul_one] at hlength
  have hpos : 0 < rows.length := List.length_pos_of_mem hentries
  rw [length_entriesNamed hrows, length_entriesNamed hrows] at hlength
  exact (hcount target).trans ((Nat.eq_of_mul_eq_mul_right hpos hlength).trans (hcount source).symm)

def Recalls (data : Dataset) (source target : String) (entries : List (String × Value))
    (group : Partition) : Prop :=
  exists value single, entryValues source entries = data.keyCellsNamed group source ++ [value] ∧
    entryValues target entries = data.keyCellsNamed group target ++ [single] ∧
    (single = value <-> (group.size = 0 -> value = .missing) ∧ forall w, value ≠ .column [w])

/-- What is read is what was stored where the keys have the same cells under both names, and where
the stored value is read back. -/
theorem Recalls.eq_iff {entries : List (String × Value)} {group : Partition}
    (h : data.Recalls source target entries group) :
    exists value, entryValues source entries = data.keyCellsNamed group source ++ [value] ∧
      (entryValues target entries = entryValues source entries <->
        data.keyCellsNamed group target = data.keyCellsNamed group source ∧
          (group.size = 0 -> value = .missing) ∧ forall w, value ≠ .column [w]) := by
  rcases h with ⟨value, single, hsource, htarget, hiff⟩
  refine ⟨value, hsource, ?_⟩
  rw [hsource, htarget, List.append_singleton_inj, hiff]

theorem recalls_of_groupRow {first second : List Assign} {fragment : Option String}
    (hsource : source ∈ first.map Assign.name)
    (hnames : ((first ++ reread target source fragment :: second).map Assign.name).Nodup)
    {group : Partition} {entries : List (String × Value)}
    (h : groupRow callers data (first ++ reread target source fragment :: second) group =
      .ok entries) : data.Recalls source target entries group := by
  rcases bind_eq_ok_iff.1 h with ⟨found, hfound, h⟩
  cases h
  rw [← summaries_names hfound] at hnames
  rcases recalled_iff hfound hsource hnames with ⟨value, single, hvalue, hsingle, hiff⟩
  exact ⟨value, single, filter_groupRow hnames hvalue, filter_groupRow hnames hsingle, hiff⟩

theorem not_column_of_mem_keyCellsNamed (hgroups : data.partitions = .ok groups)
    {group : Partition} (hgroup : group ∈ groups) {name : String} {cell : Value}
    (hcell : cell ∈ data.keyCellsNamed group name) (w : Value) : cell ≠ .column [w] := by
  rintro rfl
  rcases List.mem_map.1 hcell with ⟨entry, hentry, heq⟩
  have hkey := (List.of_mem_zip (List.mem_filter.1 hentry).1).2
  rw [heq] at hkey
  cases canBeKey_of_mem_key hgroups hgroup hkey

theorem recalled_columns_iff (hgroups : data.partitions = .ok groups)
    (hrows : forall entries, entries ∈ rows -> entries.map Prod.fst = names)
    (hlength : (entriesNamed rows target).length = (entriesNamed rows source).length)
    (hrecalls : List.Forall₂ (fun entries group => group ∈ groups ∧
      data.Recalls source target entries group) rows groups) :
    entriesNamed rows target = entriesNamed rows source <->
      (data.groups = [] -> data.rows = [] ->
        forall value, value ∈ entriesNamed rows source -> value = .missing) ∧
      (forall value, value ∈ entriesNamed rows source -> forall w, value ≠ .column [w]) ∧
      forall group, group ∈ groups ->
        data.keyCellsNamed group target = data.keyCellsNamed group source := by
  rw [entriesNamed_eq_iff hrows hlength]
  have hmem : forall value, value ∈ entriesNamed rows source <->
      exists entries, entries ∈ rows ∧ value ∈ entryValues source entries :=
    fun _ => List.mem_flatMap
  have hgroup : forall entries, entries ∈ rows -> exists group, group ∈ groups ∧
      data.Recalls source target entries group := by
    intro entries hentries
    rcases exists_of_forall₂ hrecalls hentries with ⟨group, _, hgroup⟩
    exact ⟨group, hgroup⟩
  constructor
  · intro hsame
    refine ⟨?_, ?_, ?_⟩
    · intro hflat hnone value hvalue
      rcases (hmem value).1 hvalue with ⟨entries, hentries, hvalue⟩
      rcases hgroup entries hentries with ⟨group, hgroup, hrecall⟩
      rcases hrecall.eq_iff with ⟨stored, hsource, hiff⟩
      have hkeys : source ∉ data.groups := by
        rw [hflat]
        exact List.not_mem_nil
      rw [hsource, keyCellsNamed_of_not_mem hkeys, List.nil_append, List.mem_singleton] at hvalue
      rw [hvalue]
      have hsize : group.size = 0 := (size_eq_zero_iff hgroups hgroup).2 ⟨hflat, hnone⟩
      exact (hiff.1 (hsame entries hentries)).2.1 hsize
    · intro value hvalue
      rcases (hmem value).1 hvalue with ⟨entries, hentries, hvalue⟩
      rcases hgroup entries hentries with ⟨group, hgroup, hrecall⟩
      rcases hrecall.eq_iff with ⟨stored, hsource, hiff⟩
      rw [hsource, List.mem_append, List.mem_singleton] at hvalue
      rcases hvalue with hcell | rfl
      · exact not_column_of_mem_keyCellsNamed hgroups hgroup hcell
      · exact (hiff.1 (hsame entries hentries)).2.2
    · intro group hgroup
      rcases exists_of_forall₂ hrecalls.flip hgroup with ⟨entries, hentries, _, hrecall⟩
      rcases hrecall.eq_iff with ⟨stored, _, hiff⟩
      exact (hiff.1 (hsame entries hentries)).1
  · rintro ⟨hmissing, hcolumn, hkeys⟩ entries hentries
    rcases hgroup entries hentries with ⟨group, hgroup, hrecall⟩
    rcases hrecall.eq_iff with ⟨stored, hsource, hiff⟩
    have hstored : stored ∈ entriesNamed rows source := by
      refine (hmem stored).2 ⟨entries, hentries, ?_⟩
      rw [hsource]
      exact List.mem_append_right _ (List.mem_singleton_self stored)
    refine hiff.2 ⟨hkeys group hgroup, ?_, hcolumn stored hstored⟩
    intro hsize
    rcases (size_eq_zero_iff hgroups hgroup).1 hsize with ⟨hflat, hnone⟩
    exact hmissing hflat hnone stored hstored

/-- In a table of summaries the one that reads another has the same values, save for what a flat
table without rows stores, for columns, and for keys of the same names. -/
theorem summarize_recalled_iff {first second : List Assign} {fragment : Option String}
    {table : Dataset}
    (h : summarize callers (first ++ reread target source fragment :: second) data = .ok table)
    (hsource : source ∈ first.map Assign.name)
    (hnames : ((first ++ reread target source fragment :: second).map Assign.name).Nodup) :
    source ∈ table.header ∧ target ∈ table.header ∧
      exists groups, data.partitions = .ok groups ∧
        (table.firstColumn target = table.firstColumn source <->
          (data.groups = [] -> data.rows = [] ->
            forall value, value ∈ table.firstColumn source -> value = .missing) ∧
          (forall value, value ∈ table.firstColumn source -> forall w, value ≠ .column [w]) ∧
          forall group, group ∈ groups ->
            data.keyCellsNamed group target = data.keyCellsNamed group source) := by
  rcases firstColumn_summarize h with ⟨groups, rows, hgroups, hrows, hcolumns⟩
  have hread : source ∈ (first ++ reread target source fragment :: second).map Assign.name := by
    rw [List.map_append]
    exact List.mem_append_left _ hsource
  have hown : target ∈ (first ++ reread target source fragment :: second).map Assign.name := by
    rw [List.map_append]
    exact List.mem_append_right _ (List.mem_cons_self ..)
  rcases hcolumns source (List.mem_append_right _ hread) with ⟨hsourceMem, hsourceColumn⟩
  rcases hcolumns target (List.mem_append_right _ hown) with ⟨htargetMem, htargetColumn⟩
  refine ⟨hsourceMem, htargetMem, groups, hgroups, ?_⟩
  have hall : List.Forall₂ (fun entries group => group ∈ groups ∧
      data.Recalls source target entries group) rows groups :=
    forall₂_of_mapM_eq_ok hrows fun group hgroup entries hentries =>
      ⟨hgroup, recalls_of_groupRow hsource hnames hentries⟩
  have hentries : forall entries, entries ∈ rows -> entries.map Prod.fst =
      data.groups ++ (first ++ reread target source fragment :: second).map Assign.name := by
    have hall : List.Forall₂ (fun entries _ => entries.map Prod.fst =
        data.groups ++ (first ++ reread target source fragment :: second).map Assign.name)
        rows groups :=
      forall₂_of_mapM_eq_ok hrows fun group hgroup entries hentries =>
        groupRow_names (key_length hgroups hgroup) hentries
    intro entries hmem
    rcases exists_of_forall₂ hall hmem with ⟨_, _, hnames⟩
    exact hnames
  rw [hsourceColumn, htargetColumn]
  refine recalled_columns_iff hgroups hentries ?_ hall
  rw [← hsourceColumn, ← htargetColumn, firstColumn_length, firstColumn_length]

end Dataset

/-!
# Compiled references
-/

namespace Request

theorem summaries_extendScope (scope : Scope) (names : List String) :
    (extendScope .aggregate scope names).summaries = scope.summaries ++ names := by
  show (scope.addColumns names).summaries ++ names = _
  rw [Scope.addColumns_summaries]

theorem assigns_reference {scope : Scope} {source target : String}
    (hsource : source ∈ scope.summaries) :
    Compile.assigns scope .aggregate (.assignment target (.identifier source)) =
      .ok [reread target source none] := by
  have hexpr : Compile.expr scope .aggregate true (.identifier source) =
      .ok (.first (.column source)) := by
    rw [Compile.expr, if_pos (by simpa using hsource)]
  rw [Compile.assigns, if_neg (by simp [Compile.isAcross]), hexpr]
  rfl

theorem assigns_of_reference {scope : Scope} {before after : List ResolvedFragment}
    {reference : ResolvedFragment} {source target : String} {first assigns : List Assign}
    (hnode : reference.node = .assignment target (.identifier source))
    (hfirst : Request.assigns .aggregate scope before = .ok first)
    (hsource : source ∈ first.map Assign.name)
    (h : Request.assigns .aggregate scope (before ++ reference :: after) = .ok assigns) :
    exists second,
      assigns = first ++ reread target source (some reference.source) :: second := by
  rcases assigns_append_eq_ok_iff.1 h with ⟨other, rest, hother, hrest, rfl⟩
  rw [hfirst] at hother
  cases hother
  have hsummaries : source ∈ (extendScope .aggregate scope (first.map Assign.name)).summaries := by
    rw [summaries_extendScope]
    exact List.mem_append_right _ hsource
  rw [Request.assigns, hnode, assigns_reference hsummaries] at hrest
  rcases bind_eq_ok_iff.1 hrest with ⟨found, hfound, hrest⟩
  cases hfound
  rcases bind_eq_ok_iff.1 hrest with ⟨second, _, hrest⟩
  cases hrest
  exact ⟨second, rfl⟩

end Request

/-!
# Calls
-/

namespace Invocation

variable {call : Invocation} {data result : Dataset} {source target : String}

/-- A call whose summaries have distinct names, and in which the fragment of one of them is the
bare name of an earlier one. -/
def RefersTo (call : Invocation) (data : Dataset) (source target : String) : Prop :=
  exists before reference after first assigns,
    call.fragments = .ok (before ++ reference :: after) ∧
    reference.node = .assignment target (.identifier source) ∧
    Request.assigns .aggregate (call.requestOf data (before ++ reference :: after)).fullScope
      before = .ok first ∧ source ∈ first.map Assign.name ∧
    Request.assigns .aggregate (call.requestOf data (before ++ reference :: after)).fullScope
      (before ++ reference :: after) = .ok assigns ∧ (assigns.map Assign.name).Nodup

theorem firstColumn_of_summarize {callers : CallerFunctions} {assigns : List Assign}
    {wide table : Dataset} (h : summarize callers assigns wide = .ok table) {name : String}
    (hname : name ∈ table.header) (hreserved : isReserved name = false) :
    name ∈ (table.dropped isReserved).header ∧
      (table.dropped isReserved).firstColumn name = table.firstColumn name := by
  rcases summarize_isTable h with ⟨htable, hflat⟩
  have hregular : table.IsRegular := by
    refine ⟨htable.nodup, htable.width, htable.keys, ?_⟩
    rw [hflat]
    intro key hkey
    cases hkey
  exact ⟨mem_dropped_header.2 ⟨hname, hreserved⟩, firstColumn_dropped hregular hname hreserved⟩

/-- A summary that is the bare name of an earlier one has the same value in every row of the
result just when the earlier one is missing on a flat table without rows, is nowhere a column of
one value, and the keys of their names, if there are any, have the same cells. -/
theorem reference_eq_iff (hverb : call.verb = .summarize ∨ call.verb = .summarise)
    (hdata : data.WellFormed) (hrefers : call.RefersTo data source target)
    (hsource : isReserved source = false) (htarget : isReserved target = false)
    {settings : Settings} (hrun : (call.run settings data).result = .ok result) :
    source ∈ result.header ∧ target ∈ result.header ∧
      exists groups, data.partitions = .ok groups ∧
        (result.firstColumn target = result.firstColumn source <->
          (data.groups = [] -> data.rows = [] ->
            forall value, value ∈ result.firstColumn source -> value = .missing) ∧
          (forall value, value ∈ result.firstColumn source -> forall w, value ≠ .column [w]) ∧
          forall group, group ∈ groups ->
            data.keyCellsNamed group target = data.keyCellsNamed group source) := by
  rcases exists_condenses hverb hrun with ⟨found, assigns, wide, hcondenses⟩
  rcases hcondenses.summarized hrun with ⟨table, htable, rfl⟩
  rcases hrefers with
    ⟨before, reference, after, first, others, hall, hnode, hfirst, hmem, hothers, hnodup⟩
  rw [hcondenses.fragments] at hall
  cases hall
  rw [hcondenses.compiled] at hothers
  cases hothers
  rcases Request.assigns_of_reference hnode hfirst hmem hcondenses.compiled with ⟨second, rfl⟩
  rcases summarize_recalled_iff htable hmem hnodup with
    ⟨hsourceMem, htargetMem, groups, hgroups, hiff⟩
  have hpads := hdata.pads_rowColumns hcondenses.padded
  have hrows : wide.rows = [] <-> data.rows = [] := by
    rw [← List.length_eq_zero_iff, ← List.length_eq_zero_iff]
    exact iff_of_eq (congrArg (· = 0) hpads.nrows)
  have hcells : forall group name,
      wide.keyCellsNamed group name = data.keyCellsNamed group name := by
    intro group name
    rw [keyCellsNamed, hpads.groups]
    rfl
  rcases firstColumn_of_summarize htable hsourceMem hsource with ⟨hsourceHeader, hsourceColumn⟩
  rcases firstColumn_of_summarize htable htargetMem htarget with ⟨htargetHeader, htargetColumn⟩
  refine ⟨hsourceHeader, htargetHeader, groups, hpads.partitions ▸ hgroups, ?_⟩
  have hsourceColumn : { table.dropped isReserved with
      groups := data.groups.dropLast }.firstColumn source = table.firstColumn source :=
    hsourceColumn
  have htargetColumn : { table.dropped isReserved with
      groups := data.groups.dropLast }.firstColumn target = table.firstColumn target :=
    htargetColumn
  rw [hsourceColumn, htargetColumn, hiff, hpads.groups, hrows]
  simp only [hcells]

def summarizeCountCopy : Invocation :=
  { mutateCountCopy with verb := .summarize }

/-- A column without cells. -/
def rowless : Dataset := flat ["x"] []

theorem summarizeCountCopy_fragments :
    summarizeCountCopy.fragments = .ok [countingFragment, copyFragment] :=
  mutateCountCopy_fragments

theorem summarizeCountCopy_refersTo : summarizeCountCopy.RefersTo rowless "y" "z" :=
  ⟨[countingFragment], copyFragment, [], _, _, summarizeCountCopy_fragments, rfl, rfl, by decide,
    rfl, by decide⟩

theorem summarizeCountCopy_run : (summarizeCountCopy.run Settings.initial rowless).result =
    .ok (flat ["y", "z"] [[.int 0, .missing]]) :=
  run_eq_ok_iff.2 ⟨_, _, summarizeCountCopy_fragments, rfl, rfl⟩

/-- Where there are no rows, their number is zero, and what refers to it is missing. -/
theorem reference_eq_iff_rowless :
    summarizeCountCopy.RefersTo rowless "y" "z" ∧
      (flat ["y", "z"] [[.int 0, .missing]]).firstColumn "z" ≠
        (flat ["y", "z"] [[.int 0, .missing]]).firstColumn "y" := by
  refine ⟨summarizeCountCopy_refersTo, ?_⟩
  intro hsame
  rcases reference_eq_iff (.inl rfl) (by decide) summarizeCountCopy_refersTo (by decide) (by decide)
    summarizeCountCopy_run with ⟨_, _, _, _, hiff⟩
  cases (hiff.1 hsame).1 rfl rfl (.int 0) (List.mem_singleton_self _)

end Invocation
end Wrangle
