import Wrangle.Proofs.Dataset.Arranging
import Wrangle.Proofs.Verb.Chaining

/-!
# Calls that name columns

A call whose fragments are names of columns groups the rows by these columns, or
sorts them.  Such a call adds no reserved columns: a fragment asks for them only
where the call has a tree that mentions them.
-/

namespace Wrangle

open Dataset Compile

/-!
# What fragments ask for
-/

namespace Invocation

variable {call : Invocation} {data : Dataset} {found : List ResolvedFragment}
variable {columns : List String}

theorem fragments_frugal (h : call.fragments = .ok found) : AreFrugal found := by
  rcases bind_eq_ok_iff.1 h with ⟨sources, _, hresolved⟩
  have hgives := Interpolation.resolveAll_frugal call.env sources
  rw [hresolved] at hgives
  exact hgives

theorem mem_header_or_rowNames {name : String}
    (h : name ∈ (call.requestOf data found).fullScope.columns) :
    name ∈ data.header ∨ name ∈ rowNames found := by
  rcases Request.mem_fullScope h with hheader | ⟨hflag, rfl⟩ | ⟨hflag, rfl⟩
  · exact Or.inl hheader
  · rcases List.any_eq_true.1 hflag with ⟨fragment, hfragment, hmentions⟩
    exact Or.inr (mem_rowNames_iff.2 ⟨fragment, hfragment, Or.inl ⟨hmentions, rfl⟩⟩)
  · rcases List.any_eq_true.1 hflag with ⟨fragment, hfragment, hmentions⟩
    exact Or.inr (mem_rowNames_iff.2 ⟨fragment, hfragment, Or.inr ⟨hmentions, rfl⟩⟩)

theorem mem_header_of_scope {wide : Dataset} (hpads : data.Pads (rowNames found) wide)
    {name : String} (h : name ∈ (call.requestOf data found).fullScope.columns) :
    name ∈ wide.header := by
  rcases mem_header_or_rowNames h with hheader | hrow
  · rw [← hpads.dropped] at hheader
    exact (mem_dropped_header.1 hheader).1
  · exact hpads.mem_header hrow

def AreQuiet (found : List ResolvedFragment) : Prop :=
  forall fragment, fragment ∈ found ->
    fragment.node.mentionsBareCall countFunction = false ∧
      fragment.node.mentionsBareCall rowNumberFunction = false

theorem mentionsCount_iff (h : call.fragments = .ok found) :
    (call.requestOf data found).mentionsCount = true <->
      exists node, node ∈ found.map ResolvedFragment.node ∧
        node.mentionsBareCall countFunction = true := by
  show found.any ResolvedFragment.mentionsCount = true <-> _
  rw [List.any_eq_true]
  constructor
  · rintro ⟨fragment, hfragment, hflag⟩
    rcases (fragments_frugal h).count fragment hfragment hflag with ⟨other, hother, hcall⟩
    exact ⟨other.node, List.mem_map_of_mem hother, hcall⟩
  · rintro ⟨node, hnode, hcall⟩
    rcases List.mem_map.1 hnode with ⟨fragment, hfragment, rfl⟩
    exact ⟨fragment, hfragment, (fragments_tell h hfragment).count hcall⟩

theorem mentionsRowNumber_iff (h : call.fragments = .ok found) :
    (call.requestOf data found).mentionsRowNumber = true <->
      exists node, node ∈ found.map ResolvedFragment.node ∧
        node.mentionsBareCall rowNumberFunction = true := by
  show found.any ResolvedFragment.mentionsRowNumber = true <-> _
  rw [List.any_eq_true]
  constructor
  · rintro ⟨fragment, hfragment, hflag⟩
    rcases (fragments_frugal h).rowNumber fragment hfragment hflag with ⟨other, hother, hcall⟩
    exact ⟨other.node, List.mem_map_of_mem hother, hcall⟩
  · rintro ⟨node, hnode, hcall⟩
    rcases List.mem_map.1 hnode with ⟨fragment, hfragment, rfl⟩
    exact ⟨fragment, hfragment, (fragments_tell h hfragment).rowNumber hcall⟩

theorem asks_nothing (h : call.fragments = .ok found) (hquiet : AreQuiet found) :
    (call.requestOf data found).mentionsCount = false ∧
      (call.requestOf data found).mentionsRowNumber = false := by
  rw [Bool.eq_false_iff, Bool.eq_false_iff, Ne, Ne, mentionsCount_iff h, mentionsRowNumber_iff h]
  constructor
  · rintro ⟨node, hnode, hmentions⟩
    rcases List.mem_map.1 hnode with ⟨fragment, hfragment, rfl⟩
    rw [(hquiet fragment hfragment).1] at hmentions
    cases hmentions
  · rintro ⟨node, hnode, hmentions⟩
    rcases List.mem_map.1 hnode with ⟨fragment, hfragment, rfl⟩
    rw [(hquiet fragment hfragment).2] at hmentions
    cases hmentions

theorem rowColumns_of_quiet (h : call.fragments = .ok found) (hquiet : AreQuiet found) :
    (call.requestOf data found).rowColumns = [] := by
  rcases asks_nothing h hquiet with ⟨hcount, hrowNumber⟩
  rw [Request.rowColumns, hcount, hrowNumber]
  rfl

theorem fullScope_of_quiet (h : call.fragments = .ok found) (hquiet : AreQuiet found) :
    (call.requestOf data found).fullScope = Scope.ofColumns data.header call.registry call.env := by
  rcases asks_nothing h hquiet with ⟨hcount, hrowNumber⟩
  rw [Request.fullScope, hcount, hrowNumber]
  rfl

/-!
# Names of columns
-/

/-- A call of a verb whose fragments are the names of columns. -/
structure Names (call : Invocation) (verb : Verb) (columns : List String) : Prop where
  verb : call.verb = verb
  fragments : exists found, call.fragments = .ok found ∧
    found.map ResolvedFragment.node = columns.map Node.identifier

theorem areQuiet_of_names (h : found.map ResolvedFragment.node = columns.map Node.identifier) :
    AreQuiet found := by
  intro fragment hfragment
  have hmem : fragment.node ∈ columns.map Node.identifier := by
    rw [← h]
    exact List.mem_map_of_mem hfragment
  rcases List.mem_map.1 hmem with ⟨name, _, hname⟩
  rw [← hname]
  exact ⟨rfl, rfl⟩

/-- Add names to others, but for those that are there already. -/
def addedNames (kept names : List String) : List String :=
  names.foldl (fun kept name => ColumnSets.addNew kept [name]) kept

theorem mem_addedNames_iff {kept names : List String} {name : String} :
    name ∈ addedNames kept names <-> name ∈ kept ∨ name ∈ names := by
  induction names generalizing kept with
  | nil => simp [addedNames]
  | cons first rest ih =>
      show name ∈ addedNames (ColumnSets.addNew kept [first]) rest <-> _
      rw [ih, ColumnSets.mem_addNew_iff, List.mem_singleton, List.mem_cons, or_assoc]

theorem addNew_of_mem {kept : List String} {name : String} (h : name ∈ kept) :
    ColumnSets.addNew kept [name] = kept := by
  simp [ColumnSets.addNew, h]

theorem addNew_of_not_mem {kept : List String} {name : String} (h : name ∉ kept) :
    ColumnSets.addNew kept [name] = kept ++ [name] := by
  simp [ColumnSets.addNew, h]

theorem addedNames_nodup {kept : List String} (h : kept.Nodup) (names : List String) :
    (addedNames kept names).Nodup := by
  induction names generalizing kept with
  | nil => exact h
  | cons first rest ih =>
      show (addedNames (ColumnSets.addNew kept [first]) rest).Nodup
      apply ih
      by_cases hmem : first ∈ kept
      · rwa [addNew_of_mem hmem]
      · rw [addNew_of_not_mem hmem]
        exact List.nodup_append.2 ⟨h, List.nodup_singleton first,
          fun name hname other hother heq => hmem (List.mem_singleton.1 hother ▸ heq ▸ hname)⟩

theorem addedNames_of_nodup {kept names : List String} (h : (kept ++ names).Nodup) :
    addedNames kept names = kept ++ names := by
  induction names generalizing kept with
  | nil => exact (List.append_nil kept).symm
  | cons first rest ih =>
      have hmem : first ∉ kept :=
        fun hmem => (List.nodup_append.1 h).2.2 first hmem first List.mem_cons_self rfl
      have hmoved : kept ++ first :: rest = (kept ++ [first]) ++ rest := by simp
      show addedNames (ColumnSets.addNew kept [first]) rest = _
      rw [addNew_of_not_mem hmem, hmoved]
      exact ih (hmoved ▸ h)

theorem selectNames_identifier {scope : Scope} {column : String} (h : column ∈ scope.columns) :
    selectNames scope (.identifier column) = .ok [column] := by
  have hknown : scope.columns.contains column = true := List.contains_iff_mem.2 h
  rw [selectNames, columnSets, columnOf, knownColumn, if_pos hknown]
  rfl

theorem groupKeys_of_names {scope : Scope}
    (h : found.map ResolvedFragment.node = columns.map Node.identifier)
    (hcolumns : forall column, column ∈ columns -> column ∈ scope.columns) (names : List String) :
    Request.groupKeys scope names found = .ok ([], addedNames names columns) := by
  induction columns generalizing found names with
  | nil =>
      rw [List.map_eq_nil_iff.1 h]
      rfl
  | cons column columns ih =>
      rcases List.map_eq_cons_iff.1 h with ⟨fragment, others, rfl, hnode, hothers⟩
      rcases List.forall_mem_cons.1 hcolumns with ⟨hcolumn, hrest⟩
      have hfirst : Compile.groupKeys scope (.identifier column) = .ok ([], [column], scope) := by
        rw [Compile.groupKeys, selectNames_identifier hcolumn]
        · rfl
        · nofun
      rw [Request.groupKeys, hnode, hfirst]
      show (Request.groupKeys scope (ColumnSets.addNew names [column]) others >>= _) = _
      rw [ih hothers hrest]
      rfl

theorem sortKeys_of_names {scope : Scope}
    (h : found.map ResolvedFragment.node = columns.map Node.identifier)
    (hcolumns : forall column, column ∈ columns -> column ∈ scope.columns) :
    Request.sortKeys scope found = .ok ([], columns.map ascending) := by
  induction columns generalizing found with
  | nil =>
      rw [List.map_eq_nil_iff.1 h]
      rfl
  | cons column columns ih =>
      rcases List.map_eq_cons_iff.1 h with ⟨fragment, others, rfl, hnode, hothers⟩
      rcases List.forall_mem_cons.1 hcolumns with ⟨hcolumn, hrest⟩
      have hfirst : Compile.orderKey scope (.identifier column) =
          .ok ([], ascending column, scope) := by
        have hknown : scope.columns.contains column = true := List.contains_iff_mem.2 hcolumn
        simp [Compile.orderKey, stripReversals, columnKey?, hcolumn, ascending]
      rw [Request.sortKeys, hnode, hfirst]
      show (Request.sortKeys scope others >>= _) = _
      rw [ih hothers hrest]
      rfl

/-!
# Grouping and sorting
-/

theorem withGroups_wellFormed (hdata : data.WellFormed) {keys : List String}
    (hkeys : forall key, key ∈ keys -> key ∈ data.header) :
    (data.withGroups keys).WellFormed where
  nodup := hdata.nodup
  unreserved := hdata.unreserved
  width := hdata.width
  keys := hkeys

theorem keysAre_withGroups {test : Value -> Bool} {keys found : List String}
    (h : (data.withGroups keys).KeysAre test) (hfound : forall key, key ∈ found <-> key ∈ keys) :
    (data.withGroups found).KeysAre test where
  present := fun key hkey => h.present key ((hfound key).1 hkey)
  cells := fun key hkey => h.cells key ((hfound key).1 hkey)

theorem regroup_withGroups {callers : CallerFunctions} {names : List String}
    (hnames : forall name, name ∈ names -> name ∈ data.header) :
    Operation.applyAll callers [if names.isEmpty then .ungroup else .groupBy names] data =
      .ok (data.withGroups names) := by
  rw [Operation.applyAll_single]
  cases names with
  | nil => rfl
  | cons first rest =>
      have hpresent : (first :: rest).filter (fun key => !data.header.contains key) = [] := by
        rw [List.filter_eq_nil_iff]
        intro name hname
        simpa using hnames name hname
      show data.groupBy (first :: rest) = _
      rw [groupBy, if_neg (by simp), hpresent]
      rfl

/-- Keys that are not computed are all that a call needs to group by: the columns for numbers of
rows, if the fragments ask for them, are gone again before the rows are grouped. -/
theorem run_groupBy (hverb : call.verb = .groupBy) (hdata : data.WellFormed)
    (hfound : call.fragments = .ok found) {names : List String}
    (hkeys : Request.groupKeys (call.requestOf data found).fullScope [] found = .ok ([], names))
    (hnames : forall name, name ∈ names -> name ∈ data.header)
    (hwide : exists wide,
      Operation.applyAll call.env.functions (call.requestOf data found).rowColumns data = .ok wide)
    (settings : Settings) :
    (call.run settings data).result = .ok (data.withGroups names) := by
  rcases hwide with ⟨wide, hwide⟩
  have hpads := hdata.pads_rowColumns hwide
  have hplan : call.verb.plan (call.requestOf data found) =
      .ok ((call.requestOf data found).enclosed [] ++
        [if names.isEmpty then .ungroup else .groupBy names]) := by
    rw [hverb]
    show (call.requestOf data found).planGroupBy = _
    rw [Request.planGroupBy]
    show (Request.groupKeys (call.requestOf data found).fullScope [] found >>= _) = _
    rw [hkeys]
    rfl
  refine run_eq_ok_iff.2 ⟨_, _, hfound, hplan, ?_⟩
  rw [Operation.applyAll_append, Request.enclosed, List.append_nil, Operation.applyAll_append,
    hwide, ok_bind, Operation.applyAll_single, Operation.apply, hpads.regular.drop_eq_ok,
    hpads.dropped, ok_bind]
  exact regroup_withGroups hnames

theorem Names.run_groupBy (h : call.Names .groupBy columns) (hdata : data.WellFormed)
    (hcolumns : forall column, column ∈ columns -> column ∈ data.header) (settings : Settings) :
    (call.run settings data).result = .ok (data.withGroups (addedNames [] columns)) := by
  rcases h.fragments with ⟨found, hfound, hnames⟩
  have hquiet := areQuiet_of_names hnames
  apply Invocation.run_groupBy h.verb hdata hfound
  · rw [fullScope_of_quiet hfound hquiet]
    exact groupKeys_of_names hnames hcolumns []
  · intro name hname
    exact hcolumns name ((mem_addedNames_iff.1 hname).resolve_left List.not_mem_nil)
  · rw [rowColumns_of_quiet hfound hquiet]
    exact ⟨data, rfl⟩

theorem applyAll_whileFlat {callers : CallerFunctions} {ops : List Operation}
    {rows : List (List Value)} (hdata : data.WellFormed)
    (hops : Operation.applyAll callers ops data.ungroup = .ok { data.ungroup with rows := rows }) :
    Operation.applyAll callers ((call.requestOf data found).whileFlat ops) data =
      .ok { data with rows := rows } := by
  rw [Request.whileFlat]
  split
  · rename_i hempty
    have hflat : data.ungroup = data := by
      have hnone : data.groups = [] := List.isEmpty_iff.1 hempty
      rw [ungroup, ← hnone]
    rwa [hflat] at hops
  · rw [Operation.applyAll_append, Operation.applyAll_append, Operation.applyAll_single]
    show (Operation.applyAll _ _ data.ungroup >>= _) = _
    rw [hops, ok_bind, Operation.applyAll_single]
    have hgrouped : { data with rows := rows }.checked = .ok { data with rows := rows } :=
      checked_eq_ok hdata.keys
    exact hgrouped

/-- Keys that are columns are all that a call needs to arrange by: the rows are sorted while the
dataset is flat, and grouped as before. -/
theorem run_arrange (hverb : call.verb = .arrange) (hdata : data.WellFormed)
    (hfound : call.fragments = .ok found) (hquiet : AreQuiet found) {keys : List SortKey}
    (hkeys : Request.sortKeys (Scope.ofColumns data.header call.registry call.env) found =
      .ok ([], keys))
    {rows : List (List Value)}
    (hrows : sort keys data.ungroup = .ok { data.ungroup with rows := rows })
    (settings : Settings) :
    (call.run settings data).result = .ok { data with rows := rows } := by
  by_cases hsome : found = []
  · rw [hsome] at hkeys
    cases hkeys
    cases hrows
    refine run_eq_ok_iff.2 ⟨found, [], hfound, ?_, rfl⟩
    rw [hverb, hsome]
    rfl
  have hplan : call.verb.plan (call.requestOf data found) =
      .ok ((call.requestOf data found).whileFlat ([.sort keys] ++ [.dropReserved])) := by
    rw [hverb]
    show (call.requestOf data found).planArrange = _
    rw [Request.planArrange, if_neg (by simpa [requestOf] using hsome),
      fullScope_of_quiet hfound hquiet]
    show (Request.sortKeys _ found >>= _) = _
    rw [hkeys, ok_bind]
    dsimp only
    rw [rowColumns_of_quiet hfound hquiet]
    rfl
  refine run_eq_ok_iff.2 ⟨found, _, hfound, hplan, applyAll_whileFlat hdata ?_⟩
  rw [Operation.applyAll_append, Operation.applyAll_single]
  show (sort keys data.ungroup >>= _) = _
  rw [hrows, ok_bind]
  exact Request.dropReserved_of_unreserved hdata.unreserved

theorem Names.run_arrange (h : call.Names .arrange columns) (hdata : data.WellFormed)
    (hflat : data.groups = [])
    (hcolumns : forall column, column ∈ columns -> column ∈ data.header)
    {rows : List (List Value)}
    (hrows : sort (columns.map ascending) data = .ok { data with rows := rows })
    (settings : Settings) :
    (call.run settings data).result = .ok { data with rows := rows } := by
  rcases h.fragments with ⟨found, hfound, hnames⟩
  have hungrouped : data.ungroup = data := by rw [ungroup, ← hflat]
  exact Invocation.run_arrange h.verb hdata hfound (areQuiet_of_names hnames)
    (sortKeys_of_names hnames hcolumns) (hungrouped.symm ▸ hrows) settings

end Invocation
end Wrangle
