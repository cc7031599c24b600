import Wrangle.Proofs.Dataset.Grouping
import Wrangle.Proofs.Dataset.Filtering

/-!
# Splitting reductions

Summaries give one row for each group, and slices some of its rows.  What a group
contributes is what the dataset of its rows alone gives, and the result puts these
contributions one after another in the order of the groups.
-/

namespace Wrangle
namespace Dataset

/-!
# Tables of columns
-/

theorem rowOf_firstColumns {data : Dataset} (hnodup : data.header.Nodup) (hwidth : data.HasWidth)
    {i : Nat} (hi : i < data.rows.length) :
    rowOf (data.header.map data.firstColumn) i = data.rows[i] := by
  have hlength := hwidth _ (List.getElem_mem hi)
  unfold rowOf
  apply List.ext_getElem
  · rw [List.length_map, List.length_map, hlength]
  · intro j hj hj'
    have hname : j < data.header.length := by
      rw [← hlength]
      exact hj'
    have hidx : data.header.idxOf data.header[j] = j := hnodup.idxOf_getElem j hname
    simp [firstColumn, cellAt, hi, hidx, hj']

theorem ofColumns_columns {data : Dataset} (hflat : data.groups = []) (hnodup : data.header.Nodup)
    (hwidth : data.HasWidth) (hsome : data.header ≠ []) :
    ofColumns data.columns = .ok data := by
  have hvalues : data.columns.map Prod.snd = data.header.map data.firstColumn := by
    rw [columns_eq hnodup hwidth, List.map_map]
    rfl
  have hnames : data.columns.map Prod.fst = data.header := by
    rw [columns_eq hnodup hwidth, List.map_map]
    exact List.map_id _
  have hrows : (List.range data.rows.length).map (rowOf (data.header.map data.firstColumn)) =
      data.rows := by
    apply List.ext_getElem
    · simp
    · intro i hi hi'
      rw [List.getElem_map, List.getElem_range, rowOf_firstColumns hnodup hwidth hi']
  have hlengths : forall column, column ∈ data.columns -> column.2.length = data.rows.length := by
    intro column hcolumn
    rw [columns_eq hnodup hwidth] at hcolumn
    rcases List.mem_map.1 hcolumn with ⟨name, _, rfl⟩
    exact List.length_map _
  have hcolumns : data.columns ≠ [] := by
    rintro hnone
    rw [hnone] at hnames
    exact hsome hnames.symm
  rw [ofColumns_eq hcolumns hlengths, hvalues, hnames, hrows, flat, ← hflat]

def ofEntries (names : List String) (rows : List (List (String × Value))) : Dataset :=
  flat names (rows.map fun entries => entries.map Prod.snd)

theorem entriesNamed_eq {names : List String} {rows : List (List (String × Value))}
    (hrows : forall entries, entries ∈ rows -> entries.map Prod.fst = names) (name : String) :
    entriesNamed rows name = (ofEntries names rows).valuesNamed name := by
  unfold entriesNamed valuesNamed ofEntries
  rw [flat, List.flatMap_map]
  apply List.flatMap_congr
  intro entries hentries
  have hnames := hrows entries hentries
  have hlength : (entries.map Prod.snd).length = names.length := by
    rw [List.length_map, ← hnames, List.length_map]
  have hzip : names.zip (entries.map Prod.snd) = entries := (List.zip_of_prod hnames rfl).symm
  rw [cellsNamed, ← hlength, fitted_of_length, hzip]

theorem ofColumns_entriesNamed {names : List String} (hnodup : names.Nodup) (hsome : names ≠ [])
    {rows : List (List (String × Value))}
    (hrows : forall entries, entries ∈ rows -> entries.map Prod.fst = names) :
    ofColumns (names.eraseDups.map fun name => (name, entriesNamed rows name)) =
      .ok (ofEntries names rows) := by
  have hwidth : (ofEntries names rows).HasWidth := by
    intro row hrow
    rcases List.mem_map.1 hrow with ⟨entries, hentries, rfl⟩
    rw [List.length_map, ← List.length_map Prod.fst, hrows entries hentries]
    rfl
  have hcolumns : ofColumns (ofEntries names rows).columns = .ok (ofEntries names rows) :=
    ofColumns_columns rfl hnodup hwidth hsome
  rw [← hcolumns, columns_eq_valuesNamed]
  congr 1
  apply List.map_congr_left
  intro name _
  rw [entriesNamed_eq hrows]

/-!
# Outcomes of groups
-/

section Outcomes

variable {groups : List Partition} {good better : Dataset -> (Partition -> Dataset) -> Prop}
variable {whole : Outcome Dataset} {parts : Partition -> Outcome Dataset}

theorem Combines.of_mapM {alpha : Type} [Inhabited alpha] {find : Partition -> Outcome alpha}
    {join : List alpha -> Outcome Dataset} {single : Partition -> alpha -> Dataset}
    (hwhole : whole = groups.mapM find >>= join)
    (hparts : forall group, group ∈ groups -> parts group = (find group).map (single group))
    (hjoin : forall value : Partition -> alpha,
      (forall group, group ∈ groups -> find group = .ok (value group)) ->
        exists result, join (groups.map value) = .ok result ∧
          good result fun group => single group (value group)) :
    Combines groups good whole parts := by
  have hjoined : (forall group, group ∈ groups -> exists a, find group = .ok a) ->
      exists value : Partition -> alpha,
        (forall group, group ∈ groups -> find group = .ok (value group)) ∧
          whole = join (groups.map value) := by
    intro hfind
    have hvalue : forall group, group ∈ groups ->
        find group = .ok ((find group).toOption.getD default) := by
      intro group hgroup
      rcases hfind group hgroup with ⟨a, ha⟩
      rw [ha]
      rfl
    refine ⟨fun group => (find group).toOption.getD default, hvalue, ?_⟩
    rw [hwhole, mapM_eq_ok hvalue, ok_bind]
  constructor
  · intro hall
    have hfind : forall group, group ∈ groups -> exists a, find group = .ok a := by
      intro group hgroup
      rcases hall group hgroup with ⟨part, hpart⟩
      rw [hparts group hgroup] at hpart
      rcases map_eq_ok_iff.1 hpart with ⟨a, ha, _⟩
      exact ⟨a, ha⟩
    rcases hjoined hfind with ⟨value, hvalue, heq⟩
    rcases hjoin value hvalue with ⟨result, hresult, _⟩
    exact ⟨result, heq.trans hresult⟩
  · intro result hresult
    have hfind : forall group, group ∈ groups -> exists a, find group = .ok a := by
      intro group hgroup
      rw [hwhole] at hresult
      rcases bind_eq_ok_iff.1 hresult with ⟨found, hfound, _⟩
      exact exists_of_mapM_eq_ok hfound hgroup
    rcases hjoined hfind with ⟨value, hvalue, heq⟩
    rcases hjoin value hvalue with ⟨joined, hjoined, hgood⟩
    rw [heq, hjoined] at hresult
    cases hresult
    refine ⟨_, hgood, ?_⟩
    intro group hgroup
    rw [hparts group hgroup, hvalue group hgroup]
    rfl

theorem Combines.andThen {next : Dataset -> Outcome Dataset}
    (h : Combines groups good whole parts)
    (hnext : forall data found, good data found ->
      exists result, next data = .ok result ∧ better result found) :
    Combines groups better (whole >>= next) parts := by
  constructor
  · intro hparts
    rcases h.succeeds hparts with ⟨data, hdata⟩
    rcases h.agrees data hdata with ⟨found, hgood, _⟩
    rcases hnext data found hgood with ⟨result, hresult, _⟩
    rw [hdata]
    exact ⟨result, hresult⟩
  · intro result hresult
    rcases bind_eq_ok_iff.1 hresult with ⟨data, hdata, hlast⟩
    rcases h.agrees data hdata with ⟨found, hgood, hfound⟩
    rcases hnext data found hgood with ⟨other, hother, hbetter⟩
    rw [hother] at hlast
    cases hlast
    exact ⟨found, hbetter, hfound⟩

end Outcomes

/-!
# Summaries
-/

section Summaries

variable {callers : CallerFunctions} {groups : List Partition} {keyNames : List String}
variable {data : Dataset} {assigns : List Assign}

theorem summaries_names {nrows : Nat} {columns : List (String × List Value)}
    {found : List (String × Value)} (h : summaries callers nrows columns assigns = .ok found) :
    found.map Prod.fst = assigns.map Assign.name := by
  induction assigns generalizing columns found with
  | nil =>
      cases h
      rfl
  | cons assign rest ih =>
      rw [summaries] at h
      rcases bind_eq_ok_iff.1 h with ⟨value, _, h⟩
      rcases bind_eq_ok_iff.1 h with ⟨others, hothers, h⟩
      cases h
      rw [List.map_cons, List.map_cons, ih hothers]

/-- A dataset with one row for each group, the cells of its key and then its summaries; and for
each group its summaries alone. -/
def Reduced (groups : List Partition) (keyNames names : List String) (result : Dataset)
    (found : Partition -> Dataset) : Prop :=
  exists row : Partition -> List Value,
    result = flat (keyNames ++ names) (groups.map fun group => group.key ++ row group) ∧
      found = fun group => flat names [row group]

theorem summarize_of_flat (hflat : data.groups = []) (hnames : (assigns.map Assign.name).Nodup)
    (hsome : assigns ≠ []) :
    summarize callers assigns data =
      (summaries callers data.nrows (restricted data.columns (List.range data.nrows)) assigns).map
        fun found => flat (assigns.map Assign.name) [found.map Prod.snd] := by
  unfold summarize
  rw [partitions_of_flat data hflat]
  show ((do
      let rows <- [Partition.whole data.nrows].mapM (groupRow callers _ assigns)
      ofColumns _) : Outcome Dataset) = _
  rw [List.mapM_cons, List.mapM_nil, groupRow, Partition.whole_size, Partition.whole_rows, hflat]
  cases hfound : summaries callers data.nrows (restricted data.columns (List.range data.nrows))
      assigns with
  | error failure => rfl
  | ok found =>
      show ofColumns (([] ++ assigns.map Assign.name).eraseDups.map fun name =>
        (name, entriesNamed [[] ++ found] name)) = _
      rw [List.nil_append, List.nil_append, ofColumns_entriesNamed hnames]
      · rfl
      · simpa using hsome
      · intro entries hentries
        rw [List.mem_singleton.1 hentries, summaries_names hfound]

theorem Splits.summarize_part (h : data.Splits groups keyNames)
    (hnames : (assigns.map Assign.name).Nodup) (hsome : assigns ≠ []) {group : Partition}
    (hgroup : group ∈ groups) :
    summarize callers assigns (data.part group.rows) =
      (summaries callers group.size (restricted data.columns group.rows) assigns).map
        fun found => flat (assigns.map Assign.name) [found.map Prod.snd] := by
  have hrows := h.hasRows hgroup
  have hframe := congrArg Frame.columns (frame_part h.nodup h.width hrows)
  unfold frame at hframe
  dsimp only at hframe
  rw [summarize_of_flat part_groups hnames hsome, part_nrows hrows, hframe, Partition.size]

def summaryCells (keyNames : List String) (entries : List (String × Value)) : List Value :=
  (entries.drop keyNames.length).map Prod.snd

theorem exists_of_groupRow {group : Partition} {entries : List (String × Value)}
    (h : groupRow callers data assigns group = .ok entries) :
    exists found, entries = data.groups.zip group.key ++ found ∧
      found.map Prod.fst = assigns.map Assign.name := by
  rcases bind_eq_ok_iff.1 h with ⟨found, hfound, h⟩
  cases h
  exact ⟨found, rfl, summaries_names hfound⟩

theorem summaryCells_append {key : List Value} (hlength : key.length = keyNames.length)
    (found : List (String × Value)) :
    summaryCells keyNames (keyNames.zip key ++ found) = found.map Prod.snd := by
  have hzip : (keyNames.zip key).length = keyNames.length := by
    rw [List.length_zip, hlength, Nat.min_self]
  rw [summaryCells, ← hzip, List.drop_left]

theorem Splits.combines_summarize (h : data.Splits groups keyNames)
    (hkeyNames : keyNames.Nodup)
    (hlength : forall group, group ∈ groups -> group.key.length = keyNames.length)
    (hnames : (assigns.map Assign.name).Nodup) (hsome : assigns ≠ [])
    (happart : forall a, a ∈ assigns -> a.name ∉ keyNames) :
    Combines groups (Reduced groups keyNames (assigns.map Assign.name))
      (summarize callers assigns data)
      fun group => summarize callers assigns (data.part group.rows) := by
  have hall : (keyNames ++ assigns.map Assign.name).Nodup := by
    rw [List.nodup_append]
    refine ⟨hkeyNames, hnames, ?_⟩
    intro key hkey name hname heq
    rcases List.mem_map.1 hname with ⟨a, ha, rfl⟩
    exact happart a ha (heq ▸ hkey)
  have hwhole : summarize callers assigns data =
      groups.mapM (groupRow callers data assigns) >>= fun rows =>
        ofColumns ((data.groups ++ assigns.map Assign.name).eraseDups.map fun name =>
          (name, entriesNamed rows name)) := by
    unfold summarize
    rw [h.partitions]
    rfl
  have hpart : forall group, group ∈ groups ->
      summarize callers assigns (data.part group.rows) =
        (groupRow callers data assigns group).map fun entries =>
          flat (assigns.map Assign.name) [summaryCells keyNames entries] := by
    intro group hgroup
    rw [h.summarize_part hnames hsome hgroup, groupRow, h.names]
    cases summaries callers group.size (restricted data.columns group.rows) assigns with
    | error failure => rfl
    | ok found =>
        show Except.ok (flat _ [found.map Prod.snd]) = Except.ok (flat _ [summaryCells keyNames _])
        rw [summaryCells_append (hlength group hgroup)]
  apply Combines.of_mapM hwhole hpart
  intro entries hentries
  have hparts : forall group, group ∈ groups -> exists found,
      entries group = keyNames.zip group.key ++ found ∧
        found.map Prod.fst = assigns.map Assign.name := by
    intro group hgroup
    rw [← h.names]
    exact exists_of_groupRow (hentries group hgroup)
  refine ⟨_, ?_, fun group => summaryCells keyNames (entries group), rfl, rfl⟩
  rw [h.names, ofColumns_entriesNamed hall]
  · rw [ofEntries, List.map_map]
    congr 2
    apply List.map_congr_left
    intro group hgroup
    rcases hparts group hgroup with ⟨found, heq, _⟩
    dsimp only [Function.comp_apply]
    rw [heq, summaryCells_append (hlength group hgroup), List.map_append,
      List.map_snd_zip (le_of_eq (hlength group hgroup))]
  · simp [hsome]
  · intro row hrow
    rcases List.mem_map.1 hrow with ⟨group, hgroup, rfl⟩
    rcases hparts group hgroup with ⟨found, heq, hfound⟩
    rw [heq, List.map_append, hfound, List.map_fst_zip (le_of_eq (hlength group hgroup).symm)]

end Summaries

/-!
# Slices
-/

section Slices

variable {groups : List Partition} {keyNames : List String} {data : Dataset}
variable {positions : Positions}

theorem lt_of_mem_offsets {nrows : Nat} {offsets : List Nat}
    (h : positions.offsets nrows = .ok offsets) {k : Nat} (hk : k ∈ offsets) : k < nrows := by
  rcases map_eq_ok_iff.1 h with ⟨ns, _, rfl⟩
  rcases List.mem_filterMap.1 hk with ⟨n, _, hn⟩
  exact Positions.offset?_lt hn

theorem pickedRows_eq {group : Partition} :
    pickedRows positions group =
      (positions.offsets group.size).map fun offsets => offsets.map (placeIn group.rows) := by
  unfold pickedRows
  cases hoffsets : positions.offsets group.size with
  | error failure => rfl
  | ok offsets =>
      show Except.ok _ = Except.ok _
      congr 1
      rw [← List.filterMap_eq_map]
      apply List.filterMap_congr
      intro k hk
      have hlt : k < group.rows.length := lt_of_mem_offsets hoffsets hk
      rw [List.getElem?_eq_getElem hlt, Function.comp_apply, placeIn,
        List.getElem?_eq_getElem hlt]
      rfl

theorem slice_eq (hgroups : data.partitions = .ok groups) :
    slice positions data = (groups.mapM (pickedRows positions)).map fun picked =>
      data.keep picked.flatten := by
  unfold slice
  rw [hgroups]
  show (groups.mapM (pickedRows positions) >>= _) = _
  cases groups.mapM (pickedRows positions) with
  | error failure => rfl
  | ok picked => rfl

theorem Splits.keep_part (h : data.Splits groups keyNames) {group : Partition}
    (hgroup : group ∈ groups) {offsets : List Nat}
    (hoffsets : positions.offsets group.size = .ok offsets) :
    (data.part group.rows).keep offsets = data.part (offsets.map (placeIn group.rows)) := by
  unfold keep
  rw [rowsAt_part (h.hasRows hgroup) fun k hk => lt_of_mem_offsets hoffsets hk]
  rfl

theorem Splits.slice_part (h : data.Splits groups keyNames) {group : Partition}
    (hgroup : group ∈ groups) :
    slice positions (data.part group.rows) = (pickedRows positions group).map data.part := by
  rw [slice_eq (part_partitions (h.hasRows hgroup)), List.mapM_cons, List.mapM_nil, pickedRows_eq,
    pickedRows_eq, Partition.whole_size, Partition.size]
  cases hoffsets : positions.offsets group.rows.length with
  | error failure => rfl
  | ok offsets =>
      have hplaces : offsets.map (placeIn (List.range group.rows.length)) = offsets := by
        rw [List.map_congr_left (g := id), List.map_id]
        intro k hk
        simp [placeIn, lt_of_mem_offsets hoffsets hk]
      show Except.ok (keep _ [offsets.map (placeIn (List.range group.rows.length))].flatten) = _
      rw [hplaces, List.flatten_singleton, h.keep_part hgroup hoffsets]
      rfl

/-- A dataset whose rows are those of some groups, one group after another, and for each group the
rows at its offsets, which all lie in it. -/
def Sliced (positions : Positions) (groups : List Partition) (data result : Dataset)
    (found : Partition -> Dataset) : Prop :=
  exists offsets : Partition -> List Nat,
    (forall group, group ∈ groups -> positions.offsets group.size = .ok (offsets group) ∧
      forall k, k ∈ offsets group -> k < group.size) ∧
    (forall group, group ∈ groups -> found group = (data.part group.rows).keep (offsets group)) ∧
    result = { data with rows := groups.flatMap fun group => (found group).rows }

theorem Splits.combines_slice (h : data.Splits groups keyNames) :
    Combines groups (Sliced positions groups data) (slice positions data)
      fun group => slice positions (data.part group.rows) := by
  have hwhole : slice positions data = groups.mapM (pickedRows positions) >>= fun picked =>
      .ok (data.keep picked.flatten) := by
    rw [slice_eq h.partitions]
    cases groups.mapM (pickedRows positions) with
    | error failure => rfl
    | ok picked => rfl
  apply Combines.of_mapM hwhole (fun group hgroup => h.slice_part hgroup)
  intro picked hpicked
  have hoffsets : forall group, group ∈ groups -> exists offsets,
      positions.offsets group.size = .ok offsets ∧
        picked group = offsets.map (placeIn group.rows) := by
    intro group hgroup
    have hfound := hpicked group hgroup
    rw [pickedRows_eq] at hfound
    rcases map_eq_ok_iff.1 hfound with ⟨offsets, hok, heq⟩
    exact ⟨offsets, hok, heq.symm⟩
  refine ⟨_, rfl, fun group => (positions.offsets group.size).toOption.getD [], ?_, ?_, ?_⟩
  · intro group hgroup
    rcases hoffsets group hgroup with ⟨offsets, hok, _⟩
    dsimp only
    rw [hok]
    exact ⟨rfl, fun k hk => lt_of_mem_offsets hok hk⟩
  · intro group hgroup
    rcases hoffsets group hgroup with ⟨offsets, hok, heq⟩
    dsimp only
    rw [hok, heq]
    exact (h.keep_part hgroup hok).symm
  · unfold keep
    congr 1
    rw [← List.flatMap_def, rowsAt, List.filterMap_flatMap]
    rfl

end Slices

end Dataset
end Wrangle
