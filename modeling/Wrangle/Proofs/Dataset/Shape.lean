import Wrangle.Proofs.Compile.Naming
import Wrangle.Proofs.Dataset.Parts
import Wrangle.Proofs.Dataset.Filtering

/-!
# Shape of tables

Operations keep the columns of a table distinct, its rows as wide as the header, and
its keys distinct columns.  Which keys there are after an operation, and whether a
reserved column can be there, follows from the operation alone.
-/

namespace Wrangle
namespace Dataset

/-- Distinct columns, rows as wide as the header, and distinct keys that are columns. -/
structure IsTable (data : Dataset) : Prop where
  nodup : data.header.Nodup
  width : data.HasWidth
  keys : forall key, key ∈ data.groups -> key ∈ data.header
  distinct : data.groups.Nodup

variable {callers : CallerFunctions} {data result : Dataset}

/-!
# Rows
-/

/-- A dataset with nothing but rows of another one, under the same columns and keys. -/
def HasRowsOf (data result : Dataset) : Prop :=
  exists rows, result = { data with rows := rows } ∧ forall row, row ∈ rows -> row ∈ data.rows

theorem IsTable.of_rows (h : data.IsTable) (hrows : data.HasRowsOf result) : result.IsTable := by
  rcases hrows with ⟨rows, rfl, hmem⟩
  exact ⟨h.nodup, fun row hrow => h.width row (hmem row hrow), h.keys, h.distinct⟩

theorem mem_of_mapM_keyedRow {i : Nat} {rows : List (List Value)}
    {keyed : List (Value × List Value)} (h : rows.mapM (keyedRow i) = .ok keyed) :
    forall entry, entry ∈ keyed -> entry.2 ∈ rows := by
  induction rows generalizing keyed with
  | nil =>
      cases h
      intro entry hentry
      cases hentry
  | cons row rest ih =>
      rw [List.mapM_cons] at h
      rcases bind_eq_ok_iff.1 h with ⟨first, hfirst, h⟩
      rcases bind_eq_ok_iff.1 h with ⟨others, hothers, h⟩
      cases h
      intro entry hentry
      rcases List.mem_cons.1 hentry with rfl | hentry
      · unfold keyedRow at hfirst
        split at hfirst
        · cases hfirst
          exact List.mem_cons_self ..
        · cases hfirst
      · exact List.mem_cons_of_mem _ (ih hothers entry hentry)

theorem kept_of_sortKeyed {keep : Value × List Value -> Prop} {reverse : Bool}
    {rows sorted : List (Value × List Value)} (hrows : Kept keep rows)
    (h : sortKeyed reverse rows = .ok sorted) : Kept keep sorted := by
  have hcompares : Compares (fun _ => True) keep
      (fun a b => Value.lessThan (keyRank a) (keyRank b)) := by
    intro a b _ _
    dsimp only
    cases Value.lessThan (keyRank a) (keyRank b) <;> trivial
  have hends : forall {items found : List (Value × List Value)}, Kept keep items ->
      Value.sortOn keyRank items = .ok found -> Kept keep found := by
    intro items found hitems hfound
    have hsorted := Value.sortOn_ends hcompares hitems
    rw [hfound] at hsorted
    exact hsorted
  unfold sortKeyed at h
  split at h
  · rcases map_eq_ok_iff.1 h with ⟨found, hfound, rfl⟩
    exact Kept.reverse_iff.2 (hends (Kept.reverse_iff.2 hrows) hfound)
  · exact hends hrows h

theorem mem_of_sortBy {header : List String} {key : SortKey} {rows sorted : List (List Value)}
    (h : sortBy header key rows = .ok sorted) : forall row, row ∈ sorted -> row ∈ rows := by
  unfold sortBy at h
  split at h
  · rcases bind_eq_ok_iff.1 h with ⟨keyed, hkeyed, h⟩
    have hentries : Kept (fun entry => entry.2 ∈ rows) keyed :=
      mem_of_mapM_keyedRow (ofFault_eq_ok_iff.1 hkeyed)
    dsimp only at h
    split at h
    · rename_i found hfound
      cases h
      intro row hrow
      rcases List.mem_map.1 hrow with ⟨entry, hentry, rfl⟩
      rcases List.mem_append.1 hentry with hentry | hentry
      · exact kept_of_sortKeyed
          (fun other hother => hentries other (List.mem_filter.1 hother).1) hfound entry hentry
      · exact hentries entry (List.mem_filter.1 hentry).1
    · cases h
    · cases h
  · cases h

theorem mem_of_sortRows {header : List String} {rows sorted : List (List Value)}
    {keys : List SortKey} (h : sortRows header rows keys = .ok sorted) :
    forall row, row ∈ sorted -> row ∈ rows := by
  induction keys generalizing sorted with
  | nil =>
      cases h
      exact fun _ hrow => hrow
  | cons key rest ih =>
      rcases bind_eq_ok_iff.1 h with ⟨between, hbetween, h⟩
      intro row hrow
      exact ih hbetween row (mem_of_sortBy h row hrow)

theorem sublist_of_firstRows {indices : List Nat} {seen : List (List Value)}
    {rows found : List (List Value)} (h : firstRows indices seen rows = .ok found) :
    found.Sublist rows := by
  induction rows generalizing seen found with
  | nil =>
      cases h
      exact List.Sublist.refl _
  | cons row rest ih =>
      rw [firstRows] at h
      split at h
      · cases h
      · split at h
        · exact (ih h).cons row
        · rcases map_eq_ok_iff.1 h with ⟨others, hothers, rfl⟩
          exact (ih hothers).cons_cons row

theorem sublist_of_completeRows {header : List String} {asked : List Value}
    {rows found : List (List Value)} (h : completeRows header asked rows = .ok found) :
    found.Sublist rows := by
  induction rows generalizing found with
  | nil =>
      cases h
      exact List.Sublist.refl _
  | cons row rest ih =>
      rw [completeRows] at h
      split at h
      · cases h
      · rcases map_eq_ok_iff.1 h with ⟨others, hothers, rfl⟩
        exact (ih hothers).cons_cons row
      · exact (ih h).cons row

theorem slice_rows {positions : Positions} (h : slice positions data = .ok result) :
    data.HasRowsOf result := by
  rcases bind_eq_ok_iff.1 h with ⟨groups, _, h⟩
  rcases bind_eq_ok_iff.1 h with ⟨picked, _, h⟩
  cases h
  exact ⟨_, rfl, fun row hrow => mem_rows_of_mem_rowsAt hrow⟩

theorem sort_rows {keys : List SortKey} (h : sort keys data = .ok result) :
    data.HasRowsOf result := by
  rcases map_eq_ok_iff.1 h with ⟨rows, hrows, rfl⟩
  exact ⟨rows, rfl, mem_of_sortRows hrows⟩

theorem unique_rows {columns : List String} (h : unique columns data = .ok result) :
    data.HasRowsOf result := by
  unfold unique at h
  dsimp only at h
  split at h
  · rcases map_eq_ok_iff.1 h with ⟨rows, hrows, rfl⟩
    exact ⟨rows, rfl, fun row hrow =>
      (sublist_of_firstRows (ofFault_eq_ok_iff.1 hrows)).subset hrow⟩
  · cases h

theorem dropMissing_rows {asked : List Value} (h : dropMissing asked data = .ok result) :
    data.HasRowsOf result := by
  rcases map_eq_ok_iff.1 h with ⟨rows, hrows, rfl⟩
  exact ⟨rows, rfl, fun row hrow =>
    (sublist_of_completeRows (ofFault_eq_ok_iff.1 hrows)).subset hrow⟩

theorem subset_rows (hwidth : data.HasWidth) {conditions : List Assign}
    (h : subset callers conditions data = .ok result) : data.HasRowsOf result := by
  rcases bind_eq_ok_iff.1 h with ⟨groups, hgroups, _⟩
  rw [subset_eq hwidth (ofFault_eq_ok_iff.1 hgroups)] at h
  rcases map_eq_ok_iff.1 h with ⟨kept, _, rfl⟩
  exact ⟨_, rfl, fun row hrow => mem_rows_of_mem_rowsAt hrow⟩

/-!
# Columns
-/

theorem IsTable.setColumn (h : data.IsTable) (name : String) (values : List Value) :
    (data.setColumn name values).IsTable := by
  constructor
  · rw [setColumn_header]
    exact headerWith_nodup h.nodup name
  · exact setColumn_hasWidth h.width name values
  · rw [setColumn_groups, setColumn_header]
    exact fun key hkey => mem_headerWith_iff.2 (Or.inl (h.keys key hkey))
  · rw [setColumn_groups]
    exact h.distinct

theorem IsTable.transform (h : data.IsTable) {assigns : List Assign}
    (hresult : transform callers assigns data = .ok result) :
    result.IsTable ∧ result.groups = data.groups := by
  induction assigns generalizing data with
  | nil =>
      cases hresult
      exact ⟨h, rfl⟩
  | cons assign rest ih =>
      rcases bind_eq_ok_iff.1 hresult with ⟨values, _, hresult⟩
      rcases ih (h.setColumn assign.name values) hresult with ⟨htable, hgroups⟩
      exact ⟨htable, hgroups.trans (setColumn_groups ..)⟩

theorem keptColumns_sublist (test : String -> Bool) (header : List String) :
    (keptColumns test header).Sublist (List.range header.length) := by
  have hrange : header.zipIdx.map Prod.snd = List.range header.length := by
    rw [List.zipIdx_map_snd, List.range_eq_range']
  rw [← hrange]
  exact List.filter_sublist.map _

theorem dropColumns_header_sublist (test : String -> Bool) :
    (data.dropColumns test).header.Sublist data.header := by
  have hsub := (keptColumns_sublist test data.header).filterMap fun i => data.header[i]?
  rwa [filterMap_getElem?_range, ← dropColumns_header] at hsub

theorem takeColumns_hasWidth {indices : List Nat}
    (h : forall i, i ∈ indices -> i < data.header.length) :
    (data.takeColumns indices).HasWidth := by
  intro row hrow
  rw [takeColumns_eq h] at hrow ⊢
  rcases List.mem_map.1 hrow with ⟨old, _, rfl⟩
  have hnames : (indices.filterMap fun i => data.header[i]?).length = indices.length := by
    rw [List.length_filterMap_eq_countP, List.countP_eq_length]
    intro i hi
    simp [h i hi]
  rw [hnames, cellsAt, List.length_map]

/-!
# Keys
-/

theorem groupBy_eq_ok {keys : List String} (h : data.groupBy keys = .ok result) :
    result = { data with groups := keys } ∧ forall key, key ∈ keys -> key ∈ data.header := by
  unfold groupBy at h
  split at h
  · cases h
  · split at h
    · rename_i hknown
      cases h
      refine ⟨rfl, ?_⟩
      intro key hkey
      have htest := List.filter_eq_nil_iff.1 hknown key hkey
      simpa using htest
    · cases h

theorem regroup_eq_ok {keys : List String} (h : data.regroup keys = .ok result) :
    result = { data with groups := keys } ∧ forall key, key ∈ keys -> key ∈ data.header := by
  unfold regroup at h
  split at h
  · rename_i hempty
    cases h
    rw [List.isEmpty_iff.1 hempty]
    refine ⟨rfl, ?_⟩
    intro key hkey
    cases hkey
  · exact groupBy_eq_ok h

theorem eq_of_checked (h : data.checked = .ok result) :
    result = data ∧ forall key, key ∈ data.groups -> key ∈ data.header :=
  regroup_eq_ok h

theorem IsTable.withKeys (h : data.IsTable) {keys : List String} (hdistinct : keys.Nodup)
    (hkeys : forall key, key ∈ keys -> key ∈ data.header) : { data with groups := keys }.IsTable :=
  ⟨h.nodup, h.width, hkeys, hdistinct⟩

theorem mem_of_dropColumns {test : String -> Bool} {name : String}
    (h : name ∈ (data.dropColumns test).header) : test name = false := by
  rw [dropColumns_header] at h
  rcases List.mem_filterMap.1 h with ⟨i, hi, hname⟩
  rcases mem_keptColumns_iff.1 hi with ⟨other, hother, htest⟩
  rw [hother] at hname
  cases hname
  exact htest

theorem IsTable.drop (h : data.IsTable) {test : String -> Bool}
    (hresult : Operation.drop test data = .ok result) :
    result.IsTable ∧ result.groups = data.groups ∧
      forall name, name ∈ result.header -> test name = false := by
  unfold Operation.drop at hresult
  split at hresult
  · rcases eq_of_checked hresult with ⟨rfl, hkeys⟩
    have hwidth : (data.dropColumns test).HasWidth := by
      rw [dropColumns_eq_takeColumns]
      exact takeColumns_hasWidth fun _ => lt_of_mem_keptColumns
    refine ⟨⟨h.nodup.sublist (dropColumns_header_sublist test), hwidth, hkeys, h.distinct⟩, rfl, ?_⟩
    exact fun name hname => mem_of_dropColumns hname
  · rename_i hnone
    cases hresult
    refine ⟨h, rfl, ?_⟩
    intro name hname
    cases htest : test name with
    | false => rfl
    | true => exact absurd (List.any_eq_true.2 ⟨name, hname, htest⟩) hnone

/-!
# New tables
-/

theorem ofColumns_eq_ok {columns : List (String × List Value)}
    (h : ofColumns columns = .ok result) :
    result.header = columns.map Prod.fst ∧ result.HasWidth ∧ result.groups = [] := by
  rcases exists_of_ofColumns h with ⟨n, _, _, rfl⟩
  refine ⟨rfl, ?_, rfl⟩
  intro row hrow
  rcases List.mem_map.1 hrow with ⟨i, _, rfl⟩
  simp [rowOf, flat]

theorem IsTable.ofColumns {columns : List (String × List Value)}
    (hnodup : (columns.map Prod.fst).Nodup) (h : Dataset.ofColumns columns = .ok result) :
    result.IsTable ∧ result.groups = [] := by
  rcases ofColumns_eq_ok h with ⟨hheader, hwidth, hgroups⟩
  refine ⟨⟨?_, hwidth, ?_, ?_⟩, hgroups⟩
  · rw [hheader]
    exact hnodup
  · rw [hgroups]
    intro key hkey
    cases hkey
  · rw [hgroups]
    exact List.nodup_nil

theorem eraseDups_nodup : forall names : List String, names.eraseDups.Nodup
  | [] => List.nodup_nil
  | name :: rest => by
      rw [List.eraseDups_cons, List.nodup_cons]
      refine ⟨?_, eraseDups_nodup _⟩
      rw [List.mem_eraseDups]
      simp
termination_by names => names.length
decreasing_by
  rw [List.length_cons]
  exact Nat.lt_succ_of_le (List.length_filter_le ..)

theorem foldl_headerWith (names header : List String) :
    names.foldl headerWith header =
      header ++ (names.filter fun name => !header.contains name).eraseDups := by
  induction names generalizing header with
  | nil => exact (List.append_nil header).symm
  | cons name rest ih =>
      rw [List.foldl_cons, ih, headerWith, List.filter_cons]
      by_cases hname : header.contains name = true
      · rw [if_pos hname, if_neg (by rw [hname]; exact Bool.false_ne_true)]
      · have hrest : (rest.filter fun other => !(header ++ [name]).contains other) =
            (rest.filter fun other => !header.contains other).filter fun other => !other == name := by
          rw [List.filter_filter]
          apply List.filter_congr
          intro other _
          rw [Bool.eq_iff_iff]
          simp [and_comm]
        rw [if_neg hname, if_pos (by simpa using hname), List.eraseDups_cons, hrest,
          List.append_assoc]
        rfl

theorem summarize_isTable {assigns : List Assign} (h : summarize callers assigns data = .ok result) :
    result.IsTable ∧ result.groups = [] := by
  rcases bind_eq_ok_iff.1 h with ⟨groups, _, h⟩
  rcases bind_eq_ok_iff.1 h with ⟨rows, _, h⟩
  apply IsTable.ofColumns _ h
  rw [List.map_map]
  exact (List.map_id _).symm ▸ eraseDups_nodup _

theorem filter_name_of_nodup {alpha : Type} {entries : List (String × alpha)}
    (hnames : (entries.map Prod.fst).Nodup) {entry : String × alpha} (hentry : entry ∈ entries) :
    (entries.filter fun other => other.1 == entry.1) = [entry] := by
  induction entries with
  | nil => cases hentry
  | cons other rest ih =>
      rw [List.map_cons, List.nodup_cons] at hnames
      rw [List.filter_cons]
      rcases List.mem_cons.1 hentry with rfl | hentry
      · rw [if_pos (beq_self_eq_true _), List.filter_eq_nil_iff.2]
        intro other hother heq
        exact hnames.1 (List.mem_map.2 ⟨other, hother, beq_iff_eq.1 heq⟩)
      · rw [if_neg, ih hnames.2 hentry]
        intro heq
        exact hnames.1 (List.mem_map.2 ⟨entry, hentry, (beq_iff_eq.1 heq).symm⟩)

theorem putEntry_names {alpha : Type} (entries : List (String × alpha)) (entry : String × alpha) :
    (putEntry entries entry).map Prod.fst = headerWith (entries.map Prod.fst) entry.1 := by
  have hany : (entries.any fun old => old.1 == entry.1) =
      (entries.map Prod.fst).contains entry.1 := by
    rw [Bool.eq_iff_iff, List.any_eq_true, List.contains_iff_mem, List.mem_map]
    simp
  unfold putEntry headerWith
  rw [hany]
  split
  · rw [List.map_map]
    apply List.map_congr_left
    intro old _
    rw [Function.comp_apply]
    split
    · rename_i heq
      exact (beq_iff_eq.1 heq).symm
    · rfl
  · rw [List.map_append]
    rfl

theorem outputColumns_nodup {items : List SelectionItem} {columns found : List (String × List Value)}
    (hnodup : (columns.map Prod.fst).Nodup)
    (h : outputColumns callers data columns items = .ok found) : (found.map Prod.fst).Nodup := by
  induction items generalizing columns with
  | nil =>
      cases h
      exact hnodup
  | cons item rest ih =>
      rcases bind_eq_ok_iff.1 h with ⟨values, _, h⟩
      apply ih _ h
      rw [putEntry_names]
      exact headerWith_nodup hnodup item.name

/-!
# Selections
-/

theorem picks_names {items : List SelectionItem} {picks : List Pick} (h : picks? items = some picks) :
    picks.map Pick.name = items.map SelectionItem.name := by
  induction items generalizing picks with
  | nil =>
      cases h
      rfl
  | cons item rest ih =>
      cases item with
      | computed assign => cases h
      | picked pick =>
          rcases Option.map_eq_some_iff.1 h with ⟨others, hothers, rfl⟩
          rw [List.map_cons, List.map_cons, ih hothers]
          rfl

theorem completed_names (items : List SelectionItem) :
    (data.completed items).map SelectionItem.name =
      data.missingKeys items ++ items.map SelectionItem.name := by
  unfold completed
  rw [List.map_append, List.map_map]
  congr 1
  exact List.map_id _

theorem completed_apart {items : List SelectionItem} (hdistinct : (data.missingKeys items).Nodup)
    (h : Compile.AreNamedApart items) : Compile.AreNamedApart (data.completed items) := by
  unfold Compile.AreNamedApart Compile.Output.names
  rw [completed_names]
  apply List.Nodup.append hdistinct h
  intro key hkey hname
  have hlacks := (List.mem_filter.1 hkey).2
  simp only [Bool.not_eq_true', List.contains_eq_mem, decide_eq_false_iff_not] at hlacks
  exact hlacks hname

theorem groups_of_completed_nil {items : List SelectionItem}
    (h : (data.completed items).isEmpty = true) : data.groups = [] := by
  rcases List.append_eq_nil_iff.1 (List.isEmpty_iff.1 h) with ⟨hmissing, rfl⟩
  have hall : data.missingKeys [] = data.groups := List.filter_eq_self.2 fun _ _ => rfl
  rw [← hall]
  exact List.map_eq_nil_iff.1 hmissing

theorem IsTable.project (h : data.IsTable) {picks : List Pick}
    (hnames : (picks.map Pick.name).Nodup) (hresult : data.project picks = .ok result) :
    result.IsTable ∧ result.groups = data.groups := by
  unfold Dataset.project at hresult
  split at hresult
  · rename_i hall
    rcases eq_of_checked hresult with ⟨rfl, hkeys⟩
    refine ⟨⟨hnames, ?_, hkeys, h.distinct⟩, rfl⟩
    have hsources : forall pick, pick ∈ picks -> pick.source ∈ data.header :=
      fun pick hpick => List.contains_iff_mem.1 (List.all_eq_true.1 hall pick hpick)
    intro row hrow
    rw [takeColumns_eq fun _ => idxOf_source_lt hsources] at hrow
    rcases List.mem_map.1 hrow with ⟨old, _, rfl⟩
    simp [cellsAt]
  · cases hresult

theorem IsTable.select (h : data.IsTable) {items : List SelectionItem}
    (hitems : Compile.AreNamedApart items) (hresult : select callers items data = .ok result) :
    result.IsTable ∧ result.groups = data.groups := by
  have hall := completed_apart (h.distinct.filter _) hitems
  have hgeneral : select.general callers data (data.completed items) = .ok result ->
      result.IsTable ∧ result.groups = data.groups := by
    intro hfound
    rcases bind_eq_ok_iff.1 hfound with ⟨columns, hcolumns, hfound⟩
    rcases bind_eq_ok_iff.1 hfound with ⟨table, htable, hfound⟩
    rcases eq_of_checked hfound with ⟨rfl, hkeys⟩
    have hnone : (([] : List (String × List Value)).map Prod.fst).Nodup := List.nodup_nil
    have hnodup := outputColumns_nodup hnone hcolumns
    exact ⟨(IsTable.ofColumns hnodup htable).1.withKeys h.distinct hkeys, rfl⟩
  unfold Dataset.select at hresult
  dsimp only at hresult
  split at hresult
  · rename_i hempty
    cases hresult
    refine ⟨⟨List.nodup_nil, ?_, ?_, List.nodup_nil⟩, (groups_of_completed_nil hempty).symm⟩
    · intro row hrow
      cases hrow
    · intro key hkey
      cases hkey
  · split at hresult
    · rename_i picks hpicks
      split at hresult
      · apply h.project _ hresult
        rw [picks_names hpicks]
        exact hall
      · exact hgeneral hresult
    · exact hgeneral hresult

end Dataset
end Wrangle
