import Mathlib.Data.List.Dedup
import Wrangle.Proofs.Dataset.Padding
import Wrangle.Proofs.Dataset.Projecting

/-!
# Columns that are picked or computed

A selection may take a column as it is, where an assignment computes it for one group
after another and puts the values back in their places.  That makes the same column
wherever the rows can be divided into groups.  A selection that says what some
assignments say is therefore the selection of the columns that these assignments set.
-/

namespace Wrangle
namespace Dataset

variable {callers more : CallerFunctions} {data : Dataset} {groups : List Partition}

/-!
# Columns as expressions
-/

theorem placedValues_column {columns : List (String × List Value)} {source : String}
    {values : List Value} (hlookup : columns.lookup source = some values) {assign : Assign}
    (hexpr : assign.expr = .column source) (groups : List Partition) :
    placedValues callers columns assign groups =
      .ok ((groups.flatMap Partition.rows).map fun i => (i, cellAt i values)) := by
  induction groups with
  | nil => rfl
  | cons group rest ih =>
      have hvalues : groupValues callers columns assign group.rows =
          .ok (cellsAt group.rows values) := by
        have hcolumn : (frame columns group.rows).column? source =
            .ok (.column (cellsAt group.rows values)) := by
          rw [Frame.column?, frame, lookup_restricted, hlookup]
          rfl
        have hlength : (cellsAt group.rows values).length = group.rows.length := List.length_map _
        rw [groupValues, hexpr, Expr.evaluate, hcolumn, ok_bind, spread, if_pos hlength]
        rfl
      have hplaced : group.rows.zip (cellsAt group.rows values) =
          group.rows.map fun i => (i, cellAt i values) := List.map_prod_left_eq_zip.symm
      rw [placedValues, hvalues, ok_bind, ih, ok_bind, hplaced, List.flatMap_cons, List.map_append]

theorem valuesOf_column (hgroups : data.partitions = .ok groups) {source : String}
    {values : List Value} (hlookup : data.columns.lookup source = some values)
    (hlength : values.length = data.nrows) :
    data.valuesOf callers (.column source) = .ok values := by
  have hplaced : placedValues callers data.columns
      { name := "", expr := .column source, source := none } groups =
        .ok ((groups.flatMap Partition.rows).map fun i => (i, cellAt i values)) :=
    placedValues_column hlookup rfl groups
  rw [valuesOf, computed, hgroups]
  show (placedValues callers data.columns _ groups >>= _) = _
  rw [hplaced, ok_bind]
  apply congrArg Except.ok
  apply List.ext_getElem
  · rw [scattered_length, hlength]
  · intro i hi hi'
    rcases exists_group hgroups (hlength ▸ hi') with ⟨group, hgroup, hrow⟩
    have hmem : i ∈ groups.flatMap Partition.rows := List.mem_flatMap.2 ⟨group, hgroup, hrow⟩
    simp only [scattered, List.getElem_map, List.getElem_range]
    rw [lookup_map_self, if_pos hmem]
    simp [cellAt, hi']

/-!
# Items that stand for assignments
-/

/-- An item with what an assignment computes, or with the column that the assignment copies. -/
def StandsFor (data : Dataset) (item : SelectionItem) (assign : Assign) : Prop :=
  item = .computed assign ∨ exists source, source ∈ data.header ∧ assign.expr = .column source ∧
    item = .picked { name := assign.name, source := source }

theorem StandsFor.name_eq {item : SelectionItem} {assign : Assign}
    (h : data.StandsFor item assign) : item.name = assign.name := by
  rcases h with rfl | ⟨source, _, _, rfl⟩
  · rfl
  · rfl

theorem StandsFor.itemValues_agrees (hdata : data.IsRegular) {item : SelectionItem}
    {assign : Assign} (h : data.StandsFor item assign) (hgroups : data.partitions = .ok groups) :
    Agrees (itemValues callers data item) (data.valuesOf callers assign.expr) := by
  rcases h with rfl | ⟨source, hsource, hexpr, rfl⟩
  · exact computed_agrees assign
  · have hlookup : data.columns.lookup source = some (data.firstColumn source) := by
      rw [hdata.lookup_columns, if_pos hsource]
    rw [itemValues, hlookup, hexpr, valuesOf_column hgroups hlookup (firstColumn_length source)]
    exact .rfl

/-!
# One path
-/

theorem nodup_of_length_eraseDups {names : List String}
    (h : names.eraseDups.length = names.length) : names.Nodup := by
  have hperm : names.eraseDups.Perm names.dedup := by
    rw [List.perm_ext_iff_of_nodup (eraseDups_nodup names) (List.nodup_dedup names)]
    intro name
    rw [List.mem_eraseDups, List.mem_dedup]
  have hsame : names.dedup = names :=
    (List.dedup_sublist names).eq_of_length (hperm.length_eq.symm.trans h)
  rw [← hsame]
  exact List.nodup_dedup names

theorem missingKeys_nodup {items : List SelectionItem} {picks : List Pick}
    (hpicks : data.completed items = picks.map .picked)
    (hsources : (picks.map Pick.source).Nodup) : (data.missingKeys items).Nodup := by
  rcases List.map_eq_append_iff.1 hpicks.symm with ⟨kept, rest, rfl, hkept, _⟩
  have hinjective : Function.Injective SelectionItem.picked :=
    fun _ _ heq => SelectionItem.picked.inj heq
  have hkept : kept = (data.missingKeys items).map fun key => { name := key, source := key } := by
    apply hinjective.list_map
    rw [hkept, List.map_map]
    rfl
  rw [List.map_append, hkept, List.map_map] at hsources
  have hkeys := hsources.of_append_left
  rwa [show (Pick.source ∘ fun key : String => ({ name := key, source := key } : Pick)) = id from
    rfl, List.map_id] at hkeys

/-- To cut columns out and rename them at once makes what comes of taking them one by one, so the
second of these paths tells what any selection makes. -/
theorem select_eq_general (hnodup : data.header.Nodup)
    (hkeys : forall key, key ∈ data.groups -> key ∈ data.header) {items : List SelectionItem}
    (hsome : items ≠ []) (hapart : Compile.AreNamedApart items)
    (hsources : forall pick, .picked pick ∈ items -> pick.source ∈ data.header) :
    select callers items data = select.general callers data (data.completed items) := by
  have hfilled : data.completed items ≠ [] := List.append_ne_nil_of_right_ne_nil _ hsome
  have hgoes : (data.completed items).isEmpty = false := List.isEmpty_eq_false_iff.2 hfilled
  cases hpicks : picks? (data.completed items) with
  | none =>
      unfold select
      dsimp only
      rw [hgoes, if_neg Bool.false_ne_true, hpicks]
  | some picks =>
      by_cases hdiffer : sourcesDiffer picks = true
      · have hall := eq_map_picked hpicks
        have hdistinct : (picks.map Pick.source).Nodup := by
          apply nodup_of_length_eraseDups
          rw [List.length_map]
          exact beq_iff_eq.1 hdiffer
        have hnames : (picks.map Pick.name).Nodup := by
          rw [picks_names hpicks]
          exact completed_apart (missingKeys_nodup hall hdistinct) hapart
        have hpresent : forall pick, pick ∈ picks -> pick.source ∈ data.header := by
          intro pick hpick
          have hitem : .picked pick ∈ data.completed items := hall ▸ List.mem_map_of_mem hpick
          rcases List.mem_append.1 hitem with hitem | hitem
          · rcases List.mem_map.1 hitem with ⟨key, hkey, heq⟩
            cases heq
            exact hkeys key (List.mem_filter.1 hkey).1
          · exact hsources pick hitem
        have hpicked : picks ≠ [] := by
          rintro rfl
          exact hfilled hall
        have hpaths : select callers items data = .ok (data.pickedTable picks) ∧ _ :=
          select_paths_agree hnodup hpicks hpicked hnames hdistinct hpresent
        rw [hpaths.1, hpaths.2.2.2]
      · unfold select
        dsimp only
        rw [hgoes, if_neg Bool.false_ne_true, hpicks]
        dsimp only
        rw [if_neg hdiffer]

theorem outputColumns_congr {left right : Dataset} {items others : List SelectionItem}
    (h : List.Forall₂ (fun item other => item.name = other.name ∧
      itemValues callers left item = itemValues more right other) items others)
    (columns : List (String × List Value)) :
    outputColumns callers left columns items = outputColumns more right columns others := by
  induction h generalizing columns with
  | nil => rfl
  | cons hfirst _ ih =>
      rw [outputColumns, outputColumns, hfirst.1, hfirst.2]
      simp only [ih]

theorem general_congr {left right : Dataset} (hgroups : left.groups = right.groups)
    {items others : List SelectionItem}
    (h : List.Forall₂ (fun item other => item.name = other.name ∧
      itemValues callers left item = itemValues more right other) items others) :
    select.general callers left items = select.general more right others := by
  rw [select.general, select.general, outputColumns_congr h, hgroups]

theorem outputColumns_names {items : List SelectionItem}
    {columns found : List (String × List Value)}
    (h : outputColumns callers data columns items = .ok found) :
    found.map Prod.fst = (items.map SelectionItem.name).foldl headerWith (columns.map Prod.fst) := by
  induction items generalizing columns with
  | nil =>
      cases h
      rfl
  | cons item rest ih =>
      rcases bind_eq_ok_iff.1 h with ⟨values, _, h⟩
      rw [ih h, putEntry_names]
      rfl

theorem general_header {items : List SelectionItem} {result : Dataset}
    (h : select.general callers data items = .ok result) :
    result.header = (items.map SelectionItem.name).eraseDups ∧ result.groups = data.groups := by
  rcases bind_eq_ok_iff.1 h with ⟨columns, hcolumns, h⟩
  rcases bind_eq_ok_iff.1 h with ⟨table, htable, h⟩
  rcases eq_of_checked h with ⟨rfl, _⟩
  refine ⟨?_, rfl⟩
  show table.header = _
  rw [(ofColumns_eq_ok htable).1, outputColumns_names hcolumns, List.map_nil, foldl_headerWith,
    List.nil_append]
  exact congrArg List.eraseDups (List.filter_eq_self.2 fun _ _ => rfl)

theorem exists_itemValues {items : List SelectionItem} {columns found : List (String × List Value)}
    (h : outputColumns callers data columns items = .ok found) {item : SelectionItem}
    (hitem : item ∈ items) : exists values, itemValues callers data item = .ok values := by
  induction items generalizing columns with
  | nil => cases hitem
  | cons first rest ih =>
      rcases bind_eq_ok_iff.1 h with ⟨values, hvalues, h⟩
      rcases List.mem_cons.1 hitem with rfl | hitem
      · exact ⟨values, hvalues⟩
      · exact ih h hitem

/-!
# Columns that are kept
-/

theorem map_keep_names (columns : List String) :
    (columns.map SelectionItem.keep).map SelectionItem.name = columns := by
  rw [List.map_map]
  exact List.map_id _

section Kept

variable {columns : List String} (hdata : data.IsRegular) (hsome : columns ≠ [])
variable (hdistinct : columns.Nodup) (hpresent : forall name, name ∈ columns -> name ∈ data.header)

include hdata hsome hdistinct hpresent

theorem select_keep :
    select callers (columns.map .keep) data =
      select.general callers data (data.completed (columns.map .keep)) := by
  apply select_eq_general hdata.nodup hdata.keys
  · rwa [Ne, List.map_eq_nil_iff]
  · show ((columns.map SelectionItem.keep).map SelectionItem.name).Nodup
    rwa [map_keep_names]
  · intro pick hpick
    rcases List.mem_map.1 hpick with ⟨name, hname, heq⟩
    cases heq
    exact hpresent name hname

theorem select_keep_callers (callers more : CallerFunctions) :
    select callers (columns.map .keep) data = select more (columns.map .keep) data := by
  rw [select_keep hdata hsome hdistinct hpresent, select_keep hdata hsome hdistinct hpresent]
  apply general_congr rfl
  rw [completed, ← List.map_append, List.forall₂_map_left_iff, List.forall₂_map_right_iff,
    List.forall₂_same]
  intro name _
  exact ⟨rfl, rfl⟩

theorem mem_header_of_select_keep {result : Dataset}
    (h : select callers (columns.map .keep) data = .ok result) :
    forall name, name ∈ result.header -> name ∈ data.header := by
  rw [select_keep hdata hsome hdistinct hpresent] at h
  rw [(general_header h).1, completed_names, map_keep_names]
  intro name hname
  rcases List.mem_append.1 (List.mem_eraseDups.1 hname) with hname | hname
  · exact hdata.keys name (List.mem_filter.1 hname).1
  · exact hpresent name hname

end Kept

/-!
# Columns that are set
-/

theorem IsRegular.lookup_setColumns_of_not_mem (h : data.IsRegular)
    {entries : List (String × List Value)} (hfits : data.Fits entries) {name : String}
    (hname : name ∉ entries.map Prod.fst) :
    (data.setColumns entries).columns.lookup name = data.columns.lookup name := by
  induction entries generalizing data with
  | nil => rfl
  | cons entry rest ih =>
      rcases entry with ⟨first, values⟩
      rw [List.map_cons, List.mem_cons, not_or] at hname
      rw [setColumns_cons, ih (h.setColumn first values) hfits.tail hname.2,
        h.lookup_setColumn (hfits _ List.mem_cons_self), if_neg hname.1]

theorem IsRegular.lookup_setColumns (h : data.IsRegular) {entries : List (String × List Value)}
    (hfits : data.Fits entries) (hdistinct : (entries.map Prod.fst).Nodup)
    {entry : String × List Value} (hentry : entry ∈ entries) :
    (data.setColumns entries).columns.lookup entry.1 = some entry.2 := by
  induction entries generalizing data with
  | nil => cases hentry
  | cons first rest ih =>
      rcases first with ⟨name, values⟩
      rcases List.nodup_cons.1 hdistinct with ⟨hname, hrest⟩
      rw [setColumns_cons]
      rcases List.mem_cons.1 hentry with rfl | hentry
      · rw [(h.setColumn name values).lookup_setColumns_of_not_mem hfits.tail hname,
          h.lookup_setColumn (hfits _ List.mem_cons_self), if_pos rfl]
      · exact ih (h.setColumn name values) hfits.tail hrest hentry

/-!
# Selections of what assignments set
-/

/-- A selection that says what some assignments say, which set different columns that are neither
reserved nor keys, and of which none mentions a column that one before it sets. -/
structure Mirrors (data : Dataset) (items : List SelectionItem) (assigns : List Assign) : Prop where
  stand : List.Forall₂ data.StandsFor items assigns
  distinct : (assigns.map Assign.name).Nodup
  unreserved : forall a, a ∈ assigns -> isReserved a.name = false
  keys : SetNone data.groups assigns
  sequential : AreSequential assigns

namespace Mirrors

variable {items : List SelectionItem} {assigns : List Assign} {result : Dataset}

theorem names_eq (h : data.Mirrors items assigns) :
    items.map SelectionItem.name = assigns.map Assign.name :=
  map_eq_map_of_forall₂ (h.stand.imp fun _ _ hstand => hstand.name_eq)

theorem sources_mem (h : data.Mirrors items assigns) (pick : Pick)
    (hpick : .picked pick ∈ items) : pick.source ∈ data.header := by
  rcases exists_of_forall₂ h.stand hpick with ⟨assign, _, hitem | ⟨source, hsource, _, hitem⟩⟩
  · cases hitem
  · cases hitem
    exact hsource

theorem select_eq (h : data.Mirrors items assigns) (hdata : data.IsRegular) (hsome : assigns ≠ []) :
    select callers items data = select.general callers data (data.completed items) := by
  apply select_eq_general hdata.nodup hdata.keys
  · rintro rfl
    exact hsome (List.forall₂_nil_left_iff.1 h.stand)
  · show (items.map SelectionItem.name).Nodup
    rw [h.names_eq]
    exact h.distinct
  · exact h.sources_mem

/-- The keys come first, since none of them is assigned to. -/
theorem header_eq (h : data.Mirrors items assigns) (hdata : data.IsRegular) (hsome : assigns ≠ [])
    (hresult : select callers items data = .ok result) :
    result.header = data.groups.eraseDups ++ assigns.map Assign.name ∧
      result.groups = data.groups := by
  rw [h.select_eq hdata hsome] at hresult
  have hapart : forall name, name ∈ assigns.map Assign.name -> name ∉ data.groups := by
    intro name hname
    rcases List.mem_map.1 hname with ⟨assign, hassign, rfl⟩
    exact h.keys assign hassign
  have hmissing : data.missingKeys items = data.groups := by
    rw [missingKeys, h.names_eq, List.filter_eq_self]
    intro key hkey
    rw [Bool.not_eq_true', ← Bool.not_eq_true, List.contains_iff_mem]
    exact fun hname => hapart key hname hkey
  have hnew : (assigns.map Assign.name).removeAll data.groups = assigns.map Assign.name := by
    rw [List.removeAll, List.filter_eq_self]
    intro name hname
    simpa using hapart name hname
  rcases general_header hresult with ⟨hheader, hgroups⟩
  refine ⟨?_, hgroups⟩
  rw [hheader, completed_names, hmissing, h.names_eq, List.eraseDups_append, hnew,
    eraseDups_of_nodup h.distinct]

theorem unreserved_of_select (h : data.Mirrors items assigns) (hdata : data.IsRegular)
    (hsome : assigns ≠ []) (hresult : select callers items data = .ok result) :
    forall name, name ∈ result.header -> isReserved name = false := by
  rw [(h.header_eq hdata hsome hresult).1]
  intro name hname
  rcases List.mem_append.1 hname with hname | hname
  · exact hdata.unreserved name (List.mem_eraseDups.1 hname)
  · rcases List.mem_map.1 hname with ⟨assign, hassign, rfl⟩
    exact h.unreserved assign hassign

section Set

variable {entries : List (String × List Value)} (h : data.Mirrors items assigns)
variable (hdata : data.IsRegular) (hnames : entries.map Prod.fst = assigns.map Assign.name)
variable (hfits : data.Fits entries)

include h hdata hnames hfits

theorem lookup_set {entry : String × List Value} (hentry : entry ∈ entries) :
    ((data.setColumns entries).dropped isReserved).columns.lookup entry.1 = some entry.2 := by
  have hset := hdata.setColumns entries
  have hname : entry.1 ∈ assigns.map Assign.name := hnames ▸ List.mem_map_of_mem hentry
  rcases List.mem_map.1 hname with ⟨assign, hassign, heq⟩
  rw [hset.lookup_dropped hset.unreserved (heq ▸ h.unreserved assign hassign)]
  exact hdata.lookup_setColumns hfits (hnames ▸ h.distinct) hentry

theorem lookup_key {key : String} (hkey : key ∈ data.groups) :
    ((data.setColumns entries).dropped isReserved).columns.lookup key =
      data.columns.lookup key := by
  have hset := hdata.setColumns entries
  rw [hset.lookup_dropped hset.unreserved (hdata.unreserved key hkey)]
  apply hdata.lookup_setColumns_of_not_mem hfits
  rw [hnames]
  intro hname
  rcases List.mem_map.1 hname with ⟨assign, hassign, rfl⟩
  exact h.keys assign hassign hkey

/-- Where the columns that are set are those that the assignments compute, a selection that says
the same takes the same columns. -/
theorem general_eq (hgroups : data.partitions = .ok groups)
    (hvalues : forall a, a ∈ assigns -> exists values, (a.name, values) ∈ entries ∧
      data.valuesOf callers a.expr = .ok values) :
    select.general callers data (data.completed items) =
      select.general callers ((data.setColumns entries).dropped isReserved)
        (((data.setColumns entries).dropped isReserved).completed
          ((assigns.map Assign.name).map .keep)) := by
  have hsame : ((data.setColumns entries).dropped isReserved).groups = data.groups := by
    rw [dropped_groups, setColumns_groups]
  apply general_congr hsame.symm
  have hmissing : ((data.setColumns entries).dropped isReserved).missingKeys
      ((assigns.map Assign.name).map .keep) = data.missingKeys items := by
    rw [missingKeys, missingKeys, hsame, map_keep_names, h.names_eq]
  rw [completed, completed, hmissing]
  apply List.rel_append
  · rw [List.forall₂_map_left_iff, List.forall₂_map_right_iff, List.forall₂_same]
    intro key hkey
    refine ⟨rfl, ?_⟩
    have hlookup := h.lookup_key hdata hnames hfits (List.mem_filter.1 hkey).1
    show itemValues callers data (.picked _) = itemValues callers _ (.picked _)
    rw [itemValues, itemValues, hlookup]
  · rw [List.forall₂_map_right_iff, List.forall₂_map_right_iff, List.forall₂_iff_zip]
    refine ⟨h.stand.length_eq, ?_⟩
    intro item assign hmem
    have hstand := List.forall₂_zip h.stand hmem
    rcases hvalues assign (List.of_mem_zip hmem).2 with ⟨values, hentry, hcomputed⟩
    refine ⟨hstand.name_eq, ?_⟩
    have hlookup := h.lookup_set hdata hnames hfits hentry
    rw [(hstand.itemValues_agrees hdata hgroups).symm.eq_ok hcomputed]
    show _ = itemValues callers _ (.picked _)
    rw [itemValues, hlookup]

theorem select_kept (hsome : assigns ≠ []) :
    select callers ((assigns.map Assign.name).map .keep)
        ((data.setColumns entries).dropped isReserved) =
      select.general callers ((data.setColumns entries).dropped isReserved)
        (((data.setColumns entries).dropped isReserved).completed
          ((assigns.map Assign.name).map .keep)) := by
  have hset := hdata.setColumns entries
  have hnext := hset.dropped hset.unreserved
  apply select_keep hnext (by rwa [Ne, List.map_eq_nil_iff]) h.distinct
  intro name hname
  rw [← hnames] at hname
  rcases List.mem_map.1 hname with ⟨entry, hentry, rfl⟩
  have hlookup := h.lookup_set hdata hnames hfits hentry
  rw [hnext.lookup_columns] at hlookup
  by_contra hmissing
  rw [if_neg hmissing] at hlookup
  cases hlookup

end Set

theorem select_computed (h : data.Mirrors items assigns) (hdata : data.IsRegular)
    (hsome : assigns ≠ []) (hgroups : data.partitions = .ok groups)
    {columns : List (List Value)}
    (hcolumns : (assigns.map Assign.expr).mapM (data.valuesOf callers) = .ok columns) :
    select callers items data = select callers ((assigns.map Assign.name).map .keep)
      ((data.setColumns ((assigns.map Assign.name).zip columns)).dropped isReserved) := by
  have hlength : columns.length = assigns.length := by
    rw [length_of_mapM_eq_ok hcolumns, List.length_map]
  have hnames : ((assigns.map Assign.name).zip columns).map Prod.fst =
      assigns.map Assign.name := by
    apply List.map_fst_zip
    rw [List.length_map, hlength]
  have hfits : data.Fits ((assigns.map Assign.name).zip columns) :=
    fun entry hentry => length_of_mem_mapM hcolumns (List.of_mem_zip hentry).2
  have hvalues : forall a, a ∈ assigns ->
      exists values, (a.name, values) ∈ (assigns.map Assign.name).zip columns ∧
        data.valuesOf callers a.expr = .ok values := by
    intro a ha
    have hpairs : List.Forall₂ (fun values e => data.valuesOf callers e = .ok values) columns
        (assigns.map Assign.expr) := forall₂_of_mapM_eq_ok hcolumns fun _ _ _ hvalues => hvalues
    rcases List.mem_iff_getElem.1 ha with ⟨i, hi, rfl⟩
    have hi' : i < columns.length := hlength ▸ hi
    refine ⟨columns[i], ?_, ?_⟩
    · rw [List.mem_iff_getElem]
      exact ⟨i, by simpa using ⟨hi, hi'⟩, by simp⟩
    · have hpair := hpairs.get hi' (by simpa using hi)
      simpa using hpair
  rw [h.select_eq hdata hsome, h.general_eq hdata hnames hfits hgroups hvalues,
    h.select_kept hdata hnames hfits hsome]

/-- A selection and the assignments that say the same: to select is to assign and to select the
columns that are set then, save that to assign takes rows that can be divided into groups. -/
theorem select_iff (h : data.Mirrors items assigns) (hdata : data.IsRegular)
    (hsome : assigns ≠ []) :
    (select callers items data = .ok result ∧ exists groups, data.partitions = .ok groups) <->
      exists last, transform callers assigns data = .ok last ∧
        select callers ((assigns.map Assign.name).map .keep) (last.dropped isReserved) =
          .ok result := by
  have hagrees : Agrees (transform callers assigns data) _ :=
    transform_agrees hdata h.sequential h.keys
  constructor
  · rintro ⟨hselect, groups, hgroups⟩
    rw [h.select_eq hdata hsome] at hselect
    rcases bind_eq_ok_iff.1 hselect with ⟨found, hfound, _⟩
    have hcolumns : exists columns,
        (assigns.map Assign.expr).mapM (data.valuesOf callers) = .ok columns := by
      have hends : Ends (fun _ => False) (fun _ => True)
          ((assigns.map Assign.expr).mapM (data.valuesOf callers)) := by
        apply Ends.mapM_any
        intro e he
        rcases List.mem_map.1 he with ⟨assign, hassign, rfl⟩
        rcases exists_of_forall₂ h.stand.flip hassign with ⟨item, hitem, hstand⟩
        have hstand : data.StandsFor item assign := hstand
        rcases exists_itemValues hfound (List.mem_append_right _ hitem) with ⟨values, hvalues⟩
        rw [(hstand.itemValues_agrees hdata hgroups).eq_ok hvalues]
        trivial
      rcases hends.exists_ok with ⟨columns, hcolumns, _⟩
      exact ⟨columns, hcolumns⟩
    rcases hcolumns with ⟨columns, hcolumns⟩
    rw [hcolumns] at hagrees
    refine ⟨_, hagrees.symm.eq_ok rfl, ?_⟩
    rw [← h.select_computed hdata hsome hgroups hcolumns, h.select_eq hdata hsome, hselect]
  · rintro ⟨last, hlast, hselect⟩
    rcases map_eq_ok_iff.1 (hagrees.eq_ok hlast) with ⟨columns, hcolumns, rfl⟩
    have hgroups : exists groups, data.partitions = .ok groups := by
      cases assigns with
      | nil => exact absurd rfl hsome
      | cons assign rest =>
          rcases bind_eq_ok_iff.1 hlast with ⟨values, hvalues, _⟩
          rcases bind_eq_ok_iff.1 hvalues with ⟨groups, hgroups, _⟩
          exact ⟨groups, ofFault_eq_ok_iff.1 hgroups⟩
    rcases hgroups with ⟨groups, hgroups⟩
    exact ⟨(h.select_computed hdata hsome hgroups hcolumns).trans hselect, groups, hgroups⟩

end Mirrors

end Dataset
end Wrangle
