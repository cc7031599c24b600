import Wrangle.Dataset.Computation
import Wrangle.Proofs.Dataset.Ragged
import Wrangle.Proofs.Dataset.Raising

/-!
# Projections

A selection that computes nothing keeps columns, under their own or new names.  Where it
keeps each column once, it cuts the rows and renames all columns at the same time.  That
makes the table that comes of taking the columns apart and putting them together again,
also where columns exchange their names or take the names of keys.
-/

namespace Wrangle
namespace Dataset

variable {callers : CallerFunctions} {data : Dataset} {picks : List Pick}

/-!
# Columns of ragged rows
-/

theorem cellsNamed_fitted (header : List String) (name : String) (row : List Value) :
    cellsNamed header name (fitted header.length row) = cellsNamed header name row := by
  have hfitted : fitted header.length (fitted header.length row) = fitted header.length row := by
    have hsame := fitted_of_length (fitted header.length row)
    rwa [fitted_length] at hsame
  rw [cellsNamed, cellsNamed, hfitted]

theorem valuesNamed_squared (data : Dataset) (name : String) :
    data.squared.valuesNamed name = data.valuesNamed name := by
  show (data.rows.map (fitted data.header.length)).flatMap (cellsNamed data.header name) = _
  rw [List.flatMap_map]
  exact List.flatMap_congr fun row _ => cellsNamed_fitted data.header name row

theorem firstColumn_squared {name : String} (hname : name ∈ data.header) :
    data.squared.firstColumn name = data.firstColumn name := by
  show (data.rows.map (fitted data.header.length)).map _ = _
  rw [List.map_map]
  apply List.map_congr_left
  intro row _
  exact cellAt_fitted (List.idxOf_lt_length_of_mem hname) row

theorem valuesNamed_of_nodup (hnodup : data.header.Nodup) {name : String}
    (hname : name ∈ data.header) : data.valuesNamed name = data.firstColumn name := by
  have hdistinct : data.squared.header.Nodup := hnodup
  have hsquared := valuesNamed_eq hdistinct data.squared_hasWidth hname
  rwa [valuesNamed_squared, firstColumn_squared hname] at hsquared

theorem lookup_columns_of_nodup (hnodup : data.header.Nodup) {name : String}
    (hname : name ∈ data.header) : data.columns.lookup name = some (data.firstColumn name) := by
  rw [columns_eq_valuesNamed, lookup_map_self, if_pos (List.mem_eraseDups.2 hname),
    valuesNamed_of_nodup hnodup hname]

/-!
# Cutting and renaming
-/

/-- The table of the picked columns. -/
def pickedTable (data : Dataset) (picks : List Pick) : Dataset where
  header := picks.map Pick.name
  rows := data.rows.map fun row =>
    picks.map fun pick => cellAt (data.header.idxOf pick.source) row
  groups := data.groups

def renames (picks : List Pick) : List (ColumnRef × String) :=
  (picks.filter fun pick => pick.name != pick.source).map fun pick =>
    (.name pick.source, pick.name)

/-- The picked columns, cut from the table and then renamed all at once; the keys stay what they
are. -/
def cutAndRenamed (data : Dataset) (picks : List Pick) : Dataset :=
  let cut := data.takeColumns (picks.map fun pick => data.header.idxOf pick.source)
  { cut.renameColumns (renames picks) with groups := data.groups }

theorem takeColumns_picks (hheader : forall pick, pick ∈ picks -> pick.source ∈ data.header) :
    data.takeColumns (picks.map fun pick => data.header.idxOf pick.source) =
      { data with
        header := (picks.map fun pick => data.header.idxOf pick.source).filterMap
          fun i => data.header[i]?
        rows := (data.pickedTable picks).rows } := by
  rw [takeColumns_eq fun _ => idxOf_source_lt hheader]
  congr 1
  exact List.map_congr_left fun _ _ => List.map_map

theorem cut_header (hheader : forall pick, pick ∈ picks -> pick.source ∈ data.header) :
    (data.takeColumns (picks.map fun pick => data.header.idxOf pick.source)).header =
      picks.map Pick.source := by
  rw [takeColumns_picks hheader]
  dsimp only
  rw [List.filterMap_map]
  induction picks with
  | nil => rfl
  | cons pick rest ih =>
      rcases List.forall_mem_cons.1 hheader with ⟨hpick, hrest⟩
      have hplace : data.header[data.header.idxOf pick.source]? = some pick.source :=
        List.getElem?_idxOf hpick
      rw [List.filterMap_cons, Function.comp_apply, hplace, List.map_cons, ih hrest]

theorem lookup_renames_position (picks : List Pick) (i : Int) :
    (renames picks).lookup (.position i) = none := by
  rw [List.lookup_eq_none_iff]
  intro entry hentry
  rcases List.mem_map.1 hentry with ⟨pick, _, rfl⟩
  rfl

theorem renames_nodup (hsources : (picks.map Pick.source).Nodup) :
    ((renames picks).map Prod.fst).Nodup := by
  have hkeys : (renames picks).map Prod.fst =
      ((picks.filter fun pick => pick.name != pick.source).map Pick.source).map ColumnRef.name := by
    rw [renames, List.map_map, List.map_map]
    rfl
  rw [hkeys]
  exact (hsources.sublist (List.filter_sublist.map _)).map fun _ _ heq => ColumnRef.name.inj heq

/-- Each column finds its own new name, since no other one has its old name. -/
theorem lookup_renames (hsources : (picks.map Pick.source).Nodup) {pick : Pick}
    (hpick : pick ∈ picks) :
    ((renames picks).lookup (.name pick.source)).getD pick.source = pick.name := by
  by_cases hname : pick.name = pick.source
  · have hnone : (renames picks).lookup (.name pick.source) = none := by
      rw [List.lookup_eq_none_iff]
      intro entry hentry
      rcases List.mem_map.1 hentry with ⟨other, hother, rfl⟩
      rcases List.mem_filter.1 hother with ⟨hmem, hchanged⟩
      have hne : pick.source ≠ other.source := by
        intro heq
        rw [← List.inj_on_of_nodup_map hsources hpick hmem heq, hname] at hchanged
        simp at hchanged
      simpa using hne
    rw [hnone, hname]
    rfl
  · have hmem : (ColumnRef.name pick.source, pick.name) ∈ renames picks :=
      List.mem_map.2 ⟨pick, List.mem_filter.2 ⟨hpick, by simpa using hname⟩, rfl⟩
    rcases List.append_of_mem hmem with ⟨front, back, hsplit⟩
    have hdistinct := renames_nodup hsources
    rw [hsplit, List.map_append, List.map_cons, List.nodup_middle, List.nodup_cons] at hdistinct
    have hfront : forall entry, entry ∈ front ->
        (ColumnRef.name pick.source != entry.1) = true := by
      intro entry hentry
      have hkey : entry.1 ∈ front.map Prod.fst := List.mem_map_of_mem hentry
      rw [bne_iff_ne]
      rintro heq
      exact hdistinct.1 (List.mem_append_left _ (heq ▸ hkey))
    rw [List.lookup_eq_some_iff.2 ⟨front, back, hsplit, hfront⟩]
    rfl

theorem cut_rows (hheader : forall pick, pick ∈ picks -> pick.source ∈ data.header) :
    (data.takeColumns (picks.map fun pick => data.header.idxOf pick.source)).rows =
      (data.pickedTable picks).rows := by
  rw [takeColumns_picks hheader]

theorem renames_hasColumn (hheader : forall pick, pick ∈ picks -> pick.source ∈ data.header) :
    forall entry, entry ∈ renames picks ->
      (data.takeColumns (picks.map fun pick => data.header.idxOf pick.source)).hasColumn
        entry.1 = true := by
  intro entry hentry
  rcases List.mem_map.1 hentry with ⟨pick, hpick, rfl⟩
  rw [hasColumn, cut_header hheader]
  exact List.contains_iff_mem.2 (List.mem_map_of_mem (List.mem_filter.1 hpick).1)

/-- Renaming all columns at once gives each of them its own new name, whatever names are
exchanged. -/
theorem cutAndRenamed_eq (hsources : (picks.map Pick.source).Nodup)
    (hheader : forall pick, pick ∈ picks -> pick.source ∈ data.header) :
    data.cutAndRenamed picks = data.pickedTable picks := by
  have hnames : (data.cutAndRenamed picks).header = picks.map Pick.name := by
    rw [cutAndRenamed, renameColumns_eq (renames_hasColumn hheader),
      newName_of_names (lookup_renames_position picks)]
    have hzip : ((picks.map Pick.source).zipIdx.map Prod.fst) = picks.map Pick.source :=
      List.zipIdx_map_fst ..
    have hrename := List.map_congr_left fun pick hpick => lookup_renames hsources hpick
    dsimp only
    rw [cut_header hheader]
    calc
      _ = ((picks.map Pick.source).zipIdx.map Prod.fst).map fun name =>
          ((renames picks).lookup (.name name)).getD name := List.map_map.symm
      _ = picks.map Pick.name := by rw [hzip, List.map_map]; exact hrename
  have hrows : (data.cutAndRenamed picks).rows = (data.pickedTable picks).rows := by
    rw [cutAndRenamed, renameColumns_eq (renames_hasColumn hheader)]
    exact cut_rows hheader
  exact congrArg₂ (Dataset.mk · · data.groups) hnames hrows

theorem project_eq (hkeys : forall key, key ∈ data.groups -> key ∈ picks.map Pick.name)
    (hheader : forall pick, pick ∈ picks -> pick.source ∈ data.header) :
    data.project picks = .ok (data.pickedTable picks) := by
  have hall : (picks.all fun pick => data.header.contains pick.source) = true := by
    rw [List.all_eq_true]
    exact fun pick hpick => List.contains_iff_mem.2 (hheader pick hpick)
  have htable := congrArg (Dataset.mk (picks.map Pick.name) · data.groups) (cut_rows hheader)
  rw [project, if_pos hall]
  exact (congrArg checked htable).trans (checked_eq_ok hkeys)

/-!
# Taking columns apart
-/

theorem outputColumns_picks (hnodup : data.header.Nodup)
    (hheader : forall pick, pick ∈ picks -> pick.source ∈ data.header)
    {columns : List (String × List Value)}
    (hnames : (columns.map Prod.fst ++ picks.map Pick.name).Nodup) :
    outputColumns callers data columns (picks.map .picked) =
      .ok (columns ++ picks.map fun pick => (pick.name, data.firstColumn pick.source)) := by
  induction picks generalizing columns with
  | nil => rw [List.map_nil, List.map_nil, List.append_nil, outputColumns]
  | cons pick rest ih =>
      rcases List.forall_mem_cons.1 hheader with ⟨hpick, hrest⟩
      have hvalues : itemValues callers data (.picked pick) =
          .ok (data.firstColumn pick.source) := by
        rw [itemValues, lookup_columns_of_nodup hnodup hpick]
      have hnew : putEntry columns (pick.name, data.firstColumn pick.source) =
          columns ++ [(pick.name, data.firstColumn pick.source)] :=
        putEntry_of_notMem fun hold =>
          List.disjoint_of_nodup_append hnames hold List.mem_cons_self
      rw [List.map_cons, outputColumns, hvalues, ok_bind]
      show outputColumns callers data (putEntry columns (pick.name, _)) _ = _
      rw [hnew, ih hrest (by simpa using hnames), List.append_assoc]
      rfl

theorem general_eq (hnodup : data.header.Nodup) (hsome : picks ≠ [])
    (hnames : (picks.map Pick.name).Nodup)
    (hkeys : forall key, key ∈ data.groups -> key ∈ picks.map Pick.name)
    (hheader : forall pick, pick ∈ picks -> pick.source ∈ data.header) :
    select.general callers data (picks.map .picked) = .ok (data.pickedTable picks) := by
  have hcolumns : outputColumns callers data [] (picks.map .picked) =
      .ok (picks.map fun pick => (pick.name, data.firstColumn pick.source)) :=
    outputColumns_picks hnodup hheader hnames
  have hlengths : forall column,
      column ∈ (picks.map fun pick => (pick.name, data.firstColumn pick.source)) ->
        column.2.length = data.nrows := by
    intro column hcolumn
    rcases List.mem_map.1 hcolumn with ⟨pick, _, rfl⟩
    exact firstColumn_length pick.source
  have hrows : (List.range data.nrows).map
      (rowOf (picks.map fun pick => data.firstColumn pick.source)) =
        (data.pickedTable picks).rows := by
    apply List.ext_getElem
    · simp [pickedTable, nrows]
    · intro i hi hi'
      have hi : i < data.rows.length := by simpa [pickedTable] using hi'
      simp [pickedTable, rowOf, firstColumn, cellAt, hi]
  unfold select.general
  rw [hcolumns, ok_bind, ofColumns_eq (by simpa using hsome) hlengths, ok_bind, List.map_map,
    List.map_map]
  show checked { header := picks.map Pick.name, rows := (List.range data.nrows).map (rowOf
    (picks.map fun pick => data.firstColumn pick.source)), groups := data.groups } = _
  rw [hrows]
  exact checked_eq_ok hkeys

/-!
# Selections
-/

theorem eq_map_picked {items : List SelectionItem} (h : picks? items = some picks) :
    items = picks.map .picked := by
  induction items generalizing picks with
  | nil =>
      cases h
      rfl
  | cons item rest ih =>
      cases item with
      | computed assign => cases h
      | picked pick =>
          rcases Option.map_eq_some_iff.1 h with ⟨others, hothers, rfl⟩
          rw [List.map_cons, ← ih hothers]

/-- Whatever names the picks of different columns exchange: cutting the columns and renaming them
at once, which is what a selection does with them, and taking them apart and putting them together
make the same table. -/
theorem select_paths_agree (hnodup : data.header.Nodup) {items : List SelectionItem}
    (hitems : picks? (data.completed items) = some picks) (hsome : picks ≠ [])
    (hnames : (picks.map Pick.name).Nodup) (hsources : (picks.map Pick.source).Nodup)
    (hheader : forall pick, pick ∈ picks -> pick.source ∈ data.header) :
    select callers items data = .ok (data.pickedTable picks) ∧
      data.project picks = .ok (data.pickedTable picks) ∧
      (data.cutAndRenamed picks).checked = .ok (data.pickedTable picks) ∧
      select.general callers data (data.completed items) = .ok (data.pickedTable picks) := by
  have hall : data.completed items = picks.map .picked := eq_map_picked hitems
  have hkeys : forall key, key ∈ data.groups -> key ∈ picks.map Pick.name := by
    intro key hkey
    rw [picks_names hitems]
    exact mem_completed_names hkey
  have hproject := project_eq hkeys hheader
  refine ⟨?_, hproject, ?_, ?_⟩
  · have hdiffer : sourcesDiffer picks = true := by
      rw [sourcesDiffer, eraseDups_of_nodup hsources, List.length_map, beq_self_eq_true]
    have hfilled : (data.completed items).isEmpty = false := by
      rw [hall]
      simpa using hsome
    unfold select
    dsimp only
    rw [hfilled, if_neg Bool.false_ne_true, hitems]
    dsimp only
    rw [if_pos hdiffer, hproject]
  · rw [cutAndRenamed_eq hsources hheader]
    exact checked_eq_ok hkeys
  · rw [hall]
    exact general_eq hnodup hsome hnames hkeys hheader

/-- A table that is grouped by two of its columns. -/
def labelledPairs : Dataset where
  header := ["g", "h", "a", "b"]
  rows := [[.str "u", .int 1, .missing, .bool true], [.str "v", .int 2, .str "w", .int 3]]
  groups := ["g", "h"]

/-- Three columns take the names of each other, one of them that of a key.  The other key is not
named; it is kept in any case. -/
def rotation : List SelectionItem :=
  [.picked { name := "h", source := "a" }, .picked { name := "b", source := "h" },
    .picked { name := "a", source := "b" }]

theorem select_paths_agree_rotation :
    select [] rotation labelledPairs = .ok
        { header := ["g", "h", "b", "a"]
          rows := [[.str "u", .missing, .int 1, .bool true], [.str "v", .str "w", .int 2, .int 3]]
          groups := ["g", "h"] } ∧
      select.general [] labelledPairs (labelledPairs.completed rotation) =
        select [] rotation labelledPairs := by
  have hnodup : labelledPairs.header.Nodup := by decide
  have hitems : picks? (labelledPairs.completed rotation) =
      some [⟨"g", "g"⟩, ⟨"h", "a"⟩, ⟨"b", "h"⟩, ⟨"a", "b"⟩] := rfl
  rcases select_paths_agree hnodup hitems (List.cons_ne_nil _ _) (by decide) (by decide)
    (by decide) with ⟨hselect, _, _, hgeneral⟩
  exact ⟨hselect, hgeneral.trans hselect.symm⟩

end Dataset
end Wrangle
