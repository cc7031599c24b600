import Wrangle.Proofs.Dataset.Distinct
import Wrangle.Proofs.Verb.Naming

/-!
# Rows that are left out

Two verbs leave rows out by the cells in some columns: one the rows that repeat an
earlier row, the other those that lack a cell.  The columns are those that the
fragments select, or all columns where there are no fragments.  The rows are left
out while the dataset is flat.
-/

namespace Wrangle

open Dataset Compile

/-!
# Columns
-/

namespace Request

/-- The columns that the fragments of a request select in a scope, and all columns of the dataset
where there are no fragments. -/
def SelectsFrom (request : Request) (scope : Scope) (columns : List String) : Prop :=
  if request.fragments = [] then columns = request.data.header
  else columnNames scope [] request.fragments = .ok columns

theorem columnNames_inScope {scope : Scope} {names columns : List String}
    {fragments : List ResolvedFragment} (hnames : forall name, name ∈ names -> name ∈ scope.columns)
    (h : columnNames scope names fragments = .ok columns) :
    forall name, name ∈ columns -> name ∈ scope.columns := by
  induction fragments generalizing names with
  | nil =>
      cases h
      exact hnames
  | cons fragment rest ih =>
      rw [columnNames] at h
      rcases bind_eq_ok_iff.1 h with ⟨picked, hpicked, h⟩
      refine ih ?_ h
      intro name hname
      rcases ColumnSets.mem_addNew_iff.1 hname with hname | hname
      · exact hnames name hname
      · have hfound := inFragment_eq_ok_iff.1 hpicked
        split at hfound
        · cases hfound
        · have hgives : Gives (fun names => forall name, name ∈ names -> name ∈ scope.columns)
              (selectNames scope fragment.node) := selectNames_inScope fragment.node
          rw [hfound] at hgives
          exact hgives name hname

variable {request : Request} {scope : Scope} {columns : List String}

theorem SelectsFrom.inScope (h : request.SelectsFrom scope columns)
    (hscope : forall name, name ∈ request.data.header -> name ∈ scope.columns) :
    forall name, name ∈ columns -> name ∈ scope.columns := by
  unfold SelectsFrom at h
  split at h
  · rw [h]
    exact hscope
  · exact columnNames_inScope (fun name hname => absurd hname List.not_mem_nil) h

theorem SelectsFrom.exists_names (h : request.SelectsFrom scope columns) :
    exists names, columnNames scope [] request.fragments = .ok names ∧
      ((request.fragments = [] ∧ names = [] ∧ columns = request.data.header) ∨
        (request.fragments ≠ [] ∧ names = columns)) := by
  unfold SelectsFrom at h
  split at h
  · rename_i hnone
    rw [hnone]
    exact ⟨[], rfl, Or.inl ⟨rfl, rfl, h⟩⟩
  · rename_i hsome
    exact ⟨columns, h, Or.inr ⟨hsome, rfl⟩⟩

end Request

/-!
# Padded tables
-/

namespace Dataset

variable {data wide : Dataset} {names columns : List String}

theorem cellAt_rowColumn {i : Nat} {name : String} (hi : i < data.nrows)
    (hname : name = countColumn ∨ name = rowNumberColumn) :
    cellAt i (rowColumn name [Partition.whole data.nrows] data.nrows) = data.shown name i := by
  unfold rowColumn
  rcases hname with rfl | rfl
  · rw [shown_countColumn, if_pos (beq_self_eq_true _), groupSizes_eq, scattered_whole (by simp)]
    simp [cellAt, hi]
  · have hne : (rowNumberColumn == countColumn) = false := by decide
    rw [shown_rowNumberColumn, hne, if_neg Bool.false_ne_true, rowNumbers_eq,
      scattered_whole (by simp)]
    simp [cellAt, hi]

theorem shown_of_unreserved {name : String} (hname : isReserved name = false) (i : Nat) :
    data.shown name i = cellAt (data.header.idxOf name) (data.rows[i]?.getD []) := by
  have hcount : name ≠ countColumn := by
    rintro rfl
    rw [Request.isReserved_countColumn] at hname
    cases hname
  have hnumber : name ≠ rowNumberColumn := by
    rintro rfl
    rw [Request.isReserved_rowNumberColumn] at hname
    cases hname
  exact shown_of_ne hcount hnumber i

def CanShow (data : Dataset) (names columns : List String) : Prop :=
  forall name, name ∈ columns -> name ∈ data.header ∨
    (name ∈ names ∧ (name = countColumn ∨ name = rowNumberColumn))

theorem Pads.lookup_shown (h : data.Pads names wide) (hdata : data.WellFormed)
    (hflat : data.groups = []) (hcolumns : data.CanShow names columns) {name : String}
    (hname : name ∈ columns) :
    wide.columns.lookup name = some ((List.range data.nrows).map (data.shown name)) := by
  rcases hcolumns name hname with hname | ⟨hmem, hname⟩
  · have hreserved := hdata.unreserved name hname
    rw [h.lookup hreserved, hdata.isRegular.lookup_columns, if_pos hname]
    congr 1
    apply List.ext_getElem
    · simp [firstColumn_length]
    · intro i hi _
      have hlt : i < data.rows.length := by
        rwa [firstColumn_length] at hi
      simp [firstColumn, shown_of_unreserved hreserved, hlt]
  · rcases h.columns name hmem with ⟨groups, hgroups, hcolumn⟩
    have hwhole : groups = [Partition.whole data.nrows] := by
      rw [partitions_of_flat data hflat] at hgroups
      exact (Except.ok.inj hgroups).symm
    rw [hcolumn, hwhole]
    congr 1
    apply List.ext_getElem
    · rw [rowColumn_length, List.length_map, List.length_range]
    · intro i hi _
      have hlt : i < data.nrows := by
        rwa [rowColumn_length] at hi
      have hcell := cellAt_rowColumn hlt hname
      rw [cellAt, List.getElem?_eq_getElem hi, Option.getD_some] at hcell
      rw [List.getElem_map, List.getElem_range]
      exact hcell

theorem Pads.cellAt_eq_shown (h : data.Pads names wide) (hdata : data.WellFormed)
    (hflat : data.groups = []) (hcolumns : data.CanShow names columns) {name : String}
    (hname : name ∈ columns) :
    name ∈ wide.header ∧ forall i, i < data.nrows ->
      cellAt (wide.header.idxOf name) (wide.rows[i]?.getD []) = data.shown name i := by
  have hcolumn := h.lookup_shown hdata hflat hcolumns hname
  rw [h.regular.lookup_columns] at hcolumn
  split at hcolumn
  · rename_i hpresent
    refine ⟨hpresent, ?_⟩
    intro i hi
    have hcell := congrArg (fun values : List Value => values[i]?) (Option.some.inj hcolumn)
    have hlength : wide.rows.length = data.nrows := h.nrows
    have hlt : i < wide.rows.length := hlength.symm ▸ hi
    simpa [firstColumn, hlt, hi] using hcell
  · cases hcolumn

/-!
# First rows
-/

section First

variable (h : data.Pads names wide) (hdata : data.WellFormed) (hcells : data.HasDiscreteCells)
variable (hflat : data.groups = []) (hcolumns : data.CanShow names columns)
include h hdata hflat hcolumns

theorem Pads.cellsAt_eq_shown {i : Nat} (hi : i < data.nrows) :
    cellsAt (columns.map fun name => wide.header.idxOf name) (wide.rows[i]?.getD []) =
      columns.map fun name => data.shown name i := by
  unfold cellsAt
  rw [List.map_map]
  apply List.map_congr_left
  intro name hname
  exact (h.cellAt_eq_shown hdata hflat hcolumns hname).2 i hi

include hcells

theorem Pads.areReadable :
    AreReadable (columns.map fun name => wide.header.idxOf name) wide.rows := by
  intro row hrow
  rcases List.mem_iff_getElem.1 hrow with ⟨i, hi, rfl⟩
  have hlt : i < data.nrows := h.nrows ▸ hi
  constructor
  · intro k hk
    rcases List.mem_map.1 hk with ⟨name, hname, rfl⟩
    rw [h.regular.width _ hrow]
    exact List.idxOf_lt_length_of_mem (h.cellAt_eq_shown hdata hflat hcolumns hname).1
  · have hshown := h.cellsAt_eq_shown hdata hflat hcolumns hlt
    rw [List.getElem?_eq_getElem hi, Option.getD_some] at hshown
    rw [hshown]
    intro value hvalue
    rcases List.mem_map.1 hvalue with ⟨name, _, rfl⟩
    exact hcells.shown name i

theorem Pads.isNew_eq {i : Nat} (hi : i < data.nrows) :
    isNew (columns.map fun name => wide.header.idxOf name) [] wide.rows i =
      decide (forall j, j < i -> ¬ data.AgreeOn columns j i) := by
  have hreadable := h.areReadable hdata hcells hflat hcolumns
  have hlength : wide.rows.length = data.nrows := h.nrows
  have hstanding : forall j, j < data.nrows -> standardCells
      (columns.map fun name => wide.header.idxOf name) (wide.rows[j]?.getD []) =
        data.standing columns j := by
    intro j hj
    rw [standardCells, h.cellsAt_eq_shown hdata hflat hcolumns hj, standardKey, List.map_map]
    rfl
  have hrepeats : repeats (columns.map fun name => wide.header.idxOf name) (wide.rows.take i)
      (wide.rows[i]?.getD []) = true <-> exists j, j < i ∧ data.AgreeOn columns j i := by
    have hrow : wide.rows[i]?.getD [] ∈ wide.rows := by
      rw [List.getElem?_eq_getElem (hlength.symm ▸ hi)]
      exact List.getElem_mem _
    rw [repeats_iff (fun row hrow => hreadable row (List.mem_of_mem_take hrow))
      (hreadable _ hrow).2, hstanding i hi, List.mem_map]
    simp only [hcells.agreeOn_iff]
    constructor
    · rintro ⟨row, hrow, hsame⟩
      rcases List.mem_take_iff_getElem.1 hrow with ⟨j, hj, rfl⟩
      have hlt : j < data.nrows := by omega
      refine ⟨j, by omega, ?_⟩
      rw [← hsame, ← hstanding j hlt, List.getElem?_eq_getElem (hlength.symm ▸ hlt)]
      rfl
    · rintro ⟨j, hj, hsame⟩
      have hlt : j < wide.rows.length := by omega
      refine ⟨wide.rows[j], List.mem_take_iff_getElem.2 ⟨j, by omega, rfl⟩, ?_⟩
      rw [← hsame, ← hstanding j (by omega), List.getElem?_eq_getElem hlt]
      rfl
  rw [isNew, List.nil_append, Bool.eq_iff_iff, Bool.not_eq_true', ← Bool.not_eq_true, hrepeats,
    decide_eq_true_iff]
  constructor
  · intro hnone j hj hagree
    exact hnone ⟨j, hj, hagree⟩
  · rintro hnone ⟨j, hj, hagree⟩
    exact hnone j hj hagree

theorem Pads.unique_eq {asked : List String} (hasked : wide.orAll asked = columns) :
    unique asked wide = .ok (wide.keep (data.firstPlaces columns)) := by
  have hpresent : (columns.all fun name => wide.header.contains name) = true := by
    rw [List.all_eq_true]
    intro name hname
    exact List.contains_iff_mem.2 (h.cellAt_eq_shown hdata hflat hcolumns hname).1
  have hstands : Stands (columns.map fun name => wide.header.idxOf name) [] [] :=
    ⟨fun _ hkey => absurd hkey List.not_mem_nil, fun _ hrow => absurd hrow List.not_mem_nil,
      fun _ => Iff.rfl⟩
  have hplaces : (List.range wide.rows.length).filter
      (isNew (columns.map fun name => wide.header.idxOf name) [] wide.rows) =
        data.firstPlaces columns := by
    have hlength : wide.rows.length = data.nrows := h.nrows
    rw [hlength]
    apply List.filter_congr
    intro i hi
    exact h.isNew_eq hdata hcells hflat hcolumns (List.mem_range.1 hi)
  have hrows : wide.HasRows (data.firstPlaces columns) := by
    intro i hi
    rw [h.nrows]
    exact List.mem_range.1 (List.mem_filter.1 hi).1
  unfold unique
  dsimp only
  rw [hasked, if_pos hpresent, firstRows_eq (h.areReadable hdata hcells hflat hcolumns) hstands,
    hplaces, ← rowsAt_eq hrows]
  rfl

end First

/-!
# First rows again
-/

theorem keep_range (data : Dataset) : data.keep (List.range data.nrows) = data := by
  unfold keep rowsAt nrows
  rw [filterMap_getElem?_range]

/-- Rows that agree among those that are kept agree in the dataset, or one of them is the other. -/
theorem agreeOn_of_keep {kept : List Nat} (hrows : data.HasRows kept) {i j : Nat}
    (hi : i < kept.length) (hj : j < kept.length) (h : (data.keep kept).AgreeOn columns i j) :
    data.AgreeOn columns kept[i] kept[j] ∨ i = j := by
  by_cases heq : i = j
  · exact Or.inr heq
  · left
    intro name hname
    have hagree := h name hname
    by_cases hcount : name = countColumn
    · rw [hcount, shown_countColumn, shown_countColumn]
      exact (equals_iff rfl rfl).2 rfl
    · by_cases hnumber : name = rowNumberColumn
      · -- no two rows have the same number
        rw [hnumber, shown_rowNumberColumn, shown_rowNumberColumn, equals_iff rfl rfl] at hagree
        have hsame : Int.ofNat (i + 1) = Int.ofNat (j + 1) := Value.int.inj hagree
        exact absurd (by simpa using hsame) heq
      · have hrow : forall k (hk : k < kept.length),
            (data.keep kept).rows[k]?.getD [] = data.rows[kept[k]]?.getD [] := by
          intro k hk
          show (data.rowsAt kept)[k]?.getD [] = _
          rw [rowsAt_eq hrows]
          simp [hk]
        rw [shown_of_ne hcount hnumber, shown_of_ne hcount hnumber, hrow i hi, hrow j hj] at hagree
        rwa [shown_of_ne hcount hnumber, shown_of_ne hcount hnumber]

theorem AreFirst.keep_firstPlaces {kept : List Nat} (h : data.AreFirst columns kept) :
    (data.keep kept).keep ((data.keep kept).firstPlaces columns) = data.keep kept := by
  have hrows : data.HasRows kept := fun i hi => List.mem_range.1 (h.sublist.subset hi)
  have hlength : (data.keep kept).nrows = kept.length := part_nrows hrows
  have hall : (data.keep kept).firstPlaces columns = List.range (data.keep kept).nrows := by
    rw [firstPlaces, List.filter_eq_self]
    intro i hi
    rw [decide_eq_true_iff]
    intro j hj hagree
    have hlt : i < kept.length := hlength ▸ List.mem_range.1 hi
    rcases agreeOn_of_keep hrows (hj.trans hlt) hlt hagree with hagree | heq
    · exact List.pairwise_iff_getElem.1 h.apart j i (hj.trans hlt) hlt hj hagree
    · omega
  rw [hall, keep_range]

end Dataset

/-!
# Calls that tell rows apart
-/

namespace Invocation

variable {call : Invocation} {data : Dataset} {columns : List String}

/-- The columns that a call tells the rows of a dataset apart by. -/
def TellsApartBy (call : Invocation) (data : Dataset) (columns : List String) : Prop :=
  exists request, call.request data = .ok request ∧ request.SelectsFrom request.fullScope columns

theorem TellsApartBy.with_rows (h : call.TellsApartBy data columns) (rows : List (List Value)) :
    call.TellsApartBy { data with rows := rows } columns := by
  rcases h with ⟨request, hrequest, hselects⟩
  rw [request_eq] at hrequest
  rcases map_eq_ok_iff.1 hrequest with ⟨found, hfound, rfl⟩
  exact ⟨_, request_of_fragments hfound _, hselects⟩

theorem canShow_of_inScope {found : List ResolvedFragment}
    (h : forall name, name ∈ columns ->
      name ∈ (call.requestOf data found).fullScope.columns) :
    data.CanShow (rowNames found) columns := by
  intro name hname
  rcases mem_header_or_rowNames (h name hname) with hheader | hmem
  · exact Or.inl hheader
  · exact Or.inr ⟨hmem, by simpa using rowNames_sub hmem⟩

theorem run_distinct (hverb : call.verb = .distinct) (hdata : data.WellFormed)
    (hcells : data.HasDiscreteCells) (hcolumns : call.TellsApartBy data columns)
    (hsome : columns ≠ []) (settings : Settings) :
    (call.run settings data).result = .ok (data.keep (data.firstPlaces columns)) := by
  rcases hcolumns with ⟨request, hrequest, hselects⟩
  rw [request_eq] at hrequest
  rcases map_eq_ok_iff.1 hrequest with ⟨found, hfound, rfl⟩
  rcases hselects.exists_names with ⟨names, hnames, hmeant⟩
  have hflat : data.ungroup.WellFormed :=
    withGroups_wellFormed hdata fun key hkey => absurd hkey List.not_mem_nil
  have hplan : call.verb.plan (call.requestOf data found) =
      .ok ((call.requestOf data found).whileFlat
        ((call.requestOf data found).enclosed [.unique names])) := by
    rw [hverb]
    show (call.requestOf data found).planDistinct = _
    rw [Request.planDistinct, hnames]
    rfl
  refine run_eq_ok_iff.2 ⟨found, _, hfound, hplan, applyAll_whileFlat hdata ?_⟩
  have hexists : exists wide, Operation.applyAll call.env.functions
      (call.requestOf data found).rowColumns data.ungroup = .ok wide :=
    hflat.exists_rowColumns fun _ => ⟨_, partitions_of_flat _ rfl⟩
  rcases hexists with ⟨wide, hwide⟩
  have hpads := hflat.pads_rowColumns hwide
  have hscope : forall name, name ∈ columns ->
      name ∈ (call.requestOf data found).fullScope.columns := by
    apply hselects.inScope
    intro name hname
    have hheader : name ∈ (call.requestOf data found).scope.columns := hname
    exact Request.mem_fullScope_of_mem hheader
  have hshows : data.ungroup.CanShow (rowNames found) columns := canShow_of_inScope hscope
  have hasked : wide.orAll names = columns := by
    rcases hmeant with ⟨hnone, rfl, rfl⟩ | ⟨_, rfl⟩
    · have hsame : wide = data.ungroup := by
        have hnone : found = [] := hnone
        rw [hnone] at hwide
        exact (Except.ok.inj hwide).symm
      rw [hsame]
      rfl
    · exact if_neg (by simpa using hsome)
  have hunique := hpads.unique_eq hflat hcells rfl hshows hasked
  rw [Request.enclosed, Operation.applyAll_append, Operation.applyAll_append, hwide, ok_bind,
    Operation.applyAll_single, Operation.apply, hunique, ok_bind, Operation.applyAll_single,
    Operation.apply, drop_keep fun key hkey => ⟨hpads.regular.keys key hkey,
      hpads.regular.unreserved key hkey⟩, hpads.dropped]
  rfl

/-- To tell the rows of a dataset of discrete cells apart by some columns is to keep the first row
of each combination of their cells.  Whoever tells the rows that are kept apart by these columns
again changes nothing. -/
theorem distinct_keeps_first (hverb : call.verb = .distinct) (hdata : data.WellFormed)
    (hcells : data.HasDiscreteCells) (hcolumns : call.TellsApartBy data columns)
    (hsome : columns ≠ []) (settings : Settings) :
    exists kept, data.AreFirst columns kept ∧
      (call.run settings data).result = .ok { data with rows := data.rowsAt kept } ∧
      call.TellsApartBy { data with rows := data.rowsAt kept } columns ∧
      forall again : Invocation, again.verb = .distinct ->
        again.TellsApartBy { data with rows := data.rowsAt kept } columns ->
        (again.run settings { data with rows := data.rowsAt kept }).result =
          .ok { data with rows := data.rowsAt kept } := by
  have hfirst := hcells.areFirst columns
  refine ⟨data.firstPlaces columns, hfirst,
    run_distinct hverb hdata hcells hcolumns hsome settings, hcolumns.with_rows _, ?_⟩
  intro again hagain hselects
  have hkept : (data.keep (data.firstPlaces columns)).WellFormed := by
    constructor
    · exact hdata.nodup
    · exact hdata.unreserved
    · exact fun row hrow => hdata.width row (mem_rows_of_mem_rowsAt hrow)
    · exact hdata.keys
  have hkeptCells : (data.keep (data.firstPlaces columns)).HasDiscreteCells :=
    fun row hrow => hcells row (mem_rows_of_mem_rowsAt hrow)
  have hrun := run_distinct hagain hkept hkeptCells hselects hsome settings
  rwa [hfirst.keep_firstPlaces] at hrun

/-- Rows of which the second repeats the first in one column, where a truth value counts as a
number. -/
def repeatedRows : Dataset :=
  { header := ["k", "x"]
    rows := [[.int 1, .str "a"], [.bool true, .str "b"], [.missing, .str "a"]]
    groups := ["x"] }

def distinctByKey : Invocation :=
  { copyColumn with verb := .distinct, values := [.sym "k"], named := [] }

theorem repeatedRows_hasDiscreteCells : repeatedRows.HasDiscreteCells := by
  intro row hrow value hvalue
  simp only [repeatedRows, List.mem_cons, List.not_mem_nil, or_false] at hrow
  rcases hrow with rfl | rfl | rfl <;>
    simp only [List.mem_cons, List.not_mem_nil, or_false] at hvalue <;>
    rcases hvalue with rfl | rfl <;> rfl

theorem distinct_keeps_first_byKey :
    exists kept, repeatedRows.AreFirst ["k"] kept ∧
      (distinctByKey.run Settings.initial repeatedRows).result =
        .ok { repeatedRows with rows := repeatedRows.rowsAt kept } := by
  have htells : distinctByKey.TellsApartBy repeatedRows ["k"] := ⟨_, rfl, rfl⟩
  rcases distinct_keeps_first rfl (by decide) repeatedRows_hasDiscreteCells htells (by decide)
    Settings.initial with ⟨kept, hfirst, hrun, _⟩
  exact ⟨kept, hfirst, hrun⟩

end Invocation

/-!
# Rows that lack a cell
-/

namespace Dataset

variable {data : Dataset} {columns : List String}

def hasCells (data : Dataset) (columns : List String) (row : List Value) : Bool :=
  columns.all fun name => !(cellAt (data.header.idxOf name) row).isMissing

theorem isComplete_eq (hcolumns : forall name, name ∈ columns -> name ∈ data.header)
    (row : List Value) :
    isComplete data.header row (columns.map Value.str) = .ok (data.hasCells columns row) := by
  induction columns with
  | nil => rfl
  | cons name rest ih =>
      rcases List.forall_mem_cons.1 hcolumns with ⟨hname, hrest⟩
      have hcell : askedCell data.header row (.str name) =
          .ok (cellAt (data.header.idxOf name) row) :=
        if_pos (List.contains_iff_mem.2 hname)
      rw [List.map_cons, isComplete, hcell]
      dsimp only
      rw [ih hrest, hasCells, hasCells, List.all_cons]
      cases (cellAt (data.header.idxOf name) row).isMissing with
      | true => rfl
      | false => rfl

theorem completeRows_eq (hcolumns : forall name, name ∈ columns -> name ∈ data.header)
    (rows : List (List Value)) :
    completeRows data.header (columns.map Value.str) rows =
      .ok (rows.filter (data.hasCells columns)) := by
  induction rows with
  | nil => rfl
  | cons row rest ih =>
      rw [completeRows, isComplete_eq hcolumns, List.filter_cons, ih]
      cases data.hasCells columns row with
      | true => rfl
      | false => rfl

/-- The rows are kept that have a cell in all of the columns that are asked for, which are all
columns when none is named. -/
theorem dropMissing_eq (hcolumns : forall name, name ∈ columns -> name ∈ data.header) :
    dropMissing (columns.map Value.str) data =
      .ok { data with rows := data.rows.filter (data.hasCells (data.orAll columns)) } := by
  have hasked : (if (columns.map Value.str).isEmpty then data.header.map Value.str
      else columns.map Value.str) = (data.orAll columns).map Value.str := by
    unfold orAll
    cases columns with
    | nil => rfl
    | cons name rest => rfl
  have hpresent : forall name, name ∈ data.orAll columns -> name ∈ data.header := by
    unfold orAll
    split
    · exact fun _ hname => hname
    · exact hcolumns
  unfold dropMissing
  dsimp only
  rw [hasked, completeRows_eq hpresent]
  rfl

end Dataset

/-!
# Calls that ask for cells
-/

namespace Invocation

variable {call : Invocation} {data : Dataset} {columns : List String}

/-- The columns in which a call asks for cells. -/
def AsksForCells (call : Invocation) (data : Dataset) (columns : List String) : Prop :=
  exists request, call.request data = .ok request ∧ request.SelectsFrom request.scope columns

theorem run_dropMissing (hverb : call.verb = .dropMissing) (hdata : data.WellFormed)
    (hcolumns : call.AsksForCells data columns) (settings : Settings) :
    (call.run settings data).result =
      .ok { data with rows := data.rows.filter (data.hasCells (data.orAll columns)) } := by
  rcases hcolumns with ⟨request, hrequest, hselects⟩
  rw [request_eq] at hrequest
  rcases map_eq_ok_iff.1 hrequest with ⟨found, hfound, rfl⟩
  rcases hselects.exists_names with ⟨names, hnames, hmeant⟩
  have hpresent : forall name, name ∈ columns -> name ∈ data.header :=
    hselects.inScope fun _ hname => hname
  have hasked : data.orAll names = data.orAll columns ∧
      forall name, name ∈ names -> name ∈ data.header := by
    rcases hmeant with ⟨_, rfl, rfl⟩ | ⟨_, rfl⟩
    · refine ⟨?_, fun name hname => absurd hname List.not_mem_nil⟩
      show data.header = data.orAll data.header
      unfold orAll
      split <;> rfl
    · exact ⟨rfl, hpresent⟩
  have hplan : call.verb.plan (call.requestOf data found) =
      .ok ((call.requestOf data found).whileFlat [.dropMissing (names.map Value.str)]) := by
    rw [hverb]
    show (call.requestOf data found).planDropMissing = _
    rw [Request.planDropMissing, hnames]
    rfl
  refine run_eq_ok_iff.2 ⟨found, _, hfound, hplan, applyAll_whileFlat hdata ?_⟩
  rw [Operation.applyAll_single, ← hasked.1]
  have hflat : forall name, name ∈ names -> name ∈ data.ungroup.header := hasked.2
  exact dropMissing_eq hflat

/-- The rows that are kept are those with a cell in each of the columns that a call selects, just
when there is such a column, or no cell is missing at all. -/
theorem dropMissing_keeps_complete_iff (hverb : call.verb = .dropMissing) (hdata : data.WellFormed)
    (hcolumns : call.AsksForCells data columns) (settings : Settings) :
    (call.run settings data).result =
        .ok { data with rows := data.rows.filter (data.hasCells columns) } <->
      columns ≠ [] ∨ forall row, row ∈ data.rows -> data.hasCells data.header row = true := by
  rw [run_dropMissing hverb hdata hcolumns]
  cases columns with
  | nil =>
      have hall : data.rows.filter (data.hasCells []) = data.rows :=
        List.filter_eq_self.2 fun _ _ => rfl
      rw [hall]
      constructor
      · intro hsame
        have hrows : data.rows.filter (data.hasCells data.header) = data.rows :=
          congrArg Dataset.rows (Except.ok.inj hsame)
        exact Or.inr (List.filter_eq_self.1 hrows)
      · rintro (hsome | hcells)
        · exact absurd rfl hsome
        · rw [show data.rows.filter (data.hasCells (data.orAll [])) = data.rows from
            List.filter_eq_self.2 hcells]
  | cons name rest => exact ⟨fun _ => Or.inl (List.cons_ne_nil _ _), fun _ => rfl⟩

/-- A row that has its one cell, and one that lacks it. -/
def gapped : Dataset := flat ["x"] [[.int 1], [.missing]]

def prefixFragment : ResolvedFragment where
  node := .apply "starts_with" [.literal (.str "z")]
  mentionsCount := false
  mentionsRowNumber := false
  source := "starts_with('z')"

def dropMissingInNone : Invocation :=
  { copyColumn with verb := .dropMissing, values := [.str "starts_with('z')"], named := [] }

theorem dropMissingInNone_fragments : dropMissingInNone.fragments = .ok [prefixFragment] := by
  have hts : tokenize "starts_with('z')" =
      .ok [⟨.identifier "starts_with", 0⟩, ⟨.symbol .openParen, 11⟩, ⟨.text "z", 12⟩,
        ⟨.symbol .closeParen, 15⟩, ⟨.finish, 16⟩] := rfl
  have hfragment : Verb.fragmentOf (.str "starts_with('z')") =
      .ok (prefixFragment.node, "starts_with('z')") := fragmentOf_text (by decide) hts rfl
  unfold fragments Verb.fragmentsOf
  simp only [dropMissingInNone, List.mapM_cons, List.mapM_nil, hfragment]
  rfl

theorem dropMissingInNone_asksForCells : dropMissingInNone.AsksForCells gapped [] :=
  ⟨_, request_of_fragments dropMissingInNone_fragments gapped, rfl⟩

/-- The row that lacks its cell is left out, though no column is selected. -/
theorem dropMissing_keeps_complete_iff_inNone :
    dropMissingInNone.AsksForCells gapped [] ∧
      (dropMissingInNone.run Settings.initial gapped).result ≠
        .ok { gapped with rows := gapped.rows.filter (gapped.hasCells []) } := by
  refine ⟨dropMissingInNone_asksForCells, ?_⟩
  intro hrun
  rcases (dropMissing_keeps_complete_iff rfl (by decide) dropMissingInNone_asksForCells
    Settings.initial).1 hrun with hsome | hcells
  · exact hsome rfl
  · exact absurd (hcells [.missing] (by simp [gapped, flat])) (by decide)

end Invocation
end Wrangle
