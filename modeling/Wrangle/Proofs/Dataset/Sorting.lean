import Mathlib.Data.Int.ConditionallyCompleteOrder
import Mathlib.Order.ConditionallyCompleteLattice.Basic
import Wrangle.Proofs.Compile.Agreement
import Wrangle.Proofs.Dataset.Arranging
import Wrangle.Proofs.Dataset.Padding
import Wrangle.Proofs.Value.Images

/-!
# Sorting by keys in either direction

Rows are sorted by one key after another, the last one first.  Every pass keeps the order
of what it does not tell apart, so in the end the first key on which two rows differ
decides, and rows that differ on no key stand as before.

A pass looks at nothing but the cells of its column.  So it does not matter what else there
is in the rows, or what the column is called.
-/

namespace Wrangle
namespace Dataset

/-!
# The order of keys
-/

def Precedes (reverse : Bool) (a b : Value) : Prop :=
  a.isMissing = false ∧
    (b.isMissing = true ∨ if reverse then b.place < a.place else a.place < b.place)

def cellIn (data : Dataset) (column : String) (i : Nat) : Value :=
  cellAt (data.header.idxOf column) (data.rows[i]?.getD [])

/-- Whether the row at one position goes before the row at another one: the first key on which
their cells differ decides, and if there is none, the positions do. -/
def SortsBefore (data : Dataset) : List SortKey -> Nat -> Nat -> Prop
  | [], i, j => i < j
  | key :: rest, i, j =>
      Precedes key.reverse (data.cellIn key.column i) (data.cellIn key.column j) ∨
        ((data.cellIn key.column i).place = (data.cellIn key.column j).place ∧
          data.SortsBefore rest i j)

/-!
# Reversed sorting
-/

/-- The place of a cell among others from the highest one down; a missing one is still last. -/
def reversedPlace (value : Value) : WithTop (Int ×ₗ Int ×ₗ String)ᵒᵈ :=
  if value.isMissing then ⊤ else WithTop.some (OrderDual.toDual value.place)

theorem reversedPlace_of_present {value : Value} (h : value.isMissing = false) :
    reversedPlace value = WithTop.some (OrderDual.toDual value.place) := by
  rw [reversedPlace, h]
  rfl

theorem reversedPlace_of_missing {value : Value} (h : value.isMissing = true) :
    reversedPlace value = ⊤ := by
  rw [reversedPlace, if_pos h]

theorem exists_sortKeyed_reversed {keyed : List (Value × List Value)}
    (h : Kept (fun entry => entry.1.isDiscrete = true) keyed) :
    exists sorted,
      sortKeyed true (keyed.filter fun entry => !entry.1.isMissing) = .ok sorted ∧
        IsArrangement (fun entry => reversedPlace entry.1) keyed
          (sorted ++ keyed.filter fun entry => entry.1.isMissing) := by
  have hpresent : Kept (fun entry => entry.1.isDiscrete = true)
      (keyed.filter fun entry => !entry.1.isMissing) :=
    fun entry hentry => h entry (List.mem_filter.1 hentry).1
  rcases exists_sortKeyed_reverse hpresent with ⟨sorted, hsorted, harrangement⟩
  refine ⟨sorted, hsorted, ?_⟩
  have hplaces : IsArrangement (fun entry => reversedPlace entry.1)
      (keyed.filter fun entry => !entry.1.isMissing) sorted := by
    apply (harrangement.strictMono WithTop.coe_strictMono).congr
    intro entry hentry
    exact (reversedPlace_of_present (by simpa using (List.mem_filter.1 hentry).2)).symm
  have hlast := hplaces.append_last ⊤
    (fun entry _ htest => by
      rw [reversedPlace_of_present (by simpa using htest)]
      exact WithTop.coe_lt_top _)
    (fun entry _ htest => reversedPlace_of_missing (by simpa using htest))
  simpa using hlast

section Rows

variable {header : List String} {column : String} {rows : List (List Value)}

theorem exists_sortBy_reversed (hcolumn : column ∈ header)
    (hwidth : forall row, row ∈ rows -> row.length = header.length)
    (hcells : forall row, row ∈ rows -> (cellAt (header.idxOf column) row).isDiscrete = true) :
    exists sorted, sortBy header (descending column) rows = .ok sorted ∧
      IsArrangement (fun row => reversedPlace (cellAt (header.idxOf column) row)) rows sorted := by
  rcases exists_sortKeyed_reversed (kept_keyed Value.isDiscrete hcells) with
    ⟨sorted, hsorted, harrangement⟩
  have hcontains : header.contains column = true := List.contains_iff_mem.2 hcolumn
  refine ⟨_, ?_, isArrangement_rows reversedPlace harrangement⟩
  simp only [sortBy, descending, hcontains, if_true, mapM_keyedRow hcolumn hwidth, ok_bind, hsorted]

end Rows

/-!
# One pass
-/

variable {data : Dataset} {positions : List Nat}

theorem precedes_of_place_lt {a b : Value} (hb : b.isDiscrete = true) (h : a.place < b.place) :
    Precedes false a b := by
  have hpresent : a.isMissing = false := by
    cases hmissing : a.isMissing with
    | false => rfl
    | true =>
        -- nothing is in a higher place than a missing cell
        rw [place_eq_missing hmissing] at h
        cases hother : b.isMissing with
        | false => exact absurd (place_lt_missing hb hother) h.asymm
        | true => exact absurd h (place_eq_missing hother ▸ lt_irrefl _)
  exact ⟨hpresent, .inr h⟩

theorem precedes_of_reversedPlace_lt {a b : Value} (h : reversedPlace a < reversedPlace b) :
    Precedes true a b := by
  cases ha : a.isMissing with
  | true =>
      rw [reversedPlace_of_missing ha] at h
      exact absurd h not_top_lt
  | false =>
      refine ⟨ha, ?_⟩
      cases hb : b.isMissing with
      | true => exact .inl rfl
      | false =>
          rw [reversedPlace_of_present ha, reversedPlace_of_present hb, WithTop.coe_lt_coe] at h
          exact .inr h

theorem place_eq_of_reversedPlace_eq {a b : Value} (h : reversedPlace a = reversedPlace b) :
    a.place = b.place := by
  cases ha : a.isMissing with
  | true =>
      cases hb : b.isMissing with
      | true => rw [place_eq_missing ha, place_eq_missing hb]
      | false =>
          rw [reversedPlace_of_missing ha, reversedPlace_of_present hb] at h
          exact absurd h.symm (WithTop.coe_ne_top)
  | false =>
      cases hb : b.isMissing with
      | true =>
          rw [reversedPlace_of_present ha, reversedPlace_of_missing hb] at h
          exact absurd h (WithTop.coe_ne_top)
      | false =>
          rw [reversedPlace_of_present ha, reversedPlace_of_present hb] at h
          exact OrderDual.toDual.injective (WithTop.coe_injective h)

theorem exists_positions {beta : Type} [LinearOrder beta] {place : List Value -> beta}
    (hpositions : data.HasRows positions) {sorted : List (List Value)}
    (h : IsArrangement place (data.rowsAt positions) sorted) :
    exists found, sorted = data.rowsAt found ∧
      IsArrangement (fun i => place (data.rows[i]?.getD [])) positions found := by
  rw [rowsAt_eq hpositions] at h
  rcases h.exists_map with ⟨found, hfound, rfl⟩
  refine ⟨found, ?_, hfound⟩
  exact (rowsAt_eq fun i hi => hpositions i ((hfound.mem_iff i).1 hi)).symm

/-- A column of discrete cells that rows may be sorted by. -/
structure SortsDiscretely (data : Dataset) (column : String) : Prop where
  present : column ∈ data.header
  cells : forall row, row ∈ data.rows ->
    (cellAt (data.header.idxOf column) row).isDiscrete = true

theorem SortsDiscretely.cellIn {column : String} (h : data.SortsDiscretely column) {i : Nat}
    (hi : i < data.nrows) : (data.cellIn column i).isDiscrete = true := by
  have hrow : data.rows[i]? = some data.rows[i] := List.getElem?_eq_getElem hi
  rw [Dataset.cellIn, hrow]
  exact h.cells _ (List.getElem_mem hi)

theorem exists_sortBy_positions (hwidth : data.HasWidth) {key : SortKey}
    (hkey : data.SortsDiscretely key.column) (hpositions : data.HasRows positions)
    {before : Nat -> Nat -> Prop} (hbefore : positions.Pairwise before) :
    exists found, sortBy data.header key (data.rowsAt positions) = .ok (data.rowsAt found) ∧
      found.Perm positions ∧ found.Pairwise fun i j =>
        Precedes key.reverse (data.cellIn key.column i) (data.cellIn key.column j) ∨
          ((data.cellIn key.column i).place = (data.cellIn key.column j).place ∧ before i j) := by
  have hwide : forall row, row ∈ data.rowsAt positions -> row.length = data.header.length :=
    fun row hrow => hwidth row (mem_rows_of_mem_rowsAt hrow)
  have hcells : forall row, row ∈ data.rowsAt positions ->
      (cellAt (data.header.idxOf key.column) row).isDiscrete = true :=
    fun row hrow => hkey.cells row (mem_rows_of_mem_rowsAt hrow)
  rcases key with ⟨column, _ | _⟩
  · rcases exists_sortBy hkey.present hwide hcells with ⟨sorted, hsorted, harrangement⟩
    rcases exists_positions hpositions harrangement with ⟨found, rfl, hfound⟩
    refine ⟨found, hsorted, hfound.perm, ?_⟩
    apply (hfound.pairwise hbefore).imp_of_mem
    rintro i j _ hj (hlt | htie)
    · have hdiscrete := hkey.cellIn (hpositions j ((hfound.mem_iff j).1 hj))
      exact .inl (precedes_of_place_lt hdiscrete hlt)
    · exact .inr htie
  · rcases exists_sortBy_reversed hkey.present hwide hcells with ⟨sorted, hsorted, harrangement⟩
    rcases exists_positions hpositions harrangement with ⟨found, rfl, hfound⟩
    refine ⟨found, hsorted, hfound.perm, ?_⟩
    apply (hfound.pairwise hbefore).imp
    rintro i j (hlt | htie)
    · exact .inl (precedes_of_reversedPlace_lt hlt)
    · exact .inr ⟨place_eq_of_reversedPlace_eq htie.1, htie.2⟩

/-!
# All passes
-/

/-- Sorting by several keys puts the rows in the lexicographic order of the keys, whichever
direction each of them has. -/
theorem exists_sortRows_positions (hwidth : data.HasWidth) {keys : List SortKey}
    (hkeys : forall key, key ∈ keys -> data.SortsDiscretely key.column) :
    exists found, sortRows data.header data.rows keys = .ok (data.rowsAt found) ∧
      found.Perm (List.range data.nrows) ∧ found.Pairwise (data.SortsBefore keys) := by
  induction keys with
  | nil =>
      refine ⟨List.range data.nrows, ?_, .rfl, List.pairwise_lt_range⟩
      exact congrArg Except.ok (filterMap_getElem?_range data.rows).symm
  | cons key keys ih =>
      rcases List.forall_mem_cons.1 hkeys with ⟨hkey, hrest⟩
      rcases ih hrest with ⟨between, hbetween, hperm, hsorts⟩
      have hrows : data.HasRows between := fun i hi => List.mem_range.1 (hperm.mem_iff.1 hi)
      rcases exists_sortBy_positions hwidth hkey hrows hsorts with
        ⟨found, hfound, hfoundPerm, hfoundSorts⟩
      refine ⟨found, ?_, hfoundPerm.trans hperm, hfoundSorts⟩
      rw [sortRows, hbetween, ok_bind, hfound]

/-!
# Images of rows
-/

/-- Two keys of one direction that find the same cells, the second one in the images of the
rows. -/
structure FindsAlike (header other : List String) (f : List Value -> List Value)
    (rows : List (List Value)) (key another : SortKey) : Prop where
  reverse : another.reverse = key.reverse
  present : key.column ∈ header
  found : another.column ∈ other
  cells : forall row, row ∈ rows ->
    (f row)[other.idxOf another.column]? = row[header.idxOf key.column]?

section Images

variable {header other : List String} {f : List Value -> List Value} {rows : List (List Value)}

theorem mapM_keyedRow_map {i j : Nat} (h : forall row, row ∈ rows -> (f row)[j]? = row[i]?) :
    (rows.map f).mapM (keyedRow j) =
      (rows.mapM (keyedRow i)).map (List.map (Prod.map id f)) := by
  induction rows with
  | nil => rfl
  | cons row rest ih =>
      rcases List.forall_mem_cons.1 h with ⟨hrow, hrest⟩
      have hkeyed : keyedRow j (f row) = (keyedRow i row).map (Prod.map id f) := by
        rw [keyedRow, keyedRow, hrow]
        cases row[i]? <;> rfl
      rw [List.map_cons, List.mapM_cons, List.mapM_cons, hkeyed]
      apply bind_map_eq
      intro entry
      rw [ih hrest]
      apply bind_map_eq
      exact fun _ => rfl

theorem sortKeyed_map (reverse : Bool) (keyed : List (Value × List Value)) :
    sortKeyed reverse (keyed.map (Prod.map id f)) =
      (sortKeyed reverse keyed).map (List.map (Prod.map id f)) := by
  have hsort : forall entries : List (Value × List Value),
      Value.sortOn keyRank (entries.map (Prod.map id f)) =
        (Value.sortOn keyRank entries).map (List.map (Prod.map id f)) :=
    fun entries => Value.sortOn_map (Prod.map id f) keyRank entries
  unfold sortKeyed
  split
  · rw [← List.map_reverse, hsort]
    exact map_map_eq fun _ => List.map_reverse.symm
  · exact hsort keyed

theorem sortBy_agrees {key another : SortKey} (h : FindsAlike header other f rows key another) :
    Agrees (sortBy other another (rows.map f)) ((sortBy header key rows).map (List.map f)) := by
  have hheader : header.contains key.column = true := List.contains_iff_mem.2 h.present
  have hother : other.contains another.column = true := List.contains_iff_mem.2 h.found
  unfold sortBy
  rw [if_pos hheader, if_pos hother, mapM_keyedRow_map h.cells]
  cases rows.mapM (keyedRow (header.idxOf key.column)) with
  | error f => exact .rfl
  | ok keyed =>
      have hpresent : (keyed.map (Prod.map id f)).filter (fun entry => !entry.1.isMissing) =
          (keyed.filter fun entry => !entry.1.isMissing).map (Prod.map id f) := List.filter_map
      have habsent : (keyed.map (Prod.map id f)).filter (fun entry => entry.1.isMissing) =
          (keyed.filter fun entry => entry.1.isMissing).map (Prod.map id f) := List.filter_map
      simp only [Except.map, Outcome.ofFault, ok_bind, hpresent, habsent, h.reverse, sortKeyed_map]
      cases sortKeyed key.reverse (keyed.filter fun entry => !entry.1.isMissing) with
      | error fault => cases fault <;> exact Eq.refl none
      | ok sorted =>
          show some _ = some _
          rw [← List.map_append, List.map_map, List.map_map]
          rfl

theorem FindsAlike.sub {key another : SortKey} (h : FindsAlike header other f rows key another)
    {some : List (List Value)} (hsome : forall row, row ∈ some -> row ∈ rows) :
    FindsAlike header other f some key another :=
  ⟨h.reverse, h.present, h.found, fun row hrow => h.cells row (hsome row hrow)⟩

theorem sortRows_agrees {keys others : List SortKey}
    (h : List.Forall₂ (FindsAlike header other f rows) keys others) :
    Agrees (sortRows other (rows.map f) others)
      ((sortRows header rows keys).map (List.map f)) := by
  induction h with
  | nil => exact .rfl
  | @cons key another keys others hkey _ ih =>
      rw [sortRows, sortRows]
      cases hsorted : sortRows header rows keys with
      | error failure =>
          rw [hsorted] at ih
          cases hother : sortRows other (rows.map f) others with
          | error => exact Eq.refl _
          | ok sorted =>
              rw [hother] at ih
              cases ih
      | ok sorted =>
          rw [hsorted] at ih
          rw [ih.symm.eq_ok rfl]
          exact sortBy_agrees (hkey.sub (mem_of_sortRows hsorted))

end Images

/-!
# Tables with the same cells
-/

theorem exists_rowsAt {rows : List (List Value)} (h : forall row, row ∈ rows -> row ∈ data.rows) :
    exists positions, rows = data.rowsAt positions := by
  induction rows with
  | nil => exact ⟨[], rfl⟩
  | cons row rest ih =>
      rcases List.forall_mem_cons.1 h with ⟨hrow, hrest⟩
      rcases List.mem_iff_getElem?.1 hrow with ⟨i, hi⟩
      rcases ih hrest with ⟨positions, rfl⟩
      refine ⟨i :: positions, ?_⟩
      show _ = (i :: positions).filterMap fun i => data.rows[i]?
      rw [List.filterMap_cons, hi]
      rfl

theorem exists_keep_of_sort {keys : List SortKey} {result : Dataset}
    (h : sort keys data = .ok result) : exists positions, result = data.keep positions := by
  rcases map_eq_ok_iff.1 h with ⟨rows, hrows, rfl⟩
  rcases exists_rowsAt (mem_of_sortRows hrows) with ⟨positions, rfl⟩
  exact ⟨positions, rfl⟩

theorem sort_agrees {other : Dataset} {f : List Value -> List Value} {keys others : List SortKey}
    (hrows : other.rows = data.rows.map f)
    (h : List.Forall₂ (FindsAlike data.header other.header f data.rows) keys others) :
    Agrees (sort others other)
      ((sort keys data).map fun result => { other with rows := result.rows.map f }) := by
  have hsorted := sortRows_agrees h
  rw [← hrows] at hsorted
  have hwith : Agrees (sort others other) _ := hsorted.map
  apply hwith.trans
  unfold sort
  cases sortRows data.header data.rows keys with
  | error failure => exact .rfl
  | ok sorted => exact .rfl

theorem keep_eq_of_images {other : Dataset} {f : List Value -> List Value}
    (hrows : other.rows = data.rows.map f) (positions : List Nat) :
    { other with rows := (data.keep positions).rows.map f } = other.keep positions := by
  have hat : (data.rowsAt positions).map f = other.rowsAt positions := by
    unfold rowsAt
    rw [List.map_filterMap, hrows]
    simp only [List.getElem?_map]
  show { other with rows := (data.rowsAt positions).map f } = _
  rw [hat]
  rfl

end Dataset

/-!
# Columns that stand in for sorting keys

A key that is not a column is computed into one first.  Sorting by such columns does the
same whatever they are called: under reserved names, which are dropped together with the
other reserved columns, or under names of their own, which are dropped by name.
-/

namespace Dataset

variable {base : Dataset} {names others : List String} {columns : List (List Value)}

/-!
# Names for new columns
-/

/-- New names for columns with a value for each row. -/
structure Labels (base : Dataset) (names : List String) (columns : List (List Value)) : Prop where
  fresh : base.AreFresh names
  length : columns.length = names.length
  fits : forall column, column ∈ columns -> column.length = base.nrows

namespace Labels

theorem map_fst (h : base.Labels names columns) : (names.zip columns).map Prod.fst = names :=
  List.map_fst_zip h.length.ge

theorem map_snd (h : base.Labels names columns) : (names.zip columns).map Prod.snd = columns :=
  List.map_snd_zip h.length.le

theorem zip_fits (h : base.Labels names columns) : base.Fits (names.zip columns) :=
  fun entry hentry => h.fits entry.2 (List.of_mem_zip hentry).2

theorem zip_fresh (h : base.Labels names columns) :
    base.AreFresh ((names.zip columns).map Prod.fst) := by
  rw [h.map_fst]
  exact h.fresh

theorem header (h : base.Labels names columns) :
    (base.setColumns (names.zip columns)).header = base.header ++ names := by
  rw [setColumns_header h.zip_fresh, h.map_fst]

theorem nodup (h : base.Labels names columns) (hbase : base.IsRegular) :
    (base.header ++ names).Nodup :=
  List.nodup_append.2
    ⟨hbase.nodup, h.fresh.1, fun _ hname _ hother heq => h.fresh.2 _ hother (heq ▸ hname)⟩

theorem rows_eq (h : base.Labels names columns) (hothers : base.Labels others columns) :
    (base.setColumns (others.zip columns)).rows = (base.setColumns (names.zip columns)).rows :=
  setColumns_rows_eq rfl rfl hothers.zip_fresh h.zip_fresh (hothers.map_snd.trans h.map_snd.symm)

end Labels

/-!
# Keys under either name
-/

/-- Names for the same columns, reserved ones and others. -/
structure AreStandIns (base : Dataset) (names others : List String)
    (columns : List (List Value)) : Prop where
  left : base.Labels names columns
  right : base.Labels others columns
  reserved : forall name, name ∈ names -> isReserved name = true
  unreserved : forall name, name ∈ others -> isReserved name = false

/-- Two keys of one direction: by the same column that is not reserved, or by columns whose names
stand for one another. -/
structure IsStandIn (base : Dataset) (names others : List String) (key another : SortKey) :
    Prop where
  reverse : another.reverse = key.reverse
  column : (another.column = key.column ∧ key.column ∈ base.header ∧
    isReserved key.column = false) ∨ (key.column, another.column) ∈ names.zip others

variable {key another : SortKey}

namespace IsStandIn

theorem mem_names (h : base.IsStandIn names others key another) :
    key.column ∈ base.header ++ names := by
  rcases h.column with ⟨_, hkey, _⟩ | hpair
  · exact List.mem_append_left _ hkey
  · exact List.mem_append_right _ (List.of_mem_zip hpair).1

theorem mem_others (h : base.IsStandIn names others key another) :
    another.column ∈ base.header ++ others := by
  rcases h.column with ⟨hsame, hkey, _⟩ | hpair
  · exact List.mem_append_left _ (hsame ▸ hkey)
  · exact List.mem_append_right _ (List.of_mem_zip hpair).2

theorem unreserved (h : base.IsStandIn names others key another)
    (hnames : base.AreStandIns names others columns) : isReserved another.column = false := by
  rcases h.column with ⟨hsame, _, hkey⟩ | hpair
  · exact hsame ▸ hkey
  · exact hnames.unreserved another.column (List.of_mem_zip hpair).2

theorem idxOf_eq (h : base.IsStandIn names others key another) (hbase : base.IsRegular)
    (hnames : base.AreStandIns names others columns) :
    (base.header ++ names).idxOf key.column = (base.header ++ others).idxOf another.column := by
  rcases h.column with ⟨hsame, hkey, _⟩ | hpair
  · rw [hsame, List.idxOf_append_of_mem hkey, List.idxOf_append_of_mem hkey]
  · exact idxOf_of_mem_zip (hnames.left.nodup hbase) (hnames.right.nodup hbase) hpair

end IsStandIn

/-- The rows of a table under the second names, without the reserved columns, have the cells of the
keys that the rows of the table under the first names have. -/
theorem findsAlike_of_isStandIn (hbase : base.IsRegular)
    (hnames : base.AreStandIns names others columns)
    (h : base.IsStandIn names others key another) :
    FindsAlike (base.header ++ names)
      ((base.setColumns (others.zip columns)).dropped isReserved).header
      (cellsAt (keptColumns isReserved (base.header ++ others)))
      (base.setColumns (names.zip columns)).rows key another := by
  have hkept : isReserved another.column = false := h.unreserved hnames
  have hfound : another.column ∈ base.header ++ others := h.mem_others
  refine ⟨h.reverse, h.mem_names, ?_, ?_⟩
  · rw [mem_dropped_header, hnames.right.header]
    exact ⟨hfound, hkept⟩
  · intro row hrow
    have hlt : (base.header ++ names).idxOf key.column < row.length := by
      rw [(hbase.setColumns _).width row hrow, hnames.left.header]
      exact List.idxOf_lt_length_of_mem h.mem_names
    rw [dropped_header, hnames.right.header, cellsAt, List.getElem?_map,
      keptColumns_idxOf hfound hkept, ← h.idxOf_eq hbase hnames, cellAt_eq hlt]
    rfl

/-- Sorting by columns under reserved names that are dropped afterwards is sorting the table
without reserved columns by the same columns under other names, and dropping these. -/
theorem sort_standIns (hbase : base.IsRegular) (h : base.AreStandIns names others columns)
    {keys more : List SortKey} (hkeys : List.Forall₂ (base.IsStandIn names others) keys more) :
    Agrees
      ((sort keys (base.setColumns (names.zip columns))).map (Dataset.dropped isReserved))
      ((sort more ((base.dropped isReserved).setColumns (others.zip columns))).map
        (Dataset.dropped others.contains)) := by
  have hplain : (base.setColumns (others.zip columns)).dropped isReserved =
      (base.dropped isReserved).setColumns (others.zip columns) :=
    hbase.dropped_setColumns_of_kept hbase.unreserved h.right.zip_fits fun entry hentry =>
      h.unreserved entry.1 (List.of_mem_zip hentry).1
  have hrows : ((base.setColumns (others.zip columns)).dropped isReserved).rows =
      (base.setColumns (names.zip columns)).rows.map
        (cellsAt (keptColumns isReserved (base.header ++ others))) := by
    rw [dropped_eq (hbase.setColumns _).width, ← h.left.rows_eq h.right, ← h.right.header,
      dropColumns_eq]
  have hfinds := hkeys.imp fun _ _ hkey => findsAlike_of_isStandIn hbase h hkey
  rw [← h.left.header] at hfinds
  have hsorted : Agrees _ ((sort more _).map (Dataset.dropped others.contains)) :=
    (sort_agrees hrows hfinds).symm.map
  have hleft : (base.setColumns (names.zip columns)).dropped isReserved =
      base.dropped isReserved :=
    dropped_setColumns hbase.width h.left.zip_fits fun entry hentry =>
      h.reserved entry.1 (List.of_mem_zip hentry).1
  have hright : ((base.dropped isReserved).setColumns (others.zip columns)).dropped
      others.contains = base.dropped isReserved := by
    have hfits : (base.dropped isReserved).Fits (others.zip columns) := by
      intro entry hentry
      rw [dropped_nrows]
      exact h.right.zip_fits entry hentry
    rw [dropped_setColumns (hbase.dropped hbase.unreserved).width hfits]
    · apply dropped_of_none
      intro name hname
      rw [Bool.eq_false_iff, ne_eq, List.contains_iff_mem]
      exact fun hother => h.right.fresh.2 name hother (mem_dropped_header.1 hname).1
    · exact fun entry hentry => List.contains_iff_mem.2 (List.of_mem_zip hentry).1
  rw [← hplain]
  cases hcase : sort keys (base.setColumns (names.zip columns)) with
  | error failure =>
      rw [hcase] at hsorted
      exact hsorted
  | ok result =>
      rcases exists_keep_of_sort hcase with ⟨positions, rfl⟩
      rw [hcase] at hsorted
      -- on either side these are the rows of the table at the same positions
      have hsame : Dataset.dropped others.contains
            { (base.setColumns (others.zip columns)).dropped isReserved with
              rows := ((base.setColumns (names.zip columns)).keep positions).rows.map
                (cellsAt (keptColumns isReserved (base.header ++ others))) } =
          ((base.setColumns (names.zip columns)).keep positions).dropped isReserved := by
        rw [keep_eq_of_images hrows, dropped_keep, dropped_keep, hplain, hleft, hright]
      exact (congrArg some hsame.symm).trans hsorted

end Dataset
end Wrangle
