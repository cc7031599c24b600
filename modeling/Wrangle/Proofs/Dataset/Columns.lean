import Mathlib.Data.List.Nodup
import Wrangle.Dataset.Computation

/-!
# Columns and cells

Where column names are distinct and rows as wide as the header, a column has the
cells that its rows have at its place, and setting a column changes no cell of
another one.
-/

namespace Wrangle
namespace Dataset

/-!
# Cells
-/

/-- Every row has a cell for each column. -/
def HasWidth (data : Dataset) : Prop :=
  forall row, row ∈ data.rows -> row.length = data.header.length

@[simp] theorem cellAt_zero (value : Value) (row : List Value) : cellAt 0 (value :: row) = value :=
  rfl

@[simp] theorem cellAt_succ (i : Nat) (value : Value) (row : List Value) :
    cellAt (i + 1) (value :: row) = cellAt i row := by
  simp [cellAt]

theorem cellAt_eq {row : List Value} {i : Nat} (h : i < row.length) :
    row[i]? = some (cellAt i row) := by
  simp [cellAt, h]

theorem zip_filter_of_notMem {header : List String} {name : String} (h : name ∉ header)
    (row : List Value) : (header.zip row).filter (fun entry => entry.1 == name) = [] := by
  rw [List.filter_eq_nil_iff]
  rintro ⟨other, value⟩ hentry hname
  have hother : other ∈ header := (List.of_mem_zip hentry).1
  exact h (beq_iff_eq.1 hname ▸ hother)

theorem cellsNamed_of_mem {header : List String} {row : List Value} {name : String}
    (hnodup : header.Nodup) (hlength : row.length = header.length) (hname : name ∈ header) :
    cellsNamed header name row = [cellAt (header.idxOf name) row] := by
  rw [cellsNamed, ← hlength, fitted_of_length]
  induction header generalizing row with
  | nil => cases hname
  | cons first rest ih =>
      cases row with
      | nil => cases hlength
      | cons value row =>
          rw [List.nodup_cons] at hnodup
          by_cases hfirst : first = name
          · subst hfirst
            simp [zip_filter_of_notMem hnodup.1]
          · have hrest : name ∈ rest := (List.mem_cons.1 hname).resolve_left (Ne.symm hfirst)
            have ih := ih hnodup.2 (Nat.succ.inj hlength) hrest
            simpa [hfirst, List.idxOf_cons_ne rest hfirst] using ih

theorem valuesNamed_eq {data : Dataset} (hnodup : data.header.Nodup) (hwidth : data.HasWidth)
    {name : String} (hname : name ∈ data.header) :
    data.valuesNamed name = data.firstColumn name := by
  have hcells : forall rows : List (List Value),
      (forall row, row ∈ rows -> row.length = data.header.length) ->
      rows.flatMap (cellsNamed data.header name) =
        rows.map (cellAt (data.header.idxOf name)) := by
    intro rows
    induction rows with
    | nil =>
        intro _
        rfl
    | cons row rest ih =>
        intro hrows
        rw [List.flatMap_cons, List.map_cons,
          cellsNamed_of_mem hnodup (hrows row (List.mem_cons_self ..)) hname,
          ih fun other hother => hrows other (List.mem_cons_of_mem _ hother)]
        rfl
  exact hcells data.rows hwidth

theorem eraseDups_of_nodup {names : List String} (h : names.Nodup) : names.eraseDups = names := by
  induction names with
  | nil => rfl
  | cons name rest ih =>
      rw [List.nodup_cons] at h
      have hrest : (rest.filter fun other => !other == name) = rest := by
        rw [List.filter_eq_self]
        intro other hother
        have hne : other ≠ name := by
          rintro rfl
          exact h.1 hother
        simp [hne]
      rw [List.eraseDups_cons, hrest, ih h.2]

theorem columns_eq {data : Dataset} (hnodup : data.header.Nodup) (hwidth : data.HasWidth) :
    data.columns = data.header.map fun name => (name, data.firstColumn name) := by
  rw [columns_eq_valuesNamed, eraseDups_of_nodup hnodup]
  apply List.map_congr_left
  intro name hname
  rw [valuesNamed_eq hnodup hwidth hname]

theorem mem_columns_iff {data : Dataset} {name : String} :
    name ∈ data.columns.map Prod.fst <-> name ∈ data.header := by
  simp [columns_eq_valuesNamed]

theorem lookup_restricted (columns : List (String × List Value)) (rows : List Nat) (name : String) :
    (restricted columns rows).lookup name = (columns.lookup name).map (cellsAt rows) := by
  unfold restricted
  induction columns with
  | nil => rfl
  | cons column rest ih =>
      rw [List.map_cons, List.lookup_cons, List.lookup_cons, ih]
      cases name == column.1 with
      | true => rfl
      | false => rfl

/-!
# Tables of columns
-/

theorem eraseDups_replicate (n : Nat) (size : Nat) :
    (List.replicate (n + 1) size).eraseDups = [size] := by
  rw [List.replicate_succ, List.eraseDups_cons]
  have hnone : (List.replicate n size).filter (fun other => !other == size) = [] := by
    rw [List.filter_eq_nil_iff]
    intro other hother
    simp [List.eq_of_mem_replicate hother]
  rw [hnone]
  rfl

theorem ofColumns_nil : ofColumns [] = .ok (flat [] []) := by
  show Except.ok (flat (tables.ofColumns [] []).header (tables.ofColumns [] []).rows) = _
  rw [tables.ofColumns_nil]

theorem ofColumns_eq {columns : List (String × List Value)} {n : Nat} (hsome : columns ≠ [])
    (h : forall column, column ∈ columns -> column.2.length = n) :
    ofColumns columns =
      .ok (flat (columns.map Prod.fst) ((List.range n).map (rowOf (columns.map Prod.snd)))) := by
  have hlengths : ((columns.map Prod.snd).map List.length).eraseDups = [n] := by
    cases columns with
    | nil => exact absurd rfl hsome
    | cons first rest =>
        have hall : ((first :: rest).map Prod.snd).map List.length =
            List.replicate (rest.length + 1) n := by
          rw [List.map_map, List.eq_replicate_iff]
          refine ⟨List.length_map _, ?_⟩
          intro size hsize
          rcases List.mem_map.1 hsize with ⟨column, hcolumn, rfl⟩
          exact h column hcolumn
        rw [hall, eraseDups_replicate]
  have htable := tables.ofColumns_eq (columns.map Prod.fst) (columns.map Prod.snd) n
    (by simpa using hsome) (List.forall_mem_map.2 h)
  unfold ofColumns
  simp only [hlengths, htable]

theorem exists_of_ofColumns {columns : List (String × List Value)} {result : Dataset}
    (h : ofColumns columns = .ok result) :
    exists n, (columns = [] -> n = 0) ∧ (forall column, column ∈ columns -> column.2.length = n) ∧
      result = flat (columns.map Prod.fst) ((List.range n).map (rowOf (columns.map Prod.snd))) := by
  cases columns with
  | nil =>
      rw [ofColumns_nil] at h
      cases h
      exact ⟨0, fun _ => rfl, List.forall_mem_nil _, rfl⟩
  | cons first rest =>
      have hmem : forall column, column ∈ first :: rest ->
          column.2.length ∈ (((first :: rest).map Prod.snd).map List.length).eraseDups :=
        fun column hcolumn =>
          List.mem_eraseDups.2 (List.mem_map_of_mem (List.mem_map_of_mem hcolumn))
      have hlength : forall column, column ∈ first :: rest ->
          column.2.length = first.2.length := by
        intro column hcolumn
        have hcolumn := hmem column hcolumn
        have hfirst := hmem first List.mem_cons_self
        unfold ofColumns at h
        dsimp only at h
        split at h
        · rename_i hnone
          rw [hnone] at hfirst
          cases hfirst
        · rename_i size hsize
          rw [hsize, List.mem_singleton] at hcolumn hfirst
          rw [hcolumn, hfirst]
        · cases h
      rw [ofColumns_eq (List.cons_ne_nil first rest) hlength] at h
      cases h
      refine ⟨_, ?_, hlength, rfl⟩
      intro hnone
      cases hnone

/-!
# Renaming columns
-/

/-- Where nothing is said of positions, a new name depends on the old one only. -/
theorem newName_of_names {mapping : List (ColumnRef × String)}
    (h : forall i, mapping.lookup (.position i) = none) :
    ColumnRef.newName mapping =
      (fun name => (mapping.lookup (.name name)).getD name) ∘ Prod.fst := by
  funext entry
  rw [ColumnRef.newName, h, Option.or_none]
  rfl

theorem renameColumns_eq {data : Dataset} {mapping : List (ColumnRef × String)}
    (h : forall entry, entry ∈ mapping -> data.hasColumn entry.1 = true) :
    data.renameColumns mapping =
      { header := data.header.zipIdx.map (ColumnRef.newName mapping)
        rows := data.rows
        groups := data.groups.map fun name => (mapping.lookup (.name name)).getD name } := by
  rw [renameColumns, tables.rename_eq data.table mapping h]
  rfl

/-!
# Setting a column
-/

/-- The header with a column, which is put at the end if it is new. -/
def headerWith (header : List String) (name : String) : List String :=
  if header.contains name then header else header ++ [name]

def rowWith (header : List String) (name : String) (row : List Value) (value : Value) :
    List Value :=
  if header.contains name then (fitted header.length row).set (header.idxOf name) value
  else insertCell header.length value row

theorem setColumn_eq (data : Dataset) (name : String) (values : List Value) :
    data.setColumn name values =
      { header := headerWith data.header name
        rows := List.zipWith (rowWith data.header name) data.rows values
        groups := data.groups } := by
  unfold setColumn headerWith
  split
  · rename_i h
    have hrow : rowWith data.header name = fun row value =>
        (fitted data.width row).set (data.header.idxOf name) value := by
      funext row value
      rw [rowWith, if_pos h, width]
    rw [hrow]
  · rename_i h
    have hrow : rowWith data.header name = fun row value => insertCell data.width value row := by
      funext row value
      rw [rowWith, if_neg h, width]
    rw [hrow]

@[simp] theorem setColumn_header (data : Dataset) (name : String) (values : List Value) :
    (data.setColumn name values).header = headerWith data.header name := by
  rw [setColumn_eq]

@[simp] theorem setColumn_groups (data : Dataset) (name : String) (values : List Value) :
    (data.setColumn name values).groups = data.groups := by
  rw [setColumn_eq]

@[simp] theorem setColumn_rows (data : Dataset) (name : String) (values : List Value) :
    (data.setColumn name values).rows =
      List.zipWith (rowWith data.header name) data.rows values := by
  rw [setColumn_eq]

theorem map_setColumn_rows {alpha : Type} {data : Dataset} {name : String} {values : List Value}
    (hvalues : values.length = data.nrows) {f g : List Value -> alpha}
    (h : forall row, row ∈ data.rows -> forall value,
      f (rowWith data.header name row value) = g row) :
    (data.setColumn name values).rows.map f = data.rows.map g := by
  have hlength : (data.setColumn name values).rows.length = data.rows.length :=
    setColumn_nrows data name values hvalues
  apply List.ext_getElem
  · rw [List.length_map, List.length_map, hlength]
  · intro i hi hi'
    rw [List.length_map] at hi'
    simp only [List.getElem_map, setColumn_rows, List.getElem_zipWith]
    exact h _ (List.getElem_mem hi') _

theorem mem_headerWith_iff {header : List String} {name other : String} :
    other ∈ headerWith header name <-> other ∈ header ∨ other = name := by
  unfold headerWith
  split
  · rename_i h
    constructor
    · exact Or.inl
    · rintro (h' | rfl)
      · exact h'
      · simpa using h
  · simp

theorem headerWith_nodup {header : List String} (h : header.Nodup) (name : String) :
    (headerWith header name).Nodup := by
  unfold headerWith
  split
  · exact h
  · rename_i hname
    have hname : name ∉ header := by simpa using hname
    rw [List.nodup_append]
    refine ⟨h, List.nodup_singleton name, ?_⟩
    intro other hother last hlast
    rw [List.mem_singleton.1 hlast]
    rintro rfl
    exact hname hother

section RowWith

variable {header : List String} {row : List Value}

theorem rowWith_eq (hlength : row.length = header.length) (name : String) (value : Value) :
    rowWith header name row value =
      if header.contains name then row.set (header.idxOf name) value else row ++ [value] := by
  unfold rowWith insertCell
  split
  · rw [← hlength, fitted_of_length]
  · rw [← hlength, List.take_length, List.drop_length]

theorem rowWith_length (hlength : row.length = header.length) (name : String) (value : Value) :
    (rowWith header name row value).length = (headerWith header name).length := by
  rw [rowWith_eq hlength]
  unfold headerWith
  split
  · rw [List.length_set, hlength]
  · rw [List.length_append, List.length_append, hlength]
    rfl

theorem cellAt_rowWith (hlength : row.length = header.length) {name other : String}
    (hother : other ∈ header) (hne : other ≠ name) (value : Value) :
    cellAt ((headerWith header name).idxOf other) (rowWith header name row value) =
      cellAt (header.idxOf other) row := by
  rw [rowWith_eq hlength]
  unfold headerWith
  split
  · rename_i h
    have hidx : header.idxOf name ≠ header.idxOf other := by
      intro heq
      have hname : name ∈ header := by simpa using h
      exact hne ((List.idxOf_inj hother).1 heq.symm)
    rw [cellAt, List.getElem?_set_ne hidx, cellAt]
  · have hlt : header.idxOf other < row.length := by
      rw [hlength]
      exact List.idxOf_lt_length_of_mem hother
    rw [List.idxOf_append_of_mem hother, cellAt, List.getElem?_append_left hlt, cellAt]

end RowWith

theorem setColumn_hasWidth {data : Dataset} (h : data.HasWidth) (name : String)
    (values : List Value) : (data.setColumn name values).HasWidth := by
  rw [setColumn_eq]
  intro row hrow
  rcases List.mem_iff_getElem.1 hrow with ⟨i, hi, rfl⟩
  rw [List.getElem_zipWith]
  exact rowWith_length (h _ (List.getElem_mem _)) name _

end Dataset
end Wrangle
