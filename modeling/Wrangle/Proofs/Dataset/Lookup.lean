import Wrangle.Proofs.Dataset.Reducing
import Wrangle.Proofs.Dataset.Shape
import Wrangle.Proofs.Expr.Evaluation

/-!
# Columns by name

A table is made up of its columns: tables with the same columns under the same header
are the same.  What the groups of a table are depends on the columns of its keys, and
what an assignment computes on the columns that it mentions.
-/

namespace Wrangle
namespace Dataset

/-- Distinct columns, rows as wide as the header, and unreserved keys that are columns. -/
structure IsRegular (data : Dataset) : Prop where
  nodup : data.header.Nodup
  width : data.HasWidth
  keys : forall key, key ∈ data.groups -> key ∈ data.header
  unreserved : forall key, key ∈ data.groups -> isReserved key = false

variable {callers : CallerFunctions} {data left right : Dataset}

/-!
# Looking columns up
-/

theorem lookup_map_self {alpha beta : Type} [DecidableEq alpha] {names : List alpha}
    {values : alpha -> beta} {name : alpha} :
    (names.map fun name => (name, values name)).lookup name =
      if name ∈ names then some (values name) else none := by
  induction names with
  | nil => rfl
  | cons first rest ih =>
      rw [List.map_cons, List.lookup_cons, ih]
      by_cases hname : name = first
      · subst hname
        simp
      · have hne : (name == first) = false := by simpa using hname
        rw [hne]
        simp [hname]

theorem IsRegular.lookup_columns (h : data.IsRegular) (name : String) :
    data.columns.lookup name =
      if name ∈ data.header then some (data.firstColumn name) else none := by
  rw [columns_eq h.nodup h.width, lookup_map_self]

theorem firstColumn_length (name : String) : (data.firstColumn name).length = data.nrows :=
  List.length_map ..

theorem firstColumn_setColumn (hwidth : data.HasWidth) {name : String} {values : List Value}
    (hvalues : values.length = data.nrows) :
    (data.setColumn name values).firstColumn name = values := by
  have hcell : forall (row : List Value) (value : Value), row.length = data.header.length ->
      cellAt ((headerWith data.header name).idxOf name) (rowWith data.header name row value) =
        value := by
    intro row value hrow
    rw [rowWith_eq hrow]
    unfold headerWith
    split
    · rename_i hname
      have hlt : data.header.idxOf name < row.length := by
        rw [hrow]
        exact List.idxOf_lt_length_of_mem (by simpa using hname)
      simp [cellAt, hlt]
    · rename_i hname
      have hidx : (data.header ++ [name]).idxOf name = row.length := by
        rw [List.idxOf_append_of_notMem (by simpa using hname), hrow]
        simp
      simp [cellAt, hidx]
  unfold firstColumn
  rw [setColumn_header, setColumn_rows]
  apply List.ext_getElem
  · rw [List.length_map, List.length_zipWith, hvalues]
    exact Nat.min_self _
  · intro i hi hi'
    rw [List.getElem_map, List.getElem_zipWith]
    exact hcell _ _ (hwidth _ (List.getElem_mem _))

theorem firstColumn_setColumn_of_ne (hwidth : data.HasWidth) {name other : String}
    (hother : other ∈ data.header) (hne : other ≠ name) {values : List Value}
    (hvalues : values.length = data.nrows) :
    (data.setColumn name values).firstColumn other = data.firstColumn other := by
  unfold firstColumn
  apply map_setColumn_rows hvalues
  intro row hrow value
  rw [setColumn_header]
  exact cellAt_rowWith (hwidth row hrow) hother hne value

theorem IsRegular.setColumn (h : data.IsRegular) (name : String) (values : List Value) :
    (data.setColumn name values).IsRegular := by
  constructor
  · rw [setColumn_header]
    exact headerWith_nodup h.nodup name
  · exact setColumn_hasWidth h.width name values
  · rw [setColumn_groups, setColumn_header]
    exact fun key hkey => mem_headerWith_iff.2 (Or.inl (h.keys key hkey))
  · rw [setColumn_groups]
    exact h.unreserved

theorem IsRegular.lookup_setColumn (h : data.IsRegular) {name : String} {values : List Value}
    (hvalues : values.length = data.nrows) (other : String) :
    (data.setColumn name values).columns.lookup other =
      if other = name then some values else data.columns.lookup other := by
  rw [(h.setColumn name values).lookup_columns, h.lookup_columns]
  simp only [setColumn_header, mem_headerWith_iff]
  by_cases hname : other = name
  · subst hname
    rw [if_pos (Or.inr rfl), if_pos rfl, firstColumn_setColumn h.width hvalues]
  · by_cases hother : other ∈ data.header
    · rw [if_pos (Or.inl hother), if_neg hname, if_pos hother,
        firstColumn_setColumn_of_ne h.width hother hname hvalues]
    · simp [hname, hother]

/-!
# Tables with the same columns
-/

theorem IsRegular.rows_eq (h : data.IsRegular) :
    data.rows = (List.range data.nrows).map (rowOf (data.header.map data.firstColumn)) := by
  apply List.ext_getElem
  · simp [nrows]
  · intro i hi hi'
    rw [List.getElem_map, List.getElem_range, rowOf_firstColumns h.nodup h.width hi]

theorem eq_of_columns (hl : left.IsRegular) (hr : right.IsRegular)
    (hheader : left.header = right.header) (hgroups : left.groups = right.groups)
    (hnrows : left.nrows = right.nrows)
    (hcolumns : forall name, name ∈ left.header ->
      left.columns.lookup name = right.columns.lookup name) : left = right := by
  have hfirst : left.header.map left.firstColumn = right.header.map right.firstColumn := by
    rw [← hheader]
    apply List.map_congr_left
    intro name hname
    have hcolumn := hcolumns name hname
    rw [hl.lookup_columns, hr.lookup_columns, if_pos hname, if_pos (hheader ▸ hname)] at hcolumn
    exact Option.some.inj hcolumn
  have hrows : left.rows = right.rows := by
    rw [hl.rows_eq, hr.rows_eq, hnrows, hfirst]
  rcases left with ⟨header, rows, groups⟩
  rcases right with ⟨header', rows', groups'⟩
  dsimp only at hheader hgroups hrows
  rw [hheader, hgroups, hrows]

def checkedKey (key : List Value) : Except Fault (List Value) :=
  if Value.allCanBeKeys key then .ok key else .error .badType

theorem IsRegular.rowKeys_eq (h : data.IsRegular) :
    data.rowKeys = (data.rows.map data.keyOf).mapM checkedKey := by
  rw [List.mapM_map]
  have hrow : forall row, row ∈ data.rows ->
      rowKey data.keyIndices row = checkedKey (data.keyOf row) := by
    intro row hrow
    have hcells : keyCells row data.keyIndices = .ok (data.keyOf row) := by
      apply keyCells_eq
      intro i hi
      rcases List.mem_map.1 hi with ⟨key, hkey, rfl⟩
      rw [h.width row hrow]
      exact List.idxOf_lt_length_of_mem (h.keys key hkey)
    rw [rowKey, hcells]
    rfl
  unfold rowKeys
  generalize data.rows = rows at hrow
  induction rows with
  | nil => rfl
  | cons row rest ih =>
      rw [List.mapM_cons, List.mapM_cons, hrow row (List.mem_cons_self ..),
        ih fun other hother => hrow other (List.mem_cons_of_mem _ hother)]
      rfl

theorem keys_eq : data.rows.map data.keyOf =
    (List.range data.nrows).map (rowOf (data.groups.map data.firstColumn)) := by
  apply List.ext_getElem
  · simp [nrows]
  · intro i hi hi'
    rw [List.length_map] at hi
    rw [List.getElem_map, List.getElem_map, List.getElem_range]
    unfold keyOf keyIndices cellsAt rowOf
    rw [List.map_map, List.map_map]
    apply List.map_congr_left
    intro key _
    simp [firstColumn, cellAt, hi]

theorem partitions_congr (hl : left.IsRegular) (hr : right.IsRegular)
    (hgroups : left.groups = right.groups) (hnrows : left.nrows = right.nrows)
    (hcolumns : forall key, key ∈ left.groups ->
      left.columns.lookup key = right.columns.lookup key) :
    left.partitions = right.partitions := by
  have hkeys : left.groups.map left.firstColumn = right.groups.map right.firstColumn := by
    rw [← hgroups]
    apply List.map_congr_left
    intro key hkey
    have hcolumn := hcolumns key hkey
    rw [hl.lookup_columns, hr.lookup_columns, if_pos (hl.keys key hkey),
      if_pos (hr.keys key (hgroups ▸ hkey))] at hcolumn
    exact Option.some.inj hcolumn
  unfold partitions isGrouped
  rw [hl.rowKeys_eq, hr.rowKeys_eq, keys_eq, keys_eq, hkeys, hgroups, hnrows]

theorem IsRegular.partitions_setColumn (h : data.IsRegular) {name : String}
    (hname : name ∉ data.groups) {values : List Value} (hvalues : values.length = data.nrows) :
    (data.setColumn name values).partitions = data.partitions := by
  apply partitions_congr (h.setColumn name values) h (setColumn_groups ..)
    (setColumn_nrows data name values hvalues)
  intro key hkey
  rw [setColumn_groups] at hkey
  rw [h.lookup_setColumn hvalues, if_neg]
  rintro rfl
  exact hname hkey

/-!
# Computed columns
-/

theorem putEntry_of_notMem {alpha : Type} {entries : List (String × alpha)}
    {entry : String × alpha} (h : entry.1 ∉ entries.map Prod.fst) :
    putEntry entries entry = entries ++ [entry] := by
  rw [putEntry, if_neg]
  intro hold
  rcases List.any_eq_true.1 hold with ⟨old, hold, hname⟩
  exact h (beq_iff_eq.1 hname ▸ List.mem_map_of_mem hold)

theorem lookup_putEntry_of_ne {alpha : Type} {entries : List (String × alpha)}
    {entry : String × alpha} {name : String} (h : name ≠ entry.1) :
    (putEntry entries entry).lookup name = entries.lookup name := by
  have hne : (name == entry.1) = false := by simpa using h
  unfold putEntry
  split
  · clear * - hne
    induction entries with
    | nil => rfl
    | cons old rest ih =>
        rw [List.map_cons, List.lookup_cons, List.lookup_cons, ih]
        by_cases hold : old.1 == entry.1
        · rw [if_pos hold, hne, beq_iff_eq.1 hold, hne]
        · rw [if_neg hold]
  · rw [List.lookup_append, List.lookup_cons, hne]
    simp

theorem lookup_putEntry_self {alpha : Type} (entries : List (String × alpha))
    (entry : String × alpha) : (putEntry entries entry).lookup entry.1 = some entry.2 := by
  unfold putEntry
  by_cases hany : (entries.any fun old => old.1 == entry.1) = true
  · rw [if_pos hany]
    induction entries with
    | nil => cases hany
    | cons old rest ih =>
        rw [List.map_cons, List.lookup_cons]
        by_cases hold : old.1 = entry.1
        · rw [if_pos (beq_iff_eq.2 hold), beq_self_eq_true]
        · have hne : (old.1 == entry.1) = false := by simpa using hold
          have hother : (entry.1 == old.1) = false := by simpa using Ne.symm hold
          rw [List.any_cons, hne, Bool.false_or] at hany
          rw [if_neg (by simpa using hold), hother]
          exact ih hany
  · rw [if_neg hany, List.lookup_append, List.lookup_eq_none_iff.2]
    · rw [List.lookup_cons, beq_self_eq_true]
      rfl
    · intro old hold
      rw [bne_iff_ne]
      rintro heq
      exact hany (List.any_eq_true.2 ⟨old, hold, beq_iff_eq.2 heq.symm⟩)

theorem frame_sameOn {columns others : List (String × List Value)} {names : List String}
    (h : forall name, name ∈ names -> columns.lookup name = others.lookup name)
    (rows : List Nat) : (frame columns rows).SameOn names (frame others rows) := by
  constructor
  · rfl
  · intro name hname
    unfold Frame.column? frame
    dsimp only
    rw [lookup_restricted, lookup_restricted, h name hname]

theorem placedValues_congr {columns others : List (String × List Value)} {assign : Assign}
    (h : forall name, name ∈ assign.expr.mentions -> columns.lookup name = others.lookup name)
    (groups : List Partition) :
    placedValues callers columns assign groups = placedValues callers others assign groups := by
  induction groups with
  | nil => rfl
  | cons group rest ih =>
      rw [placedValues, placedValues, ih]
      unfold groupValues
      rw [Expr.evaluate_congr assign.expr (frame_sameOn h group.rows)]

theorem computed_congr {assign : Assign} (hpartitions : left.partitions = right.partitions)
    (hnrows : left.nrows = right.nrows)
    (hcolumns : forall name, name ∈ assign.expr.mentions ->
      left.columns.lookup name = right.columns.lookup name) :
    left.computed callers assign = right.computed callers assign := by
  unfold computed
  rw [hpartitions, hnrows]
  simp only [placedValues_congr hcolumns]

theorem computed_length {assign : Assign} {values : List Value}
    (h : data.computed callers assign = .ok values) : values.length = data.nrows := by
  rcases bind_eq_ok_iff.1 h with ⟨groups, _, h⟩
  rcases bind_eq_ok_iff.1 h with ⟨placed, _, h⟩
  cases h
  exact scattered_length ..

/-!
# Dropped columns
-/

section Dropped

variable {test : String -> Bool}

theorem dropped_header :
    (data.dropped test).header = data.header.filter fun name => !test name := by
  have hkept : forall (names : List String) (n : Nat) (before : List String), before.length = n ->
      (((names.zipIdx n).filter fun entry => !test entry.1).map Prod.snd).filterMap
        (fun i => (before ++ names)[i]?) = names.filter fun name => !test name := by
    intro names
    induction names with
    | nil =>
        intro n before _
        rfl
    | cons name rest ih =>
        intro n before hn
        have hrest := ih (n + 1) (before ++ [name]) (by simp [hn])
        rw [List.append_assoc, List.singleton_append] at hrest
        rw [List.zipIdx_cons, List.filter_cons, List.filter_cons]
        dsimp only
        split
        · rw [List.map_cons, List.filterMap_cons, hrest]
          simp [← hn]
        · exact hrest
  unfold dropped
  split
  · rw [dropColumns_header]
    exact hkept data.header 0 [] rfl
  · rename_i hnone
    symm
    rw [List.filter_eq_self]
    intro name hname
    cases htest : test name with
    | false => rfl
    | true => exact absurd (List.any_eq_true.2 ⟨name, hname, htest⟩) hnone

theorem mem_dropped_header {name : String} :
    name ∈ (data.dropped test).header <-> name ∈ data.header ∧ test name = false := by
  simp [dropped_header]

theorem keptColumns_idxOf {header : List String} {name : String} (hname : name ∈ header)
    (htest : test name = false) :
    (keptColumns test header)[(header.filter fun name => !test name).idxOf name]? =
      some (header.idxOf name) := by
  have hplace : forall n, (((header.zipIdx n).filter fun entry => !test entry.1).map
      Prod.snd)[(header.filter fun name => !test name).idxOf name]? =
        some (n + header.idxOf name) := by
    induction header with
    | nil => cases hname
    | cons first rest ih =>
        intro n
        by_cases hfirst : name = first
        · subst hfirst
          simp [htest]
        · have hrest := ih ((List.mem_cons.1 hname).resolve_left hfirst) (n + 1)
          rw [List.idxOf_cons_ne rest (Ne.symm hfirst), List.zipIdx_cons, List.filter_cons,
            List.filter_cons]
          dsimp only
          split
          · rw [List.idxOf_cons_ne _ (Ne.symm hfirst), List.map_cons, List.getElem?_cons_succ, hrest]
            congr 1
            omega
          · rw [hrest]
            congr 1
            omega
  have hzero := hplace 0
  rwa [Nat.zero_add] at hzero

theorem firstColumn_dropped (h : data.IsRegular) {name : String} (hname : name ∈ data.header)
    (htest : test name = false) : (data.dropped test).firstColumn name = data.firstColumn name := by
  have hrows : (data.dropped test).rows =
      data.rows.map (cellsAt (keptColumns test data.header)) := by
    rw [dropped_eq h.width, dropColumns_eq]
  unfold firstColumn
  rw [dropped_header, hrows, List.map_map]
  apply List.map_congr_left
  intro row _
  rw [Function.comp_apply, cellAt, cellsAt, List.getElem?_map, keptColumns_idxOf hname htest]
  rfl

theorem IsRegular.dropped (h : data.IsRegular)
    (hkeys : forall key, key ∈ data.groups -> test key = false) : (data.dropped test).IsRegular := by
  constructor
  · rw [dropped_header]
    exact h.nodup.filter _
  · rw [dropped_eq h.width, dropColumns_eq_takeColumns]
    exact takeColumns_hasWidth fun _ => lt_of_mem_keptColumns
  · rw [dropped_groups]
    exact fun key hkey => mem_dropped_header.2 ⟨h.keys key hkey, hkeys key hkey⟩
  · rw [dropped_groups]
    exact h.unreserved

theorem IsRegular.lookup_dropped (h : data.IsRegular)
    (hkeys : forall key, key ∈ data.groups -> test key = false) {name : String}
    (htest : test name = false) :
    (data.dropped test).columns.lookup name = data.columns.lookup name := by
  rw [(h.dropped hkeys).lookup_columns, h.lookup_columns]
  simp only [mem_dropped_header, htest, and_true]
  split
  · rename_i hname
    rw [firstColumn_dropped h hname htest]
  · rfl

theorem IsRegular.partitions_dropped (h : data.IsRegular)
    (hkeys : forall key, key ∈ data.groups -> test key = false) :
    (data.dropped test).partitions = data.partitions := by
  apply partitions_congr (h.dropped hkeys) h dropped_groups dropped_nrows
  intro key hkey
  rw [dropped_groups] at hkey
  exact h.lookup_dropped hkeys (hkeys key hkey)

theorem filter_headerWith {header : List String} {name : String} (htest : test name = false) :
    (headerWith header name).filter (fun name => !test name) =
      headerWith (header.filter fun name => !test name) name := by
  have hname : (header.filter fun name => !test name).contains name = header.contains name := by
    rw [Bool.eq_iff_iff, List.contains_iff_mem, List.contains_iff_mem]
    simp [htest]
  unfold headerWith
  rw [hname]
  split
  · rfl
  · rw [List.filter_append]
    simp [htest]

theorem IsRegular.dropped_setColumn_of_kept (h : data.IsRegular)
    (hkeys : forall key, key ∈ data.groups -> test key = false) {name : String}
    (htest : test name = false) {values : List Value} (hvalues : values.length = data.nrows) :
    (data.setColumn name values).dropped test = (data.dropped test).setColumn name values := by
  have hset : forall key, key ∈ (data.setColumn name values).groups -> test key = false := by
    rw [setColumn_groups]
    exact hkeys
  have hlength : values.length = (data.dropped test).nrows := by
    rw [dropped_nrows, hvalues]
  apply eq_of_columns ((h.setColumn name values).dropped hset)
    ((h.dropped hkeys).setColumn name values)
  · rw [dropped_header, setColumn_header, setColumn_header, dropped_header, filter_headerWith htest]
  · rw [dropped_groups, setColumn_groups, setColumn_groups, dropped_groups]
  · rw [dropped_nrows, setColumn_nrows data name values hvalues,
      setColumn_nrows _ name values hlength, dropped_nrows]
  · intro other hother
    have hfalse := (mem_dropped_header.1 hother).2
    rw [(h.setColumn name values).lookup_dropped hset hfalse, h.lookup_setColumn hvalues,
      (h.dropped hkeys).lookup_setColumn hlength, h.lookup_dropped hkeys hfalse]

end Dropped

end Dataset
end Wrangle
