import Mathlib.Data.List.Perm.Subperm
import Wrangle.Dataset.Computation
import Wrangle.Proofs.Dataset.Filtering
import Wrangle.Proofs.Dataset.Shape
import Wrangle.Proofs.Expr.Evaluation
import Wrangle.Proofs.Function.Bare

/-!
# Element-wise expressions

An element-wise expression computes the value of a row from the cells of that row.  On
some rows of a frame it gives the values that it gives for these rows on the whole frame.
-/

namespace Wrangle

open Dataset Value

/-!
# Values of some rows
-/

namespace Value

/-- What a value is on some rows: a column has the cells of these rows, and any other value stays
as it is. -/
def onRows (rows : List Nat) : Value -> Value
  | column items => column (cellsAt rows items)
  | value => value

/-- A column with a value for each of some rows, or a single value. -/
def Fits (n : Nat) (value : Value) : Prop :=
  (exists items, value = column items ∧ items.length = n) ∨ value.isBare = true

theorem Fits.bare {n : Nat} {value : Value} (h : value.isBare = true) : value.Fits n :=
  Or.inr h

@[simp] theorem onRows_column (rows : List Nat) (items : List Value) :
    (column items).onRows rows = column (cellsAt rows items) := rfl

theorem onRows_bare {value : Value} (h : value.isBare = true) (rows : List Nat) :
    value.onRows rows = value := by
  cases value with
  | column items => cases h
  | _ => rfl

theorem map_onRows_bare {values : List Value} (h : AllBare values) (rows : List Nat) :
    values.map (onRows rows) = values := by
  rw [List.map_congr_left (g := id), List.map_id]
  exact fun value hvalue => onRows_bare (h value hvalue) rows

end Value

namespace Expr

/-!
# Rows
-/

section Rows

variable {n : Nat} {rows : List Nat} {values : List Value}

theorem atRow_onRows {j : Nat} (hj : j < rows.length) (value : Value) :
    atRow j (value.onRows rows) = atRow rows[j] value := by
  cases value with
  | column items => simp [atRow, cellsAt, cellAt, hj]
  | _ => rfl

theorem atRow_bare {value : Value} (h : value.isBare = true) (i : Nat) : atRow i value = value := by
  cases value with
  | column items => cases h
  | _ => rfl

theorem map_atRow_onRows {j : Nat} (hj : j < rows.length) :
    (values.map (onRows rows)).map (atRow j) = values.map (atRow rows[j]) := by
  rw [List.map_map]
  exact List.map_congr_left fun value _ => atRow_onRows hj value

theorem eraseDups_of_all_eq {m : Nat} {lengths : List Nat} (h : forall k, k ∈ lengths -> k = m)
    (hsome : lengths ≠ []) : lengths.eraseDups = [m] := by
  cases lengths with
  | nil => exact absurd rfl hsome
  | cons first rest =>
      have hfirst := h first (List.mem_cons_self ..)
      have hrest : (rest.filter fun k => !k == first) = [] := by
        rw [List.filter_eq_nil_iff]
        intro k hk
        rw [h k (List.mem_cons_of_mem _ hk), hfirst]
        simp
      rw [List.eraseDups_cons, hrest, hfirst]
      rfl

theorem mem_columnLengths {k : Nat} : k ∈ values.filterMap columnLength? <->
    exists items, Value.column items ∈ values ∧ items.length = k := by
  constructor
  · intro hk
    rcases List.mem_filterMap.1 hk with ⟨value, hvalue, hlength⟩
    cases value with
    | column items => exact ⟨items, hvalue, Option.some.inj hlength⟩
    | _ => cases hlength
  · intro h
    rcases h with ⟨items, hitems, rfl⟩
    exact List.mem_filterMap.2 ⟨Value.column items, hitems, rfl⟩

theorem rowCount_of_single (h : forall items, Value.column items ∉ values) :
    rowCount values = .ok none := by
  have hnone : values.filterMap columnLength? = [] := by
    rw [List.eq_nil_iff_forall_not_mem]
    intro k hk
    rcases mem_columnLengths.1 hk with ⟨items, hitems, _⟩
    exact h items hitems
  rw [rowCount, hnone]
  rfl

theorem rowCount_of_lengths (h : forall found, Value.column found ∈ values -> found.length = n)
    {items : List Value} (hmem : Value.column items ∈ values) :
    rowCount values = .ok (some n) := by
  have hall : forall k, k ∈ values.filterMap columnLength? -> k = n := by
    intro k hk
    rcases mem_columnLengths.1 hk with ⟨found, hfound, rfl⟩
    exact h found hfound
  have hsome : values.filterMap columnLength? ≠ [] :=
    List.ne_nil_of_mem (mem_columnLengths.2 ⟨items, hmem, rfl⟩)
  rw [rowCount, eraseDups_of_all_eq hall hsome]

theorem lengths_of_rowCount {count : Option Nat} (h : rowCount values = .ok count) :
    exists n, forall items, Value.column items ∈ values -> items.length = n := by
  have hlength : forall items, Value.column items ∈ values ->
      items.length ∈ (values.filterMap columnLength?).eraseDups := by
    intro items hitems
    rw [List.mem_eraseDups]
    exact mem_columnLengths.2 ⟨items, hitems, rfl⟩
  unfold rowCount at h
  split at h
  · rename_i hnone
    refine ⟨0, fun items hitems => ?_⟩
    have hmem := hlength items hitems
    rw [hnone] at hmem
    cases hmem
  · rename_i n hone
    refine ⟨n, fun items hitems => ?_⟩
    have hmem := hlength items hitems
    rw [hone] at hmem
    exact List.mem_singleton.1 hmem
  · cases h

theorem rowCount_of_bare (h : AllBare values) : rowCount values = .ok none :=
  rowCount_of_single fun items hitems => by cases h _ hitems

theorem rowCount_of_column (h : forall value, value ∈ values -> value.Fits n) {items : List Value}
    (hmem : Value.column items ∈ values) : rowCount values = .ok (some n) := by
  apply rowCount_of_lengths _ hmem
  intro found hfound
  rcases h _ hfound with ⟨other, hother, hlength⟩ | hbare
  · cases hother
    exact hlength
  · cases hbare

theorem allBare_or_column (h : forall value, value ∈ values -> value.Fits n) :
    AllBare values ∨ exists items, Value.column items ∈ values := by
  by_cases hbare : AllBare values
  · exact Or.inl hbare
  · right
    simp only [Kept, not_forall] at hbare
    rcases hbare with ⟨value, hvalue, hnot⟩
    rcases h value hvalue with ⟨items, rfl, _⟩ | hbare
    · exact ⟨items, hvalue⟩
    · exact absurd hbare hnot

theorem onRows_fits {value : Value} (h : value.Fits n) (rows : List Nat) :
    (value.onRows rows).Fits rows.length := by
  rcases h with ⟨items, rfl, _⟩ | hbare
  · exact Or.inl ⟨_, rfl, List.length_map ..⟩
  · rw [onRows_bare hbare]
    exact Or.inr hbare

theorem mapM_cells {items : List Nat} {row : Nat -> Outcome Value} {results : List Value}
    (h : items.mapM row = .ok results) :
    results.length = items.length ∧
      forall j, (hj : j < items.length) -> row items[j] = .ok (cellAt j results) := by
  induction items generalizing results with
  | nil =>
      cases h
      refine ⟨rfl, ?_⟩
      intro j hj
      cases hj
  | cons i rest ih =>
      rw [List.mapM_cons] at h
      rcases bind_eq_ok_iff.1 h with ⟨first, hfirst, h⟩
      rcases bind_eq_ok_iff.1 h with ⟨others, hothers, h⟩
      cases h
      rcases ih hothers with ⟨hlength, hcells⟩
      refine ⟨congrArg Nat.succ hlength, ?_⟩
      intro j hj
      cases j with
      | zero => exact hfirst
      | succ j => exact hcells j (Nat.lt_of_succ_lt_succ hj)

theorem overRows_onRows {name : String} {row other : Nat -> Outcome Value} {value : Value}
    (hfits : forall value, value ∈ values -> value.Fits n) (hrows : forall i, i ∈ rows -> i < n)
    (hsingle : AllBare values -> other 0 = row 0 ∧ GivesBare (row 0))
    (heach : forall j, (hj : j < rows.length) -> other j = row rows[j])
    (h : overRows name values row = .ok value) :
    value.Fits n ∧ (AllBare values -> value.isBare = true) ∧
      overRows name (values.map (onRows rows)) other = .ok (value.onRows rows) := by
  rcases allBare_or_column hfits with hbare | ⟨items, hitems⟩
  · rcases hsingle hbare with ⟨hsame, hgives⟩
    rw [overRows, rowCount_of_bare hbare] at h
    rcases map_eq_ok_iff.1 h with ⟨found, hfound, rfl⟩
    rw [hfound] at hgives
    have hsettled := settled_bare hgives name values
    refine ⟨Fits.bare hsettled, fun _ => hsettled, ?_⟩
    rw [map_onRows_bare hbare, onRows_bare hsettled, overRows, rowCount_of_bare hbare]
    show (other 0).map _ = _
    rw [hsame, hfound]
    rfl
  · rw [overRows, rowCount_of_column hfits hitems] at h
    rcases map_eq_ok_iff.1 h with ⟨results, hresults, rfl⟩
    rcases mapM_cells hresults with ⟨hlength, hcells⟩
    rw [List.length_range] at hlength
    refine ⟨Or.inl ⟨results, rfl, hlength⟩, ?_, ?_⟩
    · intro hbare
      cases hbare _ hitems
    · have hfits' : forall value, value ∈ values.map (onRows rows) -> value.Fits rows.length := by
        intro value hvalue
        rcases List.mem_map.1 hvalue with ⟨found, hfound, rfl⟩
        exact onRows_fits (hfits found hfound) rows
      have hcolumn : Value.column (cellsAt rows items) ∈ values.map (onRows rows) :=
        List.mem_map.2 ⟨Value.column items, hitems, rfl⟩
      have hsome : (List.range rows.length).mapM other = .ok (cellsAt rows results) := by
        have hmap : rows = (List.range rows.length).map (placeIn rows) := (map_placeIn rows).symm
        have hcells' : cellsAt rows results =
            (List.range rows.length).map fun j => cellAt (placeIn rows j) results := by
          conv => lhs; rw [hmap]
          exact List.map_map
        rw [hcells']
        apply mapM_eq_ok
        intro j hj
        have hj : j < rows.length := List.mem_range.1 hj
        have hrow : rows[j] < n := hrows _ (List.getElem_mem hj)
        have hcell := hcells rows[j] (by rwa [List.length_range])
        rw [List.getElem_range] at hcell
        rw [heach j hj, hcell, placeIn, List.getElem?_eq_getElem hj]
        rfl
      rw [overRows, rowCount_of_column hfits' hcolumn, ok_bind]
      exact map_eq_ok_iff.2 ⟨_, hsome, rfl⟩

end Rows

/-!
# Calls and branches
-/

section Branches

variable {n : Nat} {rows : List Nat}

theorem elementCall_bare {callers : CallerFunctions} (hcallers : callers.MakeNoColumns)
    (name : String) (f : Function) {values : List Value} (h : AllBare values)
    {named : List (String × Value)} (hnamed : NamedBare named) :
    GivesBare (elementCall callers name f values named) := by
  unfold elementCall
  split
  · rfl
  · have hgives := f.apply_bare hcallers h hnamed
    unfold checkedCall
    split
    · exact (ends_any _).bind_any fun _ => trivial
    · exact hgives

theorem choose_onRows {j : Nat} (hj : j < rows.length) (c y no m : Value) :
    choose j (c.onRows rows) (y.onRows rows) (no.onRows rows) (m.onRows rows) =
      choose rows[j] c y no m := by
  simp only [choose, atRow_onRows hj]

theorem choose_bare {i : Nat} {c y no m : Value} (hy : y.isBare = true) (hno : no.isBare = true)
    (hm : m.isBare = true) : (choose i c y no m).isBare = true := by
  unfold choose
  dsimp only
  split
  · rwa [atRow_bare hm]
  · split
    · rwa [atRow_bare hy]
    · rwa [atRow_bare hno]

theorem firstClause_onRows {j : Nat} (hj : j < rows.length) (otherwise : Value)
    (clauses : List (Value × Value)) :
    firstClause j (otherwise.onRows rows)
        (clauses.map fun clause => (clause.1.onRows rows, clause.2.onRows rows)) =
      firstClause rows[j] otherwise clauses := by
  induction clauses with
  | nil => exact atRow_onRows hj otherwise
  | cons clause rest ih =>
      rw [List.map_cons, firstClause, firstClause, ih, atRow_onRows hj, atRow_onRows hj]

theorem firstClause_bare {i : Nat} {otherwise : Value} (h : otherwise.isBare = true)
    {clauses : List (Value × Value)} (hclauses : forall clause, clause ∈ clauses ->
      clause.2.isBare = true) : (firstClause i otherwise clauses).isBare = true := by
  induction clauses with
  | nil =>
      rw [firstClause, atRow_bare h]
      exact h
  | cons clause rest ih =>
      have hclause := hclauses clause (List.mem_cons_self ..)
      rw [firstClause]
      split
      · rwa [atRow_bare hclause]
      · exact ih fun other hother => hclauses other (List.mem_cons_of_mem _ hother)

theorem mem_branchKinds_of_atRow {i : Nat} {value : Value} {kind : String}
    (h : branchKind? (atRow i value) = some kind) : kind ∈ branchKinds value := by
  cases value with
  | column items =>
      dsimp only [atRow] at h
      cases hi : items[i]? with
      | none =>
          rw [hi] at h
          cases h
      | some found =>
          rw [hi] at h
          exact List.mem_filterMap.2 ⟨found, List.mem_of_getElem? hi, h⟩
  | _ => exact Option.mem_toList.2 h

theorem branchKinds_onRows {value : Value} {kind : String}
    (h : kind ∈ branchKinds (value.onRows rows)) : kind ∈ branchKinds value := by
  cases value with
  | column items =>
      rcases List.mem_filterMap.1 h with ⟨cell, hcell, hkind⟩
      rcases List.mem_map.1 hcell with ⟨i, _, rfl⟩
      exact mem_branchKinds_of_atRow hkind
  | _ => exact h

theorem checkBranches_of_subset {label other : String} {branches others : List Value}
    (hkinds : branches.flatMap branchKinds ⊆ others.flatMap branchKinds)
    (h : checkBranches other others = .ok ()) : checkBranches label branches = .ok () := by
  unfold checkBranches at h ⊢
  dsimp only at h ⊢
  split at h
  · cases h
  · rename_i hone
    rw [if_neg]
    intro hmore
    apply hone
    refine Nat.lt_of_lt_of_le hmore ?_
    apply List.Subperm.length_le
    apply List.Nodup.subperm (eraseDups_nodup _)
    intro kind hkind
    rw [List.mem_eraseDups] at hkind
    rw [List.mem_eraseDups]
    exact hkinds hkind

theorem checkBranches_onRows {label : String} {branches : List Value}
    (h : checkBranches label branches = .ok ()) :
    checkBranches label (branches.map (onRows rows)) = .ok () := by
  apply checkBranches_of_subset _ h
  intro kind hkind
  rw [List.flatMap_map] at hkind
  rcases List.mem_flatMap.1 hkind with ⟨branch, hbranch, hkind⟩
  exact List.mem_flatMap.2 ⟨branch, hbranch, branchKinds_onRows hkind⟩

end Branches

/-!
# Element-wise expressions
-/

mutual

/-- Whether an expression computes the value of a row from the cells of that row: no function sees
whole columns, and a list of values mentions no column. -/
def isElementWise : Expr -> Bool
  | column _ => true
  | literal value => value.isBare
  | values items => areElementWise items && (mentionsAll items).isEmpty
  | functionRef _ _ => true
  | broadcast _ _ args kwargs => areElementWise args && namedAreElementWise kwargs
  | ifElse condition yes no miss =>
      isElementWise condition && isElementWise yes && isElementWise no && isElementWise miss
  | caseWhen clauses none => clausesAreElementWise clauses
  | caseWhen clauses (some otherwise) => clausesAreElementWise clauses && isElementWise otherwise
  | apply _ _ _ _ => false
  | groupSize => false
  | first _ => false

def areElementWise : List Expr -> Bool
  | [] => true
  | e :: rest => isElementWise e && areElementWise rest

def namedAreElementWise : List (String × Expr) -> Bool
  | [] => true
  | (_, e) :: rest => isElementWise e && namedAreElementWise rest

def clausesAreElementWise : List (Expr × Expr) -> Bool
  | [] => true
  | (condition, value) :: rest =>
      isElementWise condition && isElementWise value && clausesAreElementWise rest

end

/-!
# Named values
-/

section Named

variable {n : Nat} {rows : List Nat} {named : List (String × Value)}

def namedOnRows (rows : List Nat) (named : List (String × Value)) : List (String × Value) :=
  named.map fun entry => (entry.1, entry.2.onRows rows)

theorem mem_putNamed {name : String} {value : Value} {entry : String × Value}
    (h : entry ∈ Interpolation.putNamed named name value) :
    entry = (name, value) ∨ entry ∈ named := by
  unfold Interpolation.putNamed at h
  split at h
  · rcases List.mem_map.1 h with ⟨found, hfound, rfl⟩
    split
    · exact Or.inl rfl
    · exact Or.inr hfound
  · rcases List.mem_append.1 h with h | h
    · exact Or.inr h
    · exact Or.inl (List.mem_singleton.1 h)

theorem putNamed_onRows (rows : List Nat) (named : List (String × Value)) (name : String)
    (value : Value) :
    Interpolation.putNamed (namedOnRows rows named) name (value.onRows rows) =
      namedOnRows rows (Interpolation.putNamed named name value) := by
  have hany : ((namedOnRows rows named).any fun entry => entry.1 == name) =
      named.any fun entry => entry.1 == name := by
    rw [namedOnRows, List.any_map]
    rfl
  unfold Interpolation.putNamed
  rw [hany]
  split
  · rw [namedOnRows, namedOnRows, List.map_map, List.map_map]
    apply List.map_congr_left
    intro entry _
    simp only [Function.comp_apply]
    split
    · rfl
    · rfl
  · simp [namedOnRows]

theorem map_snd_namedOnRows (rows : List Nat) (named : List (String × Value)) :
    (namedOnRows rows named).map Prod.snd = (named.map Prod.snd).map (Value.onRows rows) := by
  simp [namedOnRows]

theorem namedOnRows_bare (h : NamedBare named) : namedOnRows rows named = named := by
  rw [namedOnRows, List.map_congr_left (g := id), List.map_id]
  intro entry hentry
  simp only [onRows_bare (h entry hentry), id]

def rowCall (callers : CallerFunctions) (name : String) (f : Function) (values : List Value)
    (named : List (String × Value)) (i : Nat) : Outcome Value :=
  elementCall callers name f (values.map (atRow i))
    (named.map fun entry => (entry.1, atRow i entry.2))

theorem rowCall_onRows {callers : CallerFunctions} {name : String} {f : Function} {j : Nat}
    (hj : j < rows.length) (values : List Value) (named : List (String × Value)) :
    rowCall callers name f (values.map (Value.onRows rows)) (namedOnRows rows named) j =
      rowCall callers name f values named rows[j] := by
  unfold rowCall
  rw [map_atRow_onRows hj, namedOnRows, List.map_map]
  simp only [Function.comp_def, atRow_onRows hj]

theorem rowCall_bare {callers : CallerFunctions} (hcallers : callers.MakeNoColumns)
    {name : String} {f : Function} {values : List Value} (h : AllBare values)
    (hnamed : NamedBare named) (i : Nat) : GivesBare (rowCall callers name f values named i) := by
  apply elementCall_bare hcallers
  · intro value hvalue
    rcases List.mem_map.1 hvalue with ⟨found, hfound, rfl⟩
    rw [atRow_bare (h found hfound)]
    exact h found hfound
  · intro entry hentry
    rcases List.mem_map.1 hentry with ⟨found, hfound, rfl⟩
    dsimp only
    rw [atRow_bare (hnamed found hfound)]
    exact hnamed found hfound

end Named

/-!
# Evaluation on some rows
-/

section Evaluation

variable {callers : CallerFunctions} {columns : List (String × List Value)} {n : Nat}
variable {rows : List Nat}

/-- What an expression that reads nothing else gives on all rows, and on some of them. -/
structure Narrows (n : Nat) (rows : List Nat) (names : List String) (value : Value)
    (other : Outcome Value) : Prop where
  fits : value.Fits n
  bare : names = [] -> value.isBare = true
  onRows : other = .ok (value.onRows rows)

/-- What expressions that read nothing else give on all rows, and on some of them. -/
structure AllNarrow (n : Nat) (rows : List Nat) (names : List String) (values : List Value)
    (other : Outcome (List Value)) : Prop where
  fits : forall value, value ∈ values -> value.Fits n
  bare : names = [] -> AllBare values
  onRows : other = .ok (values.map (Value.onRows rows))

/-- What named expressions that read nothing else give on all rows, and on some of them, given the
values before them. -/
structure NamedNarrow (n : Nat) (rows : List Nat) (names : List String)
    (before named : List (String × Value)) (other : Outcome (List (String × Value))) : Prop where
  fits : forall entry, entry ∈ named -> entry.2.Fits n
  bare : names = [] -> NamedBare before -> NamedBare named
  onRows : other = .ok (namedOnRows rows named)

theorem AllNarrow.weaken {names more : List String} {values : List Value}
    {others : Outcome (List Value)} (h : AllNarrow n rows names values others)
    (hmore : more = [] -> names = []) : AllNarrow n rows more values others :=
  ⟨h.fits, fun hnone => h.bare (hmore hnone), h.onRows⟩

theorem AllNarrow.nil (n : Nat) (rows : List Nat) : AllNarrow n rows [] [] (.ok []) where
  fits := fun _ hvalue => by cases hvalue
  bare := fun _ => Kept.nil
  onRows := rfl

theorem Narrows.cons {names more : List String} {value : Value} {values : List Value}
    {other : Outcome Value} {others : Outcome (List Value)}
    (h : Narrows n rows names value other) (hrest : AllNarrow n rows more values others) :
    AllNarrow n rows (names ++ more) (value :: values)
      (other >>= fun first => others >>= fun rest => .ok (first :: rest)) := by
  constructor
  · intro found hfound
    rcases List.mem_cons.1 hfound with rfl | hfound
    · exact h.fits
    · exact hrest.fits found hfound
  · intro hnone
    rcases List.append_eq_nil_iff.1 hnone with ⟨hfirst, hmore⟩
    exact Kept.cons_iff.2 ⟨h.bare hfirst, hrest.bare hmore⟩
  · rw [h.onRows, hrest.onRows]
    rfl

/-- Some rows of a frame of columns of equal length, and functions that make no columns. -/
structure SomeRows (callers : CallerFunctions) (columns : List (String × List Value)) (n : Nat)
    (rows : List Nat) : Prop where
  callers : callers.MakeNoColumns
  columns : forall entry, entry ∈ columns -> entry.2.length = n
  rows : forall i, i ∈ rows -> i < n

variable (hpart : SomeRows callers columns n rows)

include hpart in
theorem column?_narrows {name : String} {value : Value}
    (h : Frame.column? { columns := columns, nrows := n } name = .ok value) :
    Narrows n rows [name] value ((frame columns rows).column? name) := by
  unfold Frame.column? at h ⊢
  split at h
  · rename_i items hitems
    cases h
    have hmem : (name, items) ∈ columns := by
      rcases List.lookup_eq_some_iff.1 hitems with ⟨before, after, heq, _⟩
      have heq : columns = before ++ (name, items) :: after := heq
      rw [heq]
      exact List.mem_append_right _ (List.mem_cons_self ..)
    constructor
    · exact Or.inl ⟨items, rfl, hpart.columns (name, items) hmem⟩
    · intro hnone
      cases hnone
    · have hfound : (frame columns rows).columns.lookup name = some (cellsAt rows items) := by
        show (restricted columns rows).lookup name = _
        rw [lookup_restricted, hitems]
        rfl
      rw [hfound]
      rfl
  · cases h

include hpart

theorem overRows_narrows {name : String} {values : List Value} {row other : Nat -> Outcome Value}
    {value : Value} {names : List String} (hfits : forall value, value ∈ values -> value.Fits n)
    (hbare : names = [] -> AllBare values) (hzero : AllBare values -> other 0 = row 0)
    (hgives : AllBare values -> GivesBare (row 0))
    (heach : forall j, (hj : j < rows.length) -> other j = row rows[j])
    (h : overRows name values row = .ok value) :
    Narrows n rows names value (overRows name (values.map (Value.onRows rows)) other) := by
  rcases overRows_onRows hfits hpart.rows (fun hall => ⟨hzero hall, hgives hall⟩) heach h with
    ⟨hvalue, hsingle, hsome⟩
  exact ⟨hvalue, fun hnone => hsingle (hbare hnone), hsome⟩

theorem broadcast_narrows {name : String} {f : Function} {values : List Value}
    {named : List (String × Value)} {value : Value} {names more : List String}
    {others : Outcome (List Value)} {othersNamed : Outcome (List (String × Value))}
    (hvalues : AllNarrow n rows names values others)
    (hnamed : NamedNarrow n rows more [] named othersNamed)
    (h : overRows name (values ++ named.map Prod.snd) (rowCall callers name f values named) =
      .ok value) :
    Narrows n rows (names ++ more) value (do
      let values <- others
      let named <- othersNamed
      overRows name (values ++ named.map Prod.snd) (rowCall callers name f values named)) := by
  have hmapped : (values ++ named.map Prod.snd).map (Value.onRows rows) =
      values.map (Value.onRows rows) ++ (namedOnRows rows named).map Prod.snd := by
    rw [List.map_append, map_snd_namedOnRows]
  have hparts : AllBare (values ++ named.map Prod.snd) -> AllBare values ∧ NamedBare named := by
    intro hall
    rcases Kept.append_iff.1 hall with ⟨hplain, hrest⟩
    exact ⟨hplain, fun entry hentry => hrest entry.2 (List.mem_map_of_mem hentry)⟩
  rw [hvalues.onRows, ok_bind, hnamed.onRows, ok_bind, ← hmapped]
  apply overRows_narrows hpart _ _ _ _ _ h
  · intro found hfound
    rcases List.mem_append.1 hfound with hfound | hfound
    · exact hvalues.fits found hfound
    · rcases List.mem_map.1 hfound with ⟨entry, hentry, rfl⟩
      exact hnamed.fits entry hentry
  · intro hnone
    rcases List.append_eq_nil_iff.1 hnone with ⟨hnames, hmore⟩
    refine Kept.append_iff.2 ⟨hvalues.bare hnames, ?_⟩
    intro found hfound
    rcases List.mem_map.1 hfound with ⟨entry, hentry, rfl⟩
    exact hnamed.bare hmore Kept.nil entry hentry
  · intro hall
    rw [map_onRows_bare (hparts hall).1, namedOnRows_bare (hparts hall).2]
  · intro hall
    exact rowCall_bare hpart.callers (hparts hall).1 (hparts hall).2 0
  · intro j hj
    exact rowCall_onRows hj values named

theorem ifElse_narrows {c y no m value : Value} {names some more others : List String}
    {c' y' no' m' : Outcome Value} (hc : Narrows n rows names c c') (hy : Narrows n rows some y y')
    (hno : Narrows n rows more no no') (hm : Narrows n rows others m m')
    (hcheck : checkBranches "if_else" [y, no, m] = .ok ())
    (h : overRows "if_else" [c, y, no, m] (fun i => .ok (choose i c y no m)) = .ok value) :
    Narrows n rows (names ++ some ++ more ++ others) value (do
      let c <- c'
      let y <- y'
      let no <- no'
      let m <- m'
      checkBranches "if_else" [y, no, m]
      overRows "if_else" [c, y, no, m] fun i => .ok (choose i c y no m)) := by
  have hcheck' : checkBranches "if_else" [y.onRows rows, no.onRows rows, m.onRows rows] = .ok () :=
    checkBranches_onRows hcheck
  have hbare : AllBare [c, y, no, m] -> y.isBare = true ∧ no.isBare = true ∧ m.isBare = true := by
    intro hall
    simp only [Kept.cons_iff, Kept.nil, and_true] at hall
    exact hall.2
  rw [hc.onRows, ok_bind, hy.onRows, ok_bind, hno.onRows, ok_bind, hm.onRows, ok_bind, hcheck',
    ok_bind]
  apply overRows_narrows hpart _ _ _ _ _ h
  · intro found hfound
    simp only [List.mem_cons, List.not_mem_nil, or_false] at hfound
    rcases hfound with rfl | rfl | rfl | rfl
    · exact hc.fits
    · exact hy.fits
    · exact hno.fits
    · exact hm.fits
  · intro hnone
    simp only [List.append_eq_nil_iff] at hnone
    rcases hnone with ⟨⟨⟨hnames, hsome⟩, hmore⟩, hothers⟩
    simp only [Kept.cons_iff, Kept.nil, and_true]
    exact ⟨hc.bare hnames, hy.bare hsome, hno.bare hmore, hm.bare hothers⟩
  · intro hall
    simp only [Kept.cons_iff, Kept.nil, and_true] at hall
    rcases hall with ⟨hcb, hyb, hnob, hmb⟩
    rw [onRows_bare hcb, onRows_bare hyb, onRows_bare hnob, onRows_bare hmb]
  · intro hall
    rcases hbare hall with ⟨hyb, hnob, hmb⟩
    exact choose_bare hyb hnob hmb
  · intro j hj
    rw [choose_onRows hj]

theorem caseWhen_narrows {conditions results : List Value} {fallback value : Value}
    {names more : List String} {conditions' results' : Outcome (List Value)}
    {fallback' : Outcome Value} (hc : AllNarrow n rows names conditions conditions')
    (hr : AllNarrow n rows names results results')
    (hf : Narrows n rows more fallback fallback')
    (hcheck : checkBranches "case_when" (results ++ [fallback]) = .ok ())
    (h : overRows "case_when" (conditions ++ results ++ [fallback]) (fun i =>
      .ok (firstClause i fallback (conditions.zip results))) = .ok value) :
    Narrows n rows (names ++ more) value (do
      let conditions <- conditions'
      let results <- results'
      let fallback <- fallback'
      checkBranches "case_when" (results ++ [fallback])
      overRows "case_when" (conditions ++ results ++ [fallback]) fun i =>
        .ok (firstClause i fallback (conditions.zip results))) := by
  have hcheck' : checkBranches "case_when"
      (results.map (Value.onRows rows) ++ [fallback.onRows rows]) = .ok () := by
    have hmapped : checkBranches "case_when" ((results ++ [fallback]).map (Value.onRows rows)) =
        .ok () := checkBranches_onRows hcheck
    rwa [List.map_append] at hmapped
  have hmapped : (conditions ++ results ++ [fallback]).map (Value.onRows rows) =
      conditions.map (Value.onRows rows) ++ results.map (Value.onRows rows) ++
        [fallback.onRows rows] := by
    rw [List.map_append, List.map_append]
    rfl
  have hzip : (conditions.map (Value.onRows rows)).zip (results.map (Value.onRows rows)) =
      (conditions.zip results).map fun clause =>
        (clause.1.onRows rows, clause.2.onRows rows) := List.zip_map ..
  have hparts : AllBare (conditions ++ results ++ [fallback]) ->
      AllBare conditions ∧ AllBare results ∧ fallback.isBare = true := by
    intro hall
    simp only [Kept.append_iff] at hall
    exact ⟨hall.1.1, hall.1.2, allBare_single hall.2⟩
  rw [hc.onRows, ok_bind, hr.onRows, ok_bind, hf.onRows, ok_bind, hcheck', ok_bind, ← hmapped,
    hzip]
  apply overRows_narrows hpart _ _ _ _ _ h
  · intro found hfound
    simp only [List.mem_append, List.mem_singleton] at hfound
    rcases hfound with (hfound | hfound) | rfl
    · exact hc.fits found hfound
    · exact hr.fits found hfound
    · exact hf.fits
  · intro hnone
    rcases List.append_eq_nil_iff.1 hnone with ⟨hnames, hmore⟩
    simp only [Kept.append_iff, Kept.cons_iff, Kept.nil, and_true]
    exact ⟨⟨hc.bare hnames, hr.bare hnames⟩, hf.bare hmore⟩
  · intro hall
    rcases hparts hall with ⟨hcb, hrb, hfb⟩
    rw [← hzip, map_onRows_bare hcb, map_onRows_bare hrb, onRows_bare hfb]
  · intro hall
    rcases hparts hall with ⟨_, hrb, hfb⟩
    exact firstClause_bare hfb fun clause hclause => hrb clause.2 (List.of_mem_zip hclause).2
  · intro j hj
    rw [firstClause_onRows hj]

omit hpart

mutual

theorem evaluate_narrows (hpart : SomeRows callers columns n rows) :
    forall (e : Expr) (value : Value), e.isElementWise = true ->
      evaluate callers { columns := columns, nrows := n } e = .ok value ->
      Narrows n rows e.mentions value (evaluate callers (frame columns rows) e)
  | column name, value, _, h => by
      rw [evaluate] at h ⊢
      rw [mentions]
      exact column?_narrows hpart h
  | literal value, found, hbare, h => by
      rw [evaluate] at h ⊢
      cases h
      rw [isElementWise] at hbare
      exact ⟨Fits.bare hbare, fun _ => hbare, by rw [onRows_bare hbare]⟩
  | functionRef name f, value, _, h => by
      rw [evaluate] at h ⊢
      cases h
      exact ⟨Fits.bare rfl, fun _ => rfl, rfl⟩
  | values items, value, hitems, h => by
      rw [isElementWise, Bool.and_eq_true, List.isEmpty_iff] at hitems
      rw [evaluate] at h ⊢
      rcases map_eq_ok_iff.1 h with ⟨found, hfound, rfl⟩
      have hall := evaluateAll_narrows hpart items found hitems.1 hfound
      have hbare : AllBare found := hall.bare hitems.2
      have htuple : (Value.tuple found).isBare = true := isBare_tuple.2 hbare
      refine ⟨Fits.bare htuple, fun _ => htuple, ?_⟩
      rw [hall.onRows, map_onRows_bare hbare]
      rfl
  | broadcast name f args kwargs, value, hargs, h => by
      rw [isElementWise, Bool.and_eq_true] at hargs
      rw [evaluate] at h ⊢
      rcases bind_eq_ok_iff.1 h with ⟨values, hvalues, h⟩
      rcases bind_eq_ok_iff.1 h with ⟨named, hnamed, h⟩
      rw [mentions]
      exact broadcast_narrows hpart (evaluateAll_narrows hpart args values hargs.1 hvalues)
        (evaluateNamed_narrows hpart kwargs [] named hargs.2 (by simp) hnamed) h
  | apply name f args kwargs, value, hnot, _ => by
      rw [isElementWise] at hnot
      cases hnot
  | groupSize, value, hnot, _ => by
      rw [isElementWise] at hnot
      cases hnot
  | first inner, value, hnot, _ => by
      rw [isElementWise] at hnot
      cases hnot
  | ifElse condition yes no miss, value, hparts, h => by
      simp only [isElementWise, Bool.and_eq_true] at hparts
      rcases hparts with ⟨⟨⟨hcondition, hyes⟩, hno⟩, hmiss⟩
      rw [evaluate] at h ⊢
      rcases bind_eq_ok_iff.1 h with ⟨c, hc, h⟩
      rcases bind_eq_ok_iff.1 h with ⟨y, hy, h⟩
      rcases bind_eq_ok_iff.1 h with ⟨z, hz, h⟩
      rcases bind_eq_ok_iff.1 h with ⟨m, hm, h⟩
      rcases bind_eq_ok_iff.1 h with ⟨_, hcheck, h⟩
      rw [mentions]
      exact ifElse_narrows hpart (evaluate_narrows hpart condition c hcondition hc)
        (evaluate_narrows hpart yes y hyes hy) (evaluate_narrows hpart no z hno hz)
        (evaluate_narrows hpart miss m hmiss hm) hcheck h
  | caseWhen clauses none, value, hclauses, h => by
      rw [isElementWise] at hclauses
      rw [evaluate] at h ⊢
      rcases bind_eq_ok_iff.1 h with ⟨conditions, hconditions, h⟩
      rcases bind_eq_ok_iff.1 h with ⟨results, hresults, h⟩
      rcases bind_eq_ok_iff.1 h with ⟨fallback, hfallback, h⟩
      cases hfallback
      rcases bind_eq_ok_iff.1 h with ⟨_, hcheck, h⟩
      have hmissing : Narrows n rows [] Value.missing (.ok .missing) :=
        ⟨Fits.bare rfl, fun _ => rfl, rfl⟩
      rw [mentions, ← List.append_nil (mentionsClauses clauses)]
      exact caseWhen_narrows hpart
        (evaluateFirsts_narrows hpart clauses conditions hclauses hconditions)
        (evaluateSeconds_narrows hpart clauses results hclauses hresults) hmissing hcheck h
  | caseWhen clauses (some otherwise), value, hparts, h => by
      rw [isElementWise, Bool.and_eq_true] at hparts
      rw [evaluate] at h ⊢
      rcases bind_eq_ok_iff.1 h with ⟨conditions, hconditions, h⟩
      rcases bind_eq_ok_iff.1 h with ⟨results, hresults, h⟩
      rcases bind_eq_ok_iff.1 h with ⟨fallback, hfallback, h⟩
      rcases bind_eq_ok_iff.1 h with ⟨_, hcheck, h⟩
      rw [mentions]
      exact caseWhen_narrows hpart
        (evaluateFirsts_narrows hpart clauses conditions hparts.1 hconditions)
        (evaluateSeconds_narrows hpart clauses results hparts.1 hresults)
        (evaluate_narrows hpart otherwise fallback hparts.2 hfallback) hcheck h

theorem evaluateAll_narrows (hpart : SomeRows callers columns n rows) :
    forall (items : List Expr) (values : List Value), areElementWise items = true ->
      evaluateAll callers { columns := columns, nrows := n } items = .ok values ->
      AllNarrow n rows (mentionsAll items) values (evaluateAll callers (frame columns rows) items)
  | [], found, _, h => by
      rw [evaluateAll] at h ⊢
      cases h
      exact AllNarrow.nil n rows
  | e :: rest, found, hitems, h => by
      rw [areElementWise, Bool.and_eq_true] at hitems
      rw [evaluateAll] at h ⊢
      rcases bind_eq_ok_iff.1 h with ⟨value, hvalue, h⟩
      rcases bind_eq_ok_iff.1 h with ⟨others, hothers, h⟩
      cases h
      rw [mentionsAll]
      exact (evaluate_narrows hpart e value hitems.1 hvalue).cons
        (evaluateAll_narrows hpart rest others hitems.2 hothers)

theorem evaluateNamed_narrows (hpart : SomeRows callers columns n rows) :
    forall (items : List (String × Expr)) (named result : List (String × Value)),
      namedAreElementWise items = true ->
      (forall entry, entry ∈ named -> entry.2.Fits n) ->
      evaluateNamed callers { columns := columns, nrows := n } named items = .ok result ->
      NamedNarrow n rows (mentionsNamed items) named result
        (evaluateNamed callers (frame columns rows) (namedOnRows rows named) items)
  | [], named, result, _, hfits, h => by
      rw [evaluateNamed] at h ⊢
      cases h
      exact ⟨hfits, fun _ hbare => hbare, rfl⟩
  | (name, e) :: rest, named, result, hitems, hfits, h => by
      rw [namedAreElementWise, Bool.and_eq_true] at hitems
      rw [evaluateNamed] at h ⊢
      rcases bind_eq_ok_iff.1 h with ⟨value, hvalue, h⟩
      have he := evaluate_narrows hpart e value hitems.1 hvalue
      have hput : forall entry, entry ∈ Interpolation.putNamed named name value ->
          entry.2.Fits n := by
        intro entry hentry
        rcases mem_putNamed hentry with rfl | hentry
        · exact he.fits
        · exact hfits entry hentry
      have hrest := evaluateNamed_narrows hpart rest _ result hitems.2 hput h
      refine ⟨hrest.fits, ?_, ?_⟩
      · intro hnone hnamed
        rw [mentionsNamed, List.append_eq_nil_iff] at hnone
        apply hrest.bare hnone.2
        intro entry hentry
        rcases mem_putNamed hentry with rfl | hentry
        · exact he.bare hnone.1
        · exact hnamed entry hentry
      · rw [he.onRows, ok_bind, putNamed_onRows]
        exact hrest.onRows

theorem evaluateFirsts_narrows (hpart : SomeRows callers columns n rows) :
    forall (clauses : List (Expr × Expr)) (values : List Value),
      clausesAreElementWise clauses = true ->
      evaluateFirsts callers { columns := columns, nrows := n } clauses = .ok values ->
      AllNarrow n rows (mentionsClauses clauses) values
        (evaluateFirsts callers (frame columns rows) clauses)
  | [], found, _, h => by
      rw [evaluateFirsts] at h ⊢
      cases h
      exact AllNarrow.nil n rows
  | (e, _) :: rest, found, hitems, h => by
      rw [clausesAreElementWise, Bool.and_eq_true, Bool.and_eq_true] at hitems
      rw [evaluateFirsts] at h ⊢
      rcases bind_eq_ok_iff.1 h with ⟨value, hvalue, h⟩
      rcases bind_eq_ok_iff.1 h with ⟨others, hothers, h⟩
      cases h
      apply ((evaluate_narrows hpart e value hitems.1.1 hvalue).cons
        (evaluateFirsts_narrows hpart rest others hitems.2 hothers)).weaken
      intro hnone
      simp only [mentionsClauses, List.append_eq_nil_iff] at hnone ⊢
      exact ⟨hnone.1.1, hnone.2⟩

theorem evaluateSeconds_narrows (hpart : SomeRows callers columns n rows) :
    forall (clauses : List (Expr × Expr)) (values : List Value),
      clausesAreElementWise clauses = true ->
      evaluateSeconds callers { columns := columns, nrows := n } clauses = .ok values ->
      AllNarrow n rows (mentionsClauses clauses) values
        (evaluateSeconds callers (frame columns rows) clauses)
  | [], found, _, h => by
      rw [evaluateSeconds] at h ⊢
      cases h
      exact AllNarrow.nil n rows
  | (_, e) :: rest, found, hitems, h => by
      rw [clausesAreElementWise, Bool.and_eq_true, Bool.and_eq_true] at hitems
      rw [evaluateSeconds] at h ⊢
      rcases bind_eq_ok_iff.1 h with ⟨value, hvalue, h⟩
      rcases bind_eq_ok_iff.1 h with ⟨others, hothers, h⟩
      cases h
      apply ((evaluate_narrows hpart e value hitems.1.2 hvalue).cons
        (evaluateSeconds_narrows hpart rest others hitems.2 hothers)).weaken
      intro hnone
      simp only [mentionsClauses, List.append_eq_nil_iff] at hnone ⊢
      exact ⟨hnone.1.2, hnone.2⟩

end

end Evaluation

end Expr

/-!
# Frames of some rows

A frame can be restricted to some of its rows, in any order and with repetitions.  To
evaluate an element-wise expression on what is left gives what is left of its value.
-/

namespace Frame

/-- Every column of the frame has a cell for each row. -/
def IsFull (frame : Frame) : Prop :=
  forall entry, entry ∈ frame.columns -> entry.2.length = frame.nrows

/-- The frame with the cells of some rows. -/
def onRows (frame : Frame) (rows : List Nat) : Frame :=
  Dataset.frame frame.columns rows

end Frame

namespace Expr

/-- Element-wise expressions can be evaluated on any rows of a frame on which they can be evaluated,
and they give the values of these rows, or the same single value. -/
theorem evaluate_onRows {callers : CallerFunctions} (hpure : callers.MakeNoColumns) {frame : Frame}
    (hfull : frame.IsFull) {rows : List Nat} (hrows : forall i, i ∈ rows -> i < frame.nrows)
    {e : Expr} (he : e.isElementWise = true) {value : Value}
    (hvalue : evaluate callers frame e = .ok value) :
    value.Fits frame.nrows ∧
      evaluate callers (frame.onRows rows) e = .ok (value.onRows rows) := by
  have hpart : SomeRows callers frame.columns frame.nrows rows := ⟨hpure, hfull, hrows⟩
  have hnarrows := evaluate_narrows hpart e value he hvalue
  exact ⟨hnarrows.fits, hnarrows.onRows⟩

/-- A frame of a column of numbers, one of them missing, and a column of texts. -/
def measured : Frame where
  columns :=
    [("x", [.int 5, .missing, .int (-1)]), ("t", [.str "p", .str "q", .str "r"])]
  nrows := 3

/-- The text of a row where its number is above zero, and another one where there is no number. -/
def labelled : Expr :=
  .ifElse
    (.broadcast ">" (.binary .greater) [.column "x", .literal (.int 0)] [])
    (.column "t")
    (.caseWhen [(.literal (.bool false), .column "t")] (some (.literal (.str "none"))))
    (.literal (.str "unknown"))

theorem evaluate_onRows_labelled :
    evaluate [] (measured.onRows [2, 0, 2, 1]) labelled =
      .ok (.column [.str "none", .str "p", .str "none", .str "unknown"]) := by
  have hfull : measured.IsFull := by
    unfold Frame.IsFull
    decide
  have hvalue : evaluate [] measured labelled =
      .ok (.column [.str "p", .str "unknown", .str "none"]) := by rfl
  have hrows : forall i, i ∈ [2, 0, 2, 1] -> i < measured.nrows := by decide
  exact (evaluate_onRows CallerFunctions.empty_makeNoColumns hfull hrows (by rfl) hvalue).2

end Expr
end Wrangle
