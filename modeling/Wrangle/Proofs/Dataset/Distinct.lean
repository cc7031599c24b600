import Mathlib.Data.Nat.Find
import Wrangle.Proofs.Dataset.Filtering
import Wrangle.Proofs.Dataset.Padding

/-!
# First rows

To tell the rows of a dataset apart by some columns is to keep the first row of each
combination of cells.  The rows are read one after another, and what has been seen
by then stands for all rows before.
-/

namespace Wrangle
namespace Dataset

/-- What a row shows of a column; the columns that are reserved for it tell the number of all rows,
and the number of the row. -/
def shown (data : Dataset) (name : String) (i : Nat) : Value :=
  if name = countColumn then .int (Int.ofNat data.nrows)
  else if name = rowNumberColumn then .int (Int.ofNat (i + 1))
  else cellAt (data.header.idxOf name) (data.rows[i]?.getD [])

def AgreeOn (data : Dataset) (columns : List String) (i j : Nat) : Prop :=
  forall name, name ∈ columns -> (data.shown name i).equals (data.shown name j) = true

instance (data : Dataset) (columns : List String) (i j : Nat) :
    Decidable (data.AgreeOn columns i j) :=
  inferInstanceAs (Decidable (forall name, name ∈ columns ->
    (data.shown name i).equals (data.shown name j) = true))

def firstPlaces (data : Dataset) (columns : List String) : List Nat :=
  (List.range data.nrows).filter fun i => decide (forall j, j < i -> ¬ data.AgreeOn columns j i)

/-- The places of rows that stand for all rows: no two of them agree on some columns, and each row
agrees with just one of them, which comes before all others that it agrees with. -/
structure AreFirst (data : Dataset) (columns : List String) (kept : List Nat) : Prop where
  sublist : kept.Sublist (List.range data.nrows)
  apart : kept.Pairwise fun i j => ¬ data.AgreeOn columns i j
  first : forall i, i < data.nrows -> exists j, j ∈ kept ∧ data.AgreeOn columns j i ∧
    (forall k, k ∈ kept -> data.AgreeOn columns k i -> k = j) ∧
      forall k, data.AgreeOn columns k i -> j <= k

def HasDiscreteCells (data : Dataset) : Prop :=
  forall row, row ∈ data.rows -> forall value, value ∈ row -> value.isDiscrete = true

variable {callers : CallerFunctions} {data wide : Dataset} {columns names : List String}

/-!
# Rows that agree
-/

theorem shown_countColumn (i : Nat) :
    data.shown countColumn i = .int (Int.ofNat data.nrows) :=
  if_pos rfl

theorem shown_rowNumberColumn (i : Nat) :
    data.shown rowNumberColumn i = .int (Int.ofNat (i + 1)) := by
  rw [shown, if_neg (by decide), if_pos rfl]

theorem shown_of_ne {name : String} (hcount : name ≠ countColumn) (hnumber : name ≠ rowNumberColumn)
    (i : Nat) : data.shown name i = cellAt (data.header.idxOf name) (data.rows[i]?.getD []) := by
  rw [shown, if_neg hcount, if_neg hnumber]

def standing (data : Dataset) (columns : List String) (i : Nat) : List Value :=
  columns.map fun name => (data.shown name i).standard

theorem isDiscrete_cellAt {row : List Value}
    (h : forall value, value ∈ row -> value.isDiscrete = true) (i : Nat) :
    (cellAt i row).isDiscrete = true := by
  unfold cellAt
  cases hcell : row[i]? with
  | none => rfl
  | some value => exact h value (List.mem_of_getElem? hcell)

theorem HasDiscreteCells.shown (h : data.HasDiscreteCells) (name : String) (i : Nat) :
    (data.shown name i).isDiscrete = true := by
  unfold Dataset.shown
  split
  · rfl
  · split
    · rfl
    · apply isDiscrete_cellAt
      cases hrow : data.rows[i]? with
      | none => exact fun value hvalue => absurd hvalue List.not_mem_nil
      | some row => exact h row (List.mem_of_getElem? hrow)

theorem equals_iff {a b : Value} (ha : a.isDiscrete = true) (hb : b.isDiscrete = true) :
    a.equals b = true <-> a.standard = b.standard := by
  have hsame := Value.same_iff ha hb
  rwa [Value.identical_of_isDiscrete ha, Bool.false_or] at hsame

theorem HasDiscreteCells.agreeOn_iff (h : data.HasDiscreteCells) (columns : List String)
    (i j : Nat) :
    data.AgreeOn columns i j <-> data.standing columns i = data.standing columns j := by
  unfold AgreeOn standing
  rw [List.map_inj_left]
  constructor
  · intro hagree name hname
    exact (equals_iff (h.shown name i) (h.shown name j)).1 (hagree name hname)
  · intro hsame name hname
    exact (equals_iff (h.shown name i) (h.shown name j)).2 (hsame name hname)

theorem HasDiscreteCells.areFirst (h : data.HasDiscreteCells) (columns : List String) :
    data.AreFirst columns (data.firstPlaces columns) := by
  have hmem : forall i, i ∈ data.firstPlaces columns <->
      i < data.nrows ∧ forall j, j < i -> ¬ data.AgreeOn columns j i := by
    intro i
    rw [firstPlaces, List.mem_filter, List.mem_range, decide_eq_true_iff]
  have hsymm : forall {i j : Nat}, data.AgreeOn columns i j -> data.AgreeOn columns j i := by
    intro i j hagree
    rw [h.agreeOn_iff] at hagree ⊢
    exact hagree.symm
  have htrans : forall {i j k : Nat}, data.AgreeOn columns i j -> data.AgreeOn columns j k ->
      data.AgreeOn columns i k := by
    intro i j k hij hjk
    rw [h.agreeOn_iff] at hij hjk ⊢
    exact hij.trans hjk
  have hunique : forall {i j : Nat}, i ∈ data.firstPlaces columns ->
      j ∈ data.firstPlaces columns -> data.AgreeOn columns i j -> i = j := by
    intro i j hi hj hagree
    rcases Nat.lt_trichotomy i j with hlt | heq | hgt
    · exact absurd hagree (((hmem j).1 hj).2 i hlt)
    · exact heq
    · exact absurd (hsymm hagree) (((hmem i).1 hi).2 j hgt)
  constructor
  case sublist => exact List.filter_sublist
  case apart =>
    have hascending : (data.firstPlaces columns).Pairwise (· < ·) :=
      List.pairwise_lt_range.filter _
    apply hascending.imp_of_mem
    intro i j _ hj hlt
    exact ((hmem j).1 hj).2 i hlt
  case first =>
    intro i hi
    -- the least row that agrees with this one is kept
    have hsome : exists j, data.AgreeOn columns j i := ⟨i, (h.agreeOn_iff columns i i).2 rfl⟩
    have hleast : forall k, data.AgreeOn columns k i -> Nat.find hsome <= k :=
      fun k hk => Nat.find_min' hsome hk
    have hagree := Nat.find_spec hsome
    have hkept : Nat.find hsome ∈ data.firstPlaces columns := by
      rw [hmem]
      constructor
      · exact Nat.lt_of_le_of_lt (hleast i ((h.agreeOn_iff columns i i).2 rfl)) hi
      · intro k hlt hk
        exact Nat.find_min hsome hlt (htrans hk hagree)
    refine ⟨Nat.find hsome, hkept, hagree, ?_, hleast⟩
    intro k hk hki
    exact hunique hk hkept (htrans hki (hsymm hagree))

/-!
# One row after another
-/

section Reading

variable {indices : List Nat} {seen rows before : List (List Value)}

def standardCells (indices : List Nat) (row : List Value) : List Value :=
  standardKey (cellsAt indices row)

def AreReadable (indices : List Nat) (rows : List (List Value)) : Prop :=
  forall row, row ∈ rows ->
    (forall i, i ∈ indices -> i < row.length) ∧ DiscreteKey (cellsAt indices row)

theorem comparable_of_isDiscrete {value : Value} (h : value.isDiscrete = true) :
    comparable value = .ok value := by
  cases value <;> first | rfl | cases h

theorem comparableAll_of_discreteKey {key : List Value} (h : DiscreteKey key) :
    comparableAll key = .ok key := by
  induction key with
  | nil => rfl
  | cons value rest ih =>
      rcases List.forall_mem_cons.1 h with ⟨hvalue, hrest⟩
      rw [comparableAll, comparable_of_isDiscrete hvalue]
      dsimp only
      rw [ih hrest]
      rfl

theorem distinctKey_eq (h : AreReadable indices rows) {row : List Value} (hrow : row ∈ rows) :
    distinctKey indices row = .ok (cellsAt indices row) := by
  rcases h row hrow with ⟨hreaches, hdiscrete⟩
  have hkey : Value.allCanBeKeys (cellsAt indices row) = true :=
    allCanBeKeys_of_forall fun value hvalue =>
      canBeKey_of_isPlain (Value.isPlain_of_isDiscrete (hdiscrete value hvalue))
  unfold distinctKey
  rw [keyCells_eq hreaches]
  dsimp only
  rw [comparableAll_of_discreteKey hdiscrete]
  dsimp only
  rw [if_pos hkey]

/-- Keys that stand for the same as the rows before. -/
structure Stands (indices : List Nat) (seen before : List (List Value)) : Prop where
  discrete : forall key, key ∈ seen -> DiscreteKey key
  readable : AreReadable indices before
  same : forall cells, cells ∈ seen.map standardKey <-> cells ∈ before.map (standardCells indices)

def repeats (indices : List Nat) (before : List (List Value)) (row : List Value) : Bool :=
  before.any fun other => Value.sameAll (cellsAt indices row) (cellsAt indices other)

theorem repeats_iff (h : AreReadable indices before) {row : List Value}
    (hrow : DiscreteKey (cellsAt indices row)) :
    repeats indices before row = true <->
      standardCells indices row ∈ before.map (standardCells indices) := by
  rw [repeats, List.any_eq_true, List.mem_map]
  constructor
  · rintro ⟨other, hother, hsame⟩
    exact ⟨other, hother, ((sameAll_iff hrow (h other hother).2).1 hsame).symm⟩
  · rintro ⟨other, hother, hsame⟩
    exact ⟨other, hother, (sameAll_iff hrow (h other hother).2).2 hsame.symm⟩

theorem Stands.any_eq (h : Stands indices seen before) {row : List Value}
    (hrow : DiscreteKey (cellsAt indices row)) :
    seen.any (Value.sameAll (cellsAt indices row)) = repeats indices before row := by
  rw [Bool.eq_iff_iff, repeats_iff h.readable hrow, ← h.same, List.any_eq_true, List.mem_map]
  constructor
  · rintro ⟨key, hkey, hsame⟩
    exact ⟨key, hkey, ((sameAll_iff hrow (h.discrete key hkey)).1 hsame).symm⟩
  · rintro ⟨key, hkey, hsame⟩
    exact ⟨key, hkey, (sameAll_iff hrow (h.discrete key hkey)).2 hsame.symm⟩

theorem AreReadable.append {row : List Value} (h : AreReadable indices before)
    (hrow : (forall i, i ∈ indices -> i < row.length) ∧ DiscreteKey (cellsAt indices row)) :
    AreReadable indices (before ++ [row]) := by
  intro other hother
  rcases List.mem_append.1 hother with hother | hother
  · exact h other hother
  · rw [List.mem_singleton.1 hother]
    exact hrow

theorem Stands.skip (h : Stands indices seen before) {row : List Value}
    (hrow : (forall i, i ∈ indices -> i < row.length) ∧ DiscreteKey (cellsAt indices row))
    (hseen : repeats indices before row = true) : Stands indices seen (before ++ [row]) where
  discrete := h.discrete
  readable := h.readable.append hrow
  same := by
    intro cells
    rw [h.same, List.map_append, List.mem_append, List.map_singleton, List.mem_singleton]
    constructor
    · exact Or.inl
    · rintro (hcells | rfl)
      · exact hcells
      · exact (repeats_iff h.readable hrow.2).1 hseen

theorem Stands.note (h : Stands indices seen before) {row : List Value}
    (hrow : (forall i, i ∈ indices -> i < row.length) ∧ DiscreteKey (cellsAt indices row)) :
    Stands indices (cellsAt indices row :: seen) (before ++ [row]) where
  discrete := List.forall_mem_cons.2 ⟨hrow.2, h.discrete⟩
  readable := h.readable.append hrow
  same := by
    intro cells
    rw [List.map_cons, List.mem_cons, h.same, List.map_append, List.mem_append, List.map_singleton,
      List.mem_singleton, or_comm]
    rfl

def isNew (indices : List Nat) (before rows : List (List Value)) (i : Nat) : Bool :=
  !repeats indices (before ++ rows.take i) (rows[i]?.getD [])

/-- Of the places of some rows the first one is kept where the first row is new, and the others
where their rows are new after it. -/
theorem newRows_cons (indices : List Nat) (before : List (List Value)) (row : List Value)
    (rest : List (List Value)) :
    ((List.range (row :: rest).length).filter (isNew indices before (row :: rest))).map
        (fun i => (row :: rest)[i]?.getD []) =
      (if repeats indices before row then [] else [row]) ++
        ((List.range rest.length).filter (isNew indices (before ++ [row]) rest)).map
          fun i => rest[i]?.getD [] := by
  have hshift : isNew indices before (row :: rest) ∘ Nat.succ =
      isNew indices (before ++ [row]) rest := by
    funext i
    simp [isNew]
  have hfirst : isNew indices before (row :: rest) 0 = !repeats indices before row := by
    simp [isNew]
  rw [List.length_cons, List.range_succ_eq_map, List.filter_cons, List.filter_map, hshift, hfirst]
  cases repeats indices before row with
  | true => simp
  | false => simp

theorem firstRows_eq (hrows : AreReadable indices rows) (h : Stands indices seen before) :
    firstRows indices seen rows =
      .ok (((List.range rows.length).filter (isNew indices before rows)).map
        fun i => rows[i]?.getD []) := by
  induction rows generalizing seen before with
  | nil => rfl
  | cons row rest ih =>
      have hrow := hrows row List.mem_cons_self
      have hrest : AreReadable indices rest :=
        fun other hother => hrows other (List.mem_cons_of_mem _ hother)
      rw [newRows_cons, firstRows, distinctKey_eq hrows List.mem_cons_self]
      dsimp only
      rw [h.any_eq hrow.2]
      cases hseen : repeats indices before row with
      | true =>
          rw [if_pos rfl, if_pos rfl]
          exact ih hrest (h.skip hrow hseen)
      | false =>
          rw [if_neg Bool.false_ne_true, if_neg Bool.false_ne_true, ih hrest (h.note hrow)]
          rfl

end Reading

end Dataset
end Wrangle
