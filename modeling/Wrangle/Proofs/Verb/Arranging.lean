import Wrangle.Proofs.Positions
import Wrangle.Proofs.Verb.Naming

/-!
# Group order and sort order

The groups of a dataset come in the order in which its rows are sorted.  To pick all
rows of the groups by some columns, one group after another, is to arrange the rows
by these columns.
-/

namespace Wrangle

open Dataset

/-!
# All positions
-/

namespace Positions

def allRows : Positions where
  nodes := [.range (.literal (.int 1)) (.call countFunction [] [] false)]

theorem ofNodes_allRows : ofNodes allRows.nodes = .ok allRows := rfl

theorem rangeSize_allRows (nrows : Nat) : Value.rangeSize 1 (Int.ofNat nrows + 1) 1 = nrows := by
  simp [Value.rangeSize]

def marksOfAll (nrows : Nat) : List Mark :=
  ((List.range nrows).map fun i => 1 + Int.ofNat i).map Mark.whole

theorem guarded_allRows (nrows : Nat) :
    guarded nrows (.range (.literal (.int 1)) (.call countFunction [] [] false)) =
      .ok (marksOfAll nrows) := by
  have hspan : span nrows 1 (Int.ofNat nrows) =
      .ok ((List.range nrows).map fun i => 1 + Int.ofNat i) := by
    rw [span, rangeSize_allRows, if_pos le_rfl]
  have hvalues : nodeValues nrows
      (.range (.literal (.int 1)) (.call countFunction [] [] false)) = .ok (marksOfAll nrows) := by
    show (Outcome.ofFault (span nrows 1 (Int.ofNat nrows)) >>= _) = _
    rw [hspan]
    rfl
  rw [guarded, hvalues]

theorem exists_of_mem_marksOfAll {nrows : Nat} {mark : Mark} (h : mark ∈ marksOfAll nrows) :
    exists n, 0 < n ∧ mark = .whole n := by
  rcases List.mem_map.1 h with ⟨n, hn, rfl⟩
  rcases List.mem_map.1 hn with ⟨i, _, rfl⟩
  refine ⟨_, ?_, rfl⟩
  simp
  omega

theorem offset?_succ {nrows i : Nat} (h : i < nrows) :
    offset? nrows (1 + Int.ofNat i) = some i := by
  have hinside : (1 <= 1 + Int.ofNat i && 1 + Int.ofNat i <= Int.ofNat nrows) = true := by
    simp
    omega
  have hpositive : (0 : Int) < 1 + Int.ofNat i := by
    simp
    omega
  simp only [offset?, if_pos hpositive, hinside, if_true]
  simp

theorem offsets_allRows (nrows : Nat) : allRows.offsets nrows = .ok (List.range nrows) := by
  have hevaluate : evaluate nrows allRows.nodes = .ok (marksOfAll nrows) := by
    rw [evaluate, allRows, List.mapM_cons, List.mapM_nil, guarded_allRows]
    show Except.ok (List.filter _ ([marksOfAll nrows]).flatten) = _
    rw [List.flatten_singleton, List.filter_eq_self.2]
    intro mark hmark
    rcases exists_of_mem_marksOfAll hmark with ⟨n, hn, rfl⟩
    simp [Mark.isZero]
    omega
  have hsigns : checkSigns allRows.nodes (marksOfAll nrows) = .ok () := by
    apply checkSigns_eq_ok_iff.2
    right
    intro mark hmark
    rcases exists_of_mem_marksOfAll hmark with ⟨n, hn, rfl⟩
    exact ⟨n, le_of_lt hn, rfl⟩
  have hvalues : allRows.values nrows = .ok ((List.range nrows).map fun i => 1 + Int.ofNat i) := by
    refine values_eq_ok_iff.2 ⟨_, hevaluate, hsigns, ?_⟩
    rw [marksOfAll, List.filterMap_map]
    exact List.filterMap_some
  rw [offsets, hvalues]
  show Except.ok (List.filterMap _ _) = _
  rw [List.filterMap_map, List.filterMap_congr (g := some)]
  · rw [List.filterMap_some]
  · intro i hi
    exact offset?_succ (List.mem_range.1 hi)

end Positions

/-!
# Calls
-/

namespace Invocation

variable {data : Dataset} {columns : List String} {grouping picking arranging : Invocation}

/-- A call that picks all rows of each group. -/
structure PicksAll (call : Invocation) : Prop where
  verb : call.verb = .slice
  fragments : exists found, call.fragments = .ok found ∧
    found.map ResolvedFragment.node = Positions.allRows.nodes

theorem PicksAll.run_slice (h : picking.PicksAll) {result : Dataset}
    (hresult : slice Positions.allRows data = .ok result) (settings : Settings) :
    (picking.run settings data).result = .ok result := by
  rcases h.fragments with ⟨found, hfound, hnodes⟩
  have hplan : picking.verb.plan (picking.requestOf data found) =
      .ok [.slice Positions.allRows] := by
    rw [h.verb]
    show (picking.requestOf data found).planSlice = _
    rw [Request.planSlice]
    show (Outcome.inFragment _ (Positions.ofNodes (found.map ResolvedFragment.node)) >>= _) = _
    rw [hnodes, Positions.ofNodes_allRows]
    rfl
  refine run_eq_ok_iff.2 ⟨found, _, hfound, hplan, ?_⟩
  rw [Operation.applyAll_single]
  exact hresult

/-- All rows of the groups by some columns are the rows that are arranged by these columns. -/
theorem slice_groups_eq_arrange (hgrouping : grouping.Names .groupBy columns)
    (hpicking : picking.PicksAll) (harranging : arranging.Names .arrange columns)
    (hdata : data.WellFormed) (hflat : data.groups = []) (hdistinct : columns.Nodup)
    (hcells : (data.withGroups columns).KeysAre Value.isDiscrete) (settings : Settings) :
    exists grouped picked arranged,
      (grouping.run settings data).result = .ok grouped ∧
        (picking.run settings grouped).result = .ok picked ∧
        (arranging.run settings data).result = .ok arranged ∧ picked.rows = arranged.rows := by
  have hcolumns : forall column, column ∈ columns -> column ∈ data.header := hcells.present
  have hnames : addedNames [] columns = columns := addedNames_of_nodup hdistinct
  rcases exists_slice_eq_sort hdata.width hcells Positions.offsets_allRows with
    ⟨rows, hslice, hsort⟩
  have hgrouped := hgrouping.run_groupBy hdata hcolumns settings
  rw [hnames] at hgrouped
  exact ⟨_, _, _, hgrouped, hpicking.run_slice hslice settings,
    harranging.run_arrange hdata hflat hcolumns hsort settings, rfl⟩

/-- Columns of cells of all kinds, with the number of the row beside them. -/
def mixture : Dataset :=
  flat ["k", "j", "i"]
    [[.str "v", .int 0, .int 1], [.missing, .int 0, .int 2], [.bool true, .str "a", .int 3],
      [.str "u", .missing, .int 4], [.int 1, .bool true, .int 5], [.int 0, .int 2, .int 6],
      [.missing, .bool false, .int 7]]

theorem mixture_wellFormed : mixture.WellFormed := by decide

theorem mixture_discreteKeys : (mixture.withGroups ["k", "j"]).KeysAre Value.isDiscrete := by
  constructor
  · decide
  · decide

/-- A call with the fragments `k` and `j`. -/
def keysCall (verb : Verb) : Invocation :=
  { verb := verb
    values := [.str "k", .str "j"]
    named := []
    env := Environment.empty
    registry := Registry.standard }

theorem keysCall_names (verb : Verb) : (keysCall verb).Names verb ["k", "j"] := by
  have hk : parse true "k" = .ok (.identifier "k") := by
    have hts : tokenize "k" = .ok [⟨.identifier "k", 0⟩, ⟨.finish, 1⟩] := rfl
    exact Grammar.parse_eq_ok_iff.mpr ⟨by decide, _, hts, rfl⟩
  have hj : parse true "j" = .ok (.identifier "j") := by
    have hts : tokenize "j" = .ok [⟨.identifier "j", 0⟩, ⟨.finish, 1⟩] := rfl
    exact Grammar.parse_eq_ok_iff.mpr ⟨by decide, _, hts, rfl⟩
  refine ⟨rfl, ["k", "j"].map fun name => ⟨.identifier name, false, false, name⟩, ?_, rfl⟩
  unfold fragments Verb.fragmentsOf
  simp only [keysCall, List.mapM_cons, List.mapM_nil, Verb.fragmentOf, hk, hj]
  rfl

def sliceAll : Invocation :=
  { keysCall .slice with values := [.str "1:n()"] }

theorem sliceAll_picksAll : sliceAll.PicksAll := by
  have hparse : parse true "1:n()" =
      .ok (.range (.literal (.int 1)) (.call countFunction [] [] false)) := by
    have hts : tokenize "1:n()" =
        .ok [⟨.integer 1, 0⟩, ⟨.symbol .colon, 1⟩, ⟨.identifier "n", 2⟩,
          ⟨.symbol .openParen, 3⟩, ⟨.symbol .closeParen, 4⟩, ⟨.finish, 5⟩] := rfl
    exact Grammar.parse_eq_ok_iff.mpr ⟨by decide, _, hts, rfl⟩
  refine ⟨rfl, [⟨.range (.literal (.int 1)) (.call countFunction [] [] false), true, false,
    "1:n()"⟩], ?_, rfl⟩
  unfold fragments Verb.fragmentsOf
  simp only [sliceAll, List.mapM_cons, List.mapM_nil, Verb.fragmentOf, hparse]
  rfl

theorem slice_groups_eq_arrange_mixture :
    exists grouped picked arranged,
      ((keysCall .groupBy).run Settings.initial mixture).result = .ok grouped ∧
        (sliceAll.run Settings.initial grouped).result = .ok picked ∧
        ((keysCall .arrange).run Settings.initial mixture).result = .ok arranged ∧
        picked.rows = arranged.rows :=
  slice_groups_eq_arrange (keysCall_names .groupBy) sliceAll_picksAll (keysCall_names .arrange)
    mixture_wellFormed rfl (by decide) mixture_discreteKeys Settings.initial

end Invocation
end Wrangle
