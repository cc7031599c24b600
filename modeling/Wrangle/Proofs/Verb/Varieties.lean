import Wrangle.Proofs.Verb.Scalars
import Wrangle.Proofs.Verb.Summarizing
import Wrangle.Proofs.Verb.Thinning

/-!
# Numbers of different cells

How many different cells a column has can be asked in three ways: by a summary, by the rows
that are left when repeated ones are dropped, and by the groups of the column.  A summary
collects cells, dropping rows compares keys in one pass, and groups are sorted; all of them
count the places of the cells.
-/

namespace Wrangle

open Dataset Compile

theorem length_eq_dedup {alpha : Type} [DecidableEq alpha] {items others : List alpha}
    (hitems : items.Nodup) (h : forall item, item ∈ items <-> item ∈ others) :
    items.length = others.dedup.length := by
  have hperm : items.Perm others.dedup := by
    rw [List.perm_ext_iff_of_nodup hitems (List.nodup_dedup _)]
    intro item
    rw [List.mem_dedup, h]
  exact hperm.length_eq

namespace Dataset

variable {data : Dataset} {groups : List Partition} {columns : List String} {column : String}

def keyCount (data : Dataset) : Nat :=
  (data.rows.map data.keyPlace).dedup.length

/-!
# Groups
-/

theorem DividesInto.length_eq_keyCount (h : data.DividesInto groups) (hwidth : data.HasWidth)
    (hkeys : data.KeysAre Value.isDiscrete) (hgrouped : data.isGrouped = true) :
    groups.length = data.keyCount := by
  have hnodup : (groups.map Partition.place).Nodup :=
    List.pairwise_map.2 ((partitions_ascending hwidth hkeys h.partitions).imp ne_of_lt)
  have hmem : forall place, place ∈ groups.map Partition.place <->
      place ∈ data.rows.map data.keyPlace := by
    intro place
    constructor
    · intro hplace
      rcases List.mem_map.1 hplace with ⟨group, hgroup, rfl⟩
      rcases exists_keyOf hwidth hkeys hgrouped h.partitions hgroup with ⟨row, hrow, hkey⟩
      refine List.mem_map.2 ⟨row, hrow, ?_⟩
      rw [keyPlace, hkey, Partition.place]
    · intro hplace
      rcases List.mem_map.1 hplace with ⟨row, hrow, rfl⟩
      exact h.mem_places hwidth hkeys hrow
  rw [keyCount, ← length_eq_dedup hnodup hmem, List.length_map]

/-!
# First rows
-/

section First

variable {indices : List Nat} {seen rows : List (List Value)}

def placesAt (indices : List Nat) (row : List Value) : List (Int ×ₗ Int ×ₗ String) :=
  (cellsAt indices row).map Value.place

theorem any_sameAll_iff {key : List Value} (hkey : DiscreteKey key)
    (hseen : forall other, other ∈ seen -> DiscreteKey other) :
    seen.any (Value.sameAll key) = true <->
      key.map Value.place ∈ seen.map (List.map Value.place) := by
  rw [List.any_eq_true, List.mem_map]
  constructor
  · rintro ⟨other, hother, hsame⟩
    rw [sameAll_iff hkey (hseen other hother),
      ← map_place_eq_iff hkey (hseen other hother)] at hsame
    exact ⟨other, hother, hsame.symm⟩
  · rintro ⟨other, hother, hplace⟩
    refine ⟨other, hother, ?_⟩
    rw [sameAll_iff hkey (hseen other hother), ← map_place_eq_iff hkey (hseen other hother)]
    exact hplace.symm

/-- The rows that are kept have all keys of the rows, but for those seen before, and each once. -/
theorem firstRows_places (hrows : AreReadable indices rows)
    (hseen : forall key, key ∈ seen -> DiscreteKey key) :
    exists kept, firstRows indices seen rows = .ok kept ∧
      (kept.map (placesAt indices)).Nodup ∧
      forall place, place ∈ kept.map (placesAt indices) <->
        place ∈ rows.map (placesAt indices) ∧ place ∉ seen.map (List.map Value.place) := by
  induction rows generalizing seen with
  | nil => exact ⟨[], rfl, List.nodup_nil, fun place => by simp⟩
  | cons row rest ih =>
      have hkey := (hrows row List.mem_cons_self).2
      have hrest : AreReadable indices rest :=
        fun other hother => hrows other (List.mem_cons_of_mem _ hother)
      rw [firstRows, distinctKey_eq hrows List.mem_cons_self]
      dsimp only
      by_cases hplace : placesAt indices row ∈ seen.map (List.map Value.place)
      · rcases ih hrest hseen with ⟨kept, hkept, hnodup, hmem⟩
        refine ⟨kept, ?_, hnodup, ?_⟩
        · rw [if_pos ((any_sameAll_iff hkey hseen).2 hplace), hkept]
        · intro place
          rw [hmem, List.map_cons, List.mem_cons]
          constructor
          · exact And.imp_left Or.inr
          · rintro ⟨rfl | hplaces, hnew⟩
            · exact absurd hplace hnew
            · exact ⟨hplaces, hnew⟩
      · have hnow : forall key, key ∈ cellsAt indices row :: seen -> DiscreteKey key :=
          List.forall_mem_cons.2 ⟨hkey, hseen⟩
        rcases ih hrest hnow with ⟨kept, hkept, hnodup, hmem⟩
        refine ⟨row :: kept, ?_, ?_, ?_⟩
        · rw [if_neg (mt (any_sameAll_iff hkey hseen).1 hplace), hkept]
          rfl
        · rw [List.map_cons, List.nodup_cons, hmem]
          refine ⟨?_, hnodup⟩
          rintro ⟨_, hnew⟩
          exact hnew List.mem_cons_self
        · intro place
          rw [List.map_cons, List.mem_cons, hmem, List.map_cons, List.mem_cons, List.map_cons,
            List.mem_cons]
          constructor
          · rintro (rfl | ⟨hplaces, hnew⟩)
            · exact ⟨Or.inl rfl, hplace⟩
            · exact ⟨Or.inr hplaces, fun hold => hnew (Or.inr hold)⟩
          · rintro ⟨rfl | hplaces, hnew⟩
            · exact Or.inl rfl
            · by_cases heq : place = placesAt indices row
              · exact Or.inl heq
              · exact Or.inr ⟨hplaces, fun hold => hold.elim heq hnew⟩

end First

theorem areReadable_of_keysAre (hwidth : data.HasWidth) (h : data.KeysAre Value.isDiscrete) :
    AreReadable data.keyIndices data.rows := by
  intro row hrow
  refine ⟨?_, discreteKey_keyOf h hrow⟩
  intro i hi
  rcases List.mem_map.1 hi with ⟨key, hkey, rfl⟩
  rw [hwidth row hrow]
  exact List.idxOf_lt_length_of_mem (h.present key hkey)

theorem unique_length (hwidth : data.HasWidth)
    (h : (data.withGroups columns).KeysAre Value.isDiscrete) (hsome : columns ≠ []) :
    exists rows, unique columns data = .ok { data with rows := rows } ∧
      rows.length = (data.withGroups columns).keyCount := by
  have hreadable : AreReadable (columns.map fun name => data.header.idxOf name) data.rows :=
    @areReadable_of_keysAre (data.withGroups columns) hwidth h
  rcases firstRows_places hreadable fun key hkey => absurd hkey List.not_mem_nil with
    ⟨rows, hrows, hnodup, hmem⟩
  refine ⟨rows, ?_, ?_⟩
  · have hasked : data.orAll columns = columns := if_neg (by simpa using hsome)
    have hpresent : (columns.all fun name => data.header.contains name) = true := by
      rw [List.all_eq_true]
      exact fun name hname => List.contains_iff_mem.2 (h.present name hname)
    unfold unique
    dsimp only
    rw [hasked, if_pos hpresent, hrows]
    rfl
  · have hplaces := length_eq_dedup hnodup fun place =>
      (hmem place).trans (and_iff_left List.not_mem_nil)
    rw [List.length_map] at hplaces
    exact hplaces

/-!
# Cells
-/

theorem variety_value_firstColumn (data : Dataset) (column : String) :
    Statistic.variety.value (data.firstColumn column) =
      .int (Int.ofNat (data.withGroups [column]).keyCount) := by
  have hplaces : data.rows.map (data.withGroups [column]).keyPlace =
      ((data.firstColumn column).map Value.place).map fun place => [place] := by
    rw [firstColumn, List.map_map, List.map_map]
    apply List.map_congr_left
    intro row _
    rw [keyPlace, keyOf_withGroups]
    rfl
  have hcount : (data.withGroups [column]).keyCount =
      ((data.firstColumn column).map Value.place).dedup.length := by
    rw [keyCount]
    show (data.rows.map (data.withGroups [column]).keyPlace).dedup.length = _
    rw [hplaces, List.dedup_map_of_injective (List.singleton_injective), List.length_map]
  rw [Statistic.value, hcount]

end Dataset

/-!
# Calls
-/

namespace Invocation

variable {call summing telling grouping : Invocation} {data : Dataset} {column : String}

/-- A call whose only fragment asks how many different cells a column has. -/
structure AsksVariety (call : Invocation) (column : String) : Prop where
  verb : call.verb = .summarize ∨ call.verb = .summarise
  fragments : exists fragment, call.fragments = .ok [fragment] ∧
    fragment.node = (Summary.statistic .variety column).node

/-- The name of a summary that has none of its own. -/
def varietyName (column : String) : String :=
  (Summary.statistic .variety column).node.unparse

theorem isReserved_varietyName (column : String) : isReserved (varietyName column) = false := by
  have htext : varietyName column = "n_distinct" ++ "(" ++ Text.joined ", "
      (Node.unparseAll [.identifier column] ++ []) ++ ")" := rfl
  rw [isReserved, htext]
  simp [String.toList_append, reservedStart, List.isPrefixOf]

theorem AsksVariety.run_eq (h : call.AsksVariety column) (hdata : data.WellFormed)
    (hflat : data.groups = []) (hkeys : (data.withGroups [column]).KeysAre Value.isDiscrete)
    (settings : Settings) :
    (call.run settings data).result = .ok (flat [varietyName column]
      [[.int (Int.ofNat (data.withGroups [column]).keyCount)]]) := by
  rcases h.fragments with ⟨fragment, hfragments, hnode⟩
  have hcolumn : column ∈ data.header := hkeys.present column List.mem_cons_self
  have hseen : (Summary.statistic .variety column).IsSeen
      (call.requestOf data [fragment]).fullScope := by
    intro name hname
    cases hname
    refine ⟨Request.mem_fullScope_of_mem hcolumn, ?_⟩
    rw [Request.fullScope_summaries]
    exact List.not_mem_nil
  have hassigns : Request.assigns .aggregate (call.requestOf data [fragment]).fullScope
      [fragment] = .ok [{ name := varietyName column
                          expr := (Summary.statistic .variety column).expr
                          source := some fragment.source }] := by
    rw [Request.assigns, Summary.assigns_of_isWritten (Or.inr ⟨hnode, rfl⟩) hseen]
    rfl
  have hexists : exists wide, Operation.applyAll call.env.functions
      (call.requestOf data [fragment]).rowColumns data = .ok wide :=
    hdata.exists_rowColumns fun _ => ⟨_, partitions_of_flat data hflat⟩
  rcases hexists with ⟨wide, hwide⟩
  have hpads : data.Pads (rowNames [fragment]) wide := hdata.pads_rowColumns hwide
  have hcells : forall cell, cell ∈ data.firstColumn column -> cell.isDiscrete = true := by
    intro cell hcell
    rcases List.mem_map.1 hcell with ⟨row, hrow, rfl⟩
    exact hkeys.cells column List.mem_cons_self row hrow
  have hvalue : (Scalar.reduced (.statistic .variety) column).value data =
      .ok (.int (Int.ofNat (data.withGroups [column]).keyCount)) := by
    have hcount : (Reducer.statistic .variety).value (data.firstColumn column) =
        .ok (.int (Int.ofNat (data.withGroups [column]).keyCount)) := by
      rw [← variety_value_firstColumn]
      exact Statistic.applyBound_variety hcells
    rw [Scalar.value, hcount]
    rfl
  have hevaluate : ((Scalar.reduced (.statistic .variety) column).expr .aggregate true).evaluate
      call.env.functions wide.wholeFrame =
        .ok (.int (Int.ofNat (data.withGroups [column]).keyCount)) :=
    (Scalar.evaluate_reduced (hpads.isWhole hdata) hcolumn .aggregate true).2 hvalue
  exact (run_summarize_single h.verb hdata hflat hfragments hassigns
    (isReserved_varietyName column) hwide).2 ⟨_, _, hevaluate, rfl, rfl⟩

theorem Names.run_distinct (h : call.Names .distinct [column]) (hdata : data.WellFormed)
    (hkeys : (data.withGroups [column]).KeysAre Value.isDiscrete) (settings : Settings) :
    exists rows, (call.run settings data).result = .ok { data with rows := rows } ∧
      rows.length = (data.withGroups [column]).keyCount := by
  rcases h.fragments with ⟨found, hfound, hnames⟩
  have hquiet := areQuiet_of_names hnames
  rcases List.map_eq_singleton_iff.1 hnames with ⟨fragment, rfl, hnode⟩
  have hcolumns : Request.columnNames (call.requestOf data [fragment]).fullScope [] [fragment] =
      .ok [column] := by
    rw [fullScope_of_quiet hfound hquiet, Request.columnNames, hnode]
    show (Outcome.inFragment _ (selectNames _ (.identifier column)) >>= _) = _
    rw [selectNames_identifier (hkeys.present column List.mem_cons_self)]
    rfl
  rcases @unique_length data.ungroup _ hdata.width hkeys (List.cons_ne_nil _ _) with
    ⟨rows, hunique, hlength⟩
  refine ⟨rows, ?_, hlength⟩
  have hplan : call.verb.plan (call.requestOf data [fragment]) =
      .ok ((call.requestOf data [fragment]).whileFlat ([.unique [column]] ++ [.dropReserved])) := by
    rw [h.verb]
    show (call.requestOf data [fragment]).planDistinct = _
    rw [Request.planDistinct]
    show (Request.columnNames _ [] [fragment] >>= _) = _
    rw [hcolumns, ok_bind, Request.enclosed, rowColumns_of_quiet hfound hquiet]
    rfl
  refine run_eq_ok_iff.2 ⟨_, _, hfound, hplan, applyAll_whileFlat hdata ?_⟩
  rw [Operation.applyAll_append, Operation.applyAll_single]
  show (unique [column] data.ungroup >>= _) = _
  rw [hunique, ok_bind]
  exact Request.dropReserved_of_unreserved hdata.unreserved

/-- The number of different cells of a column, the number of rows that are left when rows are told
apart by the column, and the number of groups of the column are the same. -/
theorem variety_counts_agree (hsumming : summing.AsksVariety column)
    (htelling : telling.Names .distinct [column]) (hgrouping : grouping.Names .groupBy [column])
    (hdata : data.WellFormed) (hflat : data.groups = []) (hcolumn : column ∈ data.header)
    (hcells : forall cell, cell ∈ data.firstColumn column -> cell.isDiscrete = true)
    (settings : Settings) :
    exists (count : Nat) (rows : List (List Value)) (grouped : Dataset) (groups : List Partition),
      (summing.run settings data).result =
        .ok (flat [varietyName column] [[.int (Int.ofNat count)]]) ∧
      (telling.run settings data).result = .ok { data with rows := rows } ∧
      rows.length = count ∧
      (grouping.run settings data).result = .ok grouped ∧ grouped.partitions = .ok groups ∧
      groups.length = count := by
  have hkeys : (data.withGroups [column]).KeysAre Value.isDiscrete := by
    constructor
    · intro key hkey
      rw [List.mem_singleton.1 hkey]
      exact hcolumn
    · intro key hkey row hrow
      rw [List.mem_singleton.1 hkey]
      exact hcells _ (List.mem_map_of_mem hrow)
  rcases htelling.run_distinct hdata hkeys settings with ⟨rows, hrows, hlength⟩
  rcases @exists_dividesInto (data.withGroups [column]) hdata.width hkeys with ⟨groups, hgroups⟩
  refine ⟨_, rows, data.withGroups [column], groups, hsumming.run_eq hdata hflat hkeys settings,
    hrows, hlength, ?_, hgroups.partitions, hgroups.length_eq_keyCount hdata.width hkeys rfl⟩
  exact hgrouping.run_groupBy hdata (fun name hname => hkeys.present name hname) settings

/-- A column in which a number occurs again as a truth value, but not as a text, beside one whose
cells are of other kinds. -/
def mixedColumn : Dataset :=
  flat ["x", "y"] [[.int 1, .list []], [.bool true, .missing], [.str "1", .int 2],
    [.missing, .int 2], [.missing, .list []]]

theorem asking_asksVariety :
    ({ textCall "n_distinct(x)" with verb := .summarize } : Invocation).AsksVariety "x" := by
  have hfragment : Verb.fragmentOf (.str "n_distinct(x)") =
      .ok (.call "n_distinct" [.identifier "x"] [] false, "n_distinct(x)") := by
    have hts : tokenize "n_distinct(x)" =
        .ok [⟨.identifier "n_distinct", 0⟩, ⟨.symbol .openParen, 10⟩, ⟨.identifier "x", 11⟩,
          ⟨.symbol .closeParen, 12⟩, ⟨.finish, 13⟩] := rfl
    exact fragmentOf_text (by decide) hts rfl
  refine ⟨Or.inl rfl, ⟨.call "n_distinct" [.identifier "x"] [] false, false, false,
    "n_distinct(x)"⟩, ?_, rfl⟩
  show (textCall "n_distinct(x)").fragments = _
  rw [textCall, fragments_value, hfragment]
  rfl

theorem textCall_names (verb : Verb) :
    ({ textCall "x" with verb := verb } : Invocation).Names verb ["x"] := by
  have hfragment : Verb.fragmentOf (.str "x") = .ok (.identifier "x", "x") := by
    have hts : tokenize "x" = .ok [⟨.identifier "x", 0⟩, ⟨.finish, 1⟩] := rfl
    exact fragmentOf_text (by decide) hts rfl
  refine ⟨rfl, [⟨.identifier "x", false, false, "x"⟩], ?_, rfl⟩
  show (textCall "x").fragments = _
  rw [textCall, fragments_value, hfragment]
  rfl

theorem variety_counts_agree_mixed :
    mixedColumn.WellFormed ∧
    exists (count : Nat) (rows : List (List Value)) (grouped : Dataset) (groups : List Partition),
      ({ textCall "n_distinct(x)" with verb := .summarize }.run Settings.initial
        mixedColumn).result = .ok (flat [varietyName "x"] [[.int (Int.ofNat count)]]) ∧
      ({ textCall "x" with verb := .distinct }.run Settings.initial mixedColumn).result =
        .ok { mixedColumn with rows := rows } ∧
      rows.length = count ∧
      ({ textCall "x" with verb := .groupBy }.run Settings.initial mixedColumn).result =
        .ok grouped ∧ grouped.partitions = .ok groups ∧ groups.length = count := by
  have hdata : mixedColumn.WellFormed := by decide
  have hcells : forall cell, cell ∈ mixedColumn.firstColumn "x" -> cell.isDiscrete = true := by
    show forall cell, cell ∈ [Value.int 1, .bool true, .str "1", .missing, .missing] -> _
    simp [Value.isDiscrete]
  exact ⟨hdata, variety_counts_agree asking_asksVariety (textCall_names .distinct)
    (textCall_names .groupBy) hdata rfl (by decide) hcells Settings.initial⟩

end Invocation
end Wrangle
