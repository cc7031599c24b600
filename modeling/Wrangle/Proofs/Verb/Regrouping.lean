import Wrangle.Proofs.Function.OnColumns
import Wrangle.Proofs.Verb.Chaining
import Wrangle.Proofs.Verb.Scalars

/-!
# What assignments leave alone

A call that assigns columns replaces the columns of the names that it assigns, or adds
them, and touches nothing else.  The reserved columns that stand between the columns of
the dataset and the new ones while the assignments are made leave no trace: the columns
are found by their names, and the header tells their places.
-/

namespace Wrangle

open Compile

namespace Dataset

variable {data result : Dataset}

/-- The cells at a place of the rows, from the first row to the last. -/
def cellsInPlace (data : Dataset) (place : Nat) : List (Option Value) :=
  data.rows.map fun row => row[place]?

theorem IsRegular.cellsInPlace_eq (h : data.IsRegular) {place : Nat} {name : String}
    (hname : data.header[place]? = some name) :
    data.cellsInPlace place = (data.firstColumn name).map some := by
  rcases List.getElem?_eq_some_iff.1 hname with ⟨hplace, hget⟩
  have hidx : data.header.idxOf name = place := by
    rw [← hget]
    exact h.nodup.idxOf_getElem place hplace
  unfold cellsInPlace firstColumn
  rw [List.map_map]
  apply List.map_congr_left
  intro row hrow
  have hlt : place < row.length := by
    rw [h.width row hrow]
    exact hplace
  rw [Function.comp_apply, hidx, cellAt, List.getElem?_eq_getElem hlt, Option.getD_some]

/-- Datasets with the same column under a name have the same cells at the place of the name. -/
theorem IsRegular.cellsInPlace_congr (h : data.IsRegular) (hresult : result.IsRegular)
    {place : Nat} {name : String} (hname : data.header[place]? = some name)
    (hsame : result.header[place]? = some name)
    (hcolumn : result.columns.lookup name = data.columns.lookup name) :
    result.cellsInPlace place = data.cellsInPlace place := by
  rw [h.lookup_columns, if_pos (List.mem_of_getElem? hname), hresult.lookup_columns,
    if_pos (List.mem_of_getElem? hsame)] at hcolumn
  rw [h.cellsInPlace_eq hname, hresult.cellsInPlace_eq hsame, Option.some.inj hcolumn]

end Dataset

namespace Invocation

open Dataset

variable {call : Invocation} {data result : Dataset} {fragments : List ResolvedFragment}

theorem exists_run_of_mutated (hverb : call.verb = .mutate)
    (hfragments : call.fragments = .ok fragments)
    (hsome : (call.mutated fragments data).toOption.isSome = true) (settings : Settings) :
    exists result, (call.run settings data).result = .ok result := by
  rcases Option.isSome_iff_exists.1 hsome with ⟨result, hresult⟩
  cases hmutated : call.mutated fragments data with
  | error failure =>
      rw [hmutated] at hresult
      cases hresult
  | ok result => exact ⟨result, (run_mutate hverb).2 ⟨fragments, hfragments, hmutated⟩⟩

/-- The names that the fragments of a call assign, in order, each as often as it is assigned. -/
def targets (call : Invocation) (data : Dataset) : Outcome (List String) := do
  let request <- call.request data
  let assigns <- Request.assigns .transform request.fullScope request.fragments
  .ok (assigns.map Assign.name)

theorem targets_eq_ok {assigns : List Assign} (hfragments : call.fragments = .ok fragments)
    (hassigns : Request.assigns .transform (call.requestOf data fragments).fullScope fragments =
      .ok assigns) : call.targets data = .ok (assigns.map Assign.name) := by
  have hrequest := request_of_fragments hfragments data
  unfold targets
  rw [hrequest, ok_bind]
  show (Request.assigns .transform (call.requestOf data fragments).fullScope fragments >>= _) = _
  rw [hassigns]
  rfl

/-- A call that assigns columns, none of them reserved, changes only these: the rows, their order
and the keys stay, the new columns follow the header in the order of their first assignments, and
the other columns keep their cells and their places. -/
theorem mutate_changes_targets_only (hverb : call.verb = .mutate) (hdata : data.WellFormed)
    {settings : Settings} (hrun : (call.run settings data).result = .ok result)
    (hunreserved : forall targets, call.targets data = .ok targets ->
      forall name, name ∈ targets -> isReserved name = false) :
    exists targets, call.targets data = .ok targets ∧
      result.nrows = data.nrows ∧
      result.groups = data.groups ∧
      result.header =
        data.header ++ (targets.filter fun name => !data.header.contains name).eraseDups ∧
      forall place name, data.header[place]? = some name -> name ∉ targets ->
        result.header[place]? = some name ∧
          result.cellsInPlace place = data.cellsInPlace place := by
  rcases (run_mutate hverb).1 hrun with ⟨fragments, hfragments, hmutated⟩
  rcases (mutated_eq_ok_iff hdata).1 hmutated with
    ⟨assigns, wide, last, hassigns, hwide, hlast, rfl⟩
  have htargets := targets_eq_ok hfragments hassigns
  have hpads : data.Pads (rowNames fragments) wide := hdata.pads_rowColumns hwide
  rcases hpads.regular.transform hlast with ⟨hregular, hgroups, _⟩
  rcases hpads.regular.transform_unset hlast with ⟨hnrows, hcolumns⟩
  have hheader : (last.dropped isReserved).header = data.header ++
      ((assigns.map Assign.name).filter fun name => !data.header.contains name).eraseDups := by
    have hall : ((assigns.map Assign.name).filter fun name => !isReserved name) =
        assigns.map Assign.name := by
      rw [List.filter_eq_self]
      intro name hname
      rw [hunreserved _ htargets name hname]
      rfl
    rw [hpads.header_transform hlast, hall, foldl_headerWith]
  refine ⟨_, htargets, ?_, ?_, hheader, ?_⟩
  · rw [dropped_nrows, hnrows, hpads.nrows]
  · rw [dropped_groups, hgroups, hpads.groups]
  · intro place name hname hunset
    have hsame : (last.dropped isReserved).header[place]? = some name := by
      rw [hheader, List.getElem?_append_left (List.getElem?_eq_some_iff.1 hname).1, hname]
    have hkept := hdata.unreserved name (List.mem_of_getElem? hname)
    refine ⟨hsame, hdata.isRegular.cellsInPlace_congr (hregular.dropped hregular.unreserved)
      hname hsame ?_⟩
    rw [hregular.lookup_dropped hregular.unreserved hkept, hcolumns name hunset,
      hpads.lookup hkept]

/-- A dataset with two groups whose rows alternate. -/
def alternating : Dataset where
  header := ["k", "x"]
  rows := [[.str "a", .int 1], [.str "b", .int 2], [.str "a", .missing]]
  groups := ["k"]

theorem alternating_wellFormed : alternating.WellFormed := by decide

def mutateAcross : Invocation :=
  { copyColumn with
    values := [.str "y = n()", .str "across(x, f)"]
    named := [("x", .sym "y")]
    env := { values := [("f", .function (.library .isMissing))], functions := [] } }

def acrossFragment : ResolvedFragment where
  node := .apply "across" [.identifier "x", .identifier "f"]
  mentionsCount := false
  mentionsRowNumber := false
  source := "across(x, f)"

def replacingFragment : ResolvedFragment where
  node := .assignment "x" (.identifier "y")
  mentionsCount := false
  mentionsRowNumber := false
  source := "x = y"

theorem mutateAcross_fragments :
    mutateAcross.fragments = .ok [countingFragment, acrossFragment, replacingFragment] := by
  have hacross : Verb.fragmentOf (.str "across(x, f)") =
      .ok (acrossFragment.node, "across(x, f)") := by
    have hts : tokenize "across(x, f)" =
        .ok [⟨.identifier "across", 0⟩, ⟨.symbol .openParen, 6⟩, ⟨.identifier "x", 7⟩,
          ⟨.symbol .comma, 8⟩, ⟨.identifier "f", 10⟩, ⟨.symbol .closeParen, 11⟩,
          ⟨.finish, 12⟩] := rfl
    exact fragmentOf_text (by decide) hts rfl
  unfold fragments Verb.fragmentsOf
  simp only [mutateAcross, List.mapM_cons, List.mapM_nil, fragmentOf_counting, hacross]
  rfl

theorem mutateAcross_targets : mutateAcross.targets alternating = .ok ["y", "x_f", "x"] := by
  have hassigns : Request.assigns .transform (mutateAcross.requestOf alternating
      [countingFragment, acrossFragment, replacingFragment]).fullScope
      [countingFragment, acrossFragment, replacingFragment] =
        .ok [{ name := "y", expr := .column countColumn, source := some "y = n()" },
          { name := "x_f"
            expr := .broadcast "f" (.library .isMissing) [.column "x"] []
            source := some "across(x, f)" },
          { name := "x", expr := .column "y", source := some "x = y" }] := rfl
  exact targets_eq_ok mutateAcross_fragments hassigns

theorem mutateAcross_succeeds :
    exists result, (mutateAcross.run Settings.initial alternating).result = .ok result :=
  exists_run_of_mutated rfl mutateAcross_fragments (by decide +kernel) Settings.initial

theorem mutate_changes_targets_only_mutateAcross :
    alternating.WellFormed ∧
    exists result targets, (mutateAcross.run Settings.initial alternating).result = .ok result ∧
      mutateAcross.targets alternating = .ok targets ∧
      result.nrows = alternating.nrows ∧ result.groups = alternating.groups ∧
      result.header = alternating.header ++
        (targets.filter fun name => !alternating.header.contains name).eraseDups ∧
      forall place name, alternating.header[place]? = some name -> name ∉ targets ->
        result.header[place]? = some name ∧
          result.cellsInPlace place = alternating.cellsInPlace place := by
  have hunreserved : forall targets, mutateAcross.targets alternating = .ok targets ->
      forall name, name ∈ targets -> isReserved name = false := by
    intro targets htargets
    cases mutateAcross_targets.symm.trans htargets
    decide
  rcases mutateAcross_succeeds with ⟨result, hrun⟩
  rcases mutate_changes_targets_only rfl alternating_wellFormed hrun hunreserved with
    ⟨targets, htargets, hframe⟩
  exact ⟨alternating_wellFormed, result, targets, hrun, htargets, hframe⟩

end Invocation

/-!
# Groups between assignments

The sizes of the groups are written into a reserved column before the first assignment of a
call.  A function on whole columns sees the groups as they are when its turn comes, and an
assignment to a grouping column changes them.  Where the reserved column is left alone, the
number of rows without the length of a column is the size that the group of a row had in the
beginning, without the size that it has now.
-/

namespace Dataset

variable {callers : CallerFunctions} {data : Dataset} {groups : List Partition} {nrows i : Nat}

/-!
# Sizes at rows
-/

/-- The size of the first group that a row is in. -/
def sizeAt (groups : List Partition) (i : Nat) : Nat :=
  match groups.find? fun group => group.rows.contains i with
  | some group => group.size
  | none => 0

theorem lookup_zip_map {rows : List Nat} (hi : i ∈ rows) (values : Nat -> Value) :
    (rows.zip (rows.map values)).lookup i = some (values i) := by
  induction rows with
  | nil => cases hi
  | cons first rest ih =>
      rw [List.map_cons, List.zip_cons_cons, List.lookup_cons]
      by_cases hfirst : i = first
      · rw [hfirst, beq_self_eq_true]
      · rw [beq_false_of_ne hfirst]
        exact ih ((List.mem_cons.1 hi).resolve_left hfirst)

theorem lookup_placed_sized (h : exists group, group ∈ groups ∧ i ∈ group.rows)
    (values : Nat -> Nat -> Value) :
    (placed groups fun group => group.rows.map (values group.size)).lookup i =
      some (values (sizeAt groups i) i) := by
  induction groups with
  | nil =>
      rcases h with ⟨group, hgroup, _⟩
      cases hgroup
  | cons first rest ih =>
      rw [placed_cons, List.lookup_append, sizeAt, List.find?_cons]
      by_cases hfirst : i ∈ first.rows
      · rw [lookup_zip_map hfirst, List.contains_iff_mem.2 hfirst]
        rfl
      · have hrest : exists group, group ∈ rest ∧ i ∈ group.rows := by
          rcases h with ⟨group, hgroup, hi⟩
          rcases List.mem_cons.1 hgroup with rfl | hgroup
          · exact absurd hi hfirst
          · exact ⟨group, hgroup, hi⟩
        have hnot : first.rows.contains i = false := by simpa using hfirst
        rw [lookup_zip_eq_none hfirst, Option.none_or, hnot]
        exact ih hrest

theorem scattered_sized (h : forall i, i < nrows -> exists group, group ∈ groups ∧ i ∈ group.rows)
    (values : Nat -> Nat -> Value) :
    scattered nrows (placed groups fun group => group.rows.map (values group.size)) =
      (List.range nrows).map fun i => values (sizeAt groups i) i := by
  unfold scattered
  apply List.map_congr_left
  intro i hi
  rw [lookup_placed_sized (h i (List.mem_range.1 hi))]
  rfl

theorem groupSizes_eq_sizeAt (hgroups : data.partitions = .ok groups) :
    groupSizes groups data.nrows =
      (List.range data.nrows).map fun i => .int (Int.ofNat (sizeAt groups i)) := by
  have hsized : (fun group : Partition =>
      List.replicate group.size (Value.int (Int.ofNat group.size))) =
        fun group => group.rows.map fun _ => .int (Int.ofNat group.size) := by
    funext group
    exact (List.map_const' ..).symm
  rw [groupSizes_eq, hsized]
  exact scattered_sized (fun i hi => exists_group hgroups hi) fun size _ => .int (Int.ofNat size)

theorem Pads.firstColumn_countColumn {names : List String} {wide seen : Dataset}
    (h : data.Pads names wide) (hcount : countColumn ∈ names) {assigns : List Assign}
    (hseen : Dataset.transform callers assigns wide = .ok seen)
    (hunset : countColumn ∉ assigns.map Assign.name) (hgroups : data.partitions = .ok groups) :
    seen.firstColumn countColumn =
      (List.range data.nrows).map fun i => .int (Int.ofNat (sizeAt groups i)) := by
  have hkept := (h.regular.transform_unset hseen).2 countColumn hunset
  rw [(h.regular.transform hseen).1.lookup_columns,
    if_pos (h.regular.mem_transform_header hseen (h.mem_header hcount))] at hkept
  rcases h.columns countColumn hcount with ⟨others, hothers, hlookup⟩
  cases hgroups.symm.trans hothers
  rw [hlookup] at hkept
  rw [Option.some.inj hkept, ← groupSizes_eq_sizeAt hgroups]
  rfl

end Dataset

/-!
# The difference
-/

def Scalar.sizeMinusLength (x : String) : Scalar :=
  .binary .subtract .size (.reduced .length x)

/-- What the difference compiles to: whether it goes through the rows depends on the registry. -/
def differenceExpr (scope : Scope) (x : String) : Expr :=
  callOf scope .transform true "-" (.binary .subtract)
    [.column countColumn, .apply "length" (.library .length) [.column x] []] []

theorem expr_sizeMinusLength {scope : Scope} {x : String} (hsummaries : scope.summaries = [])
    (hx : x ∈ scope.columns) (hwhole : scope.registry.contains "length" = true) :
    Compile.expr scope .transform true (Scalar.sizeMinusLength x).node =
      .ok (differenceExpr scope x) := by
  have hlength : Compile.expr scope .transform false (Scalar.reduced .length x).node =
      .ok (.apply "length" (.library .length) [.column x] []) := by
    rw [Scalar.expr_reducer, Scalar.expr_identifier hsummaries hx]
    exact congrArg Except.ok (Scalar.callOf_whole hwhole .transform false _ _)
  rw [Scalar.sizeMinusLength, Scalar.node, Node.binary, Compile.expr, Compile.exprs,
    Scalar.expr_size (Or.inl rfl), Compile.exprs, hlength, Compile.exprs]
  rfl

/-- What is left of a counted number of rows without a size. -/
def leftover (counted : Value) (size : Nat) : Value :=
  (BinaryOperator.subtract.combine counted (.int (Int.ofNat size))).toOption.getD .missing

theorem leftover_eq {counted w : Value} {size : Nat}
    (h : BinaryOperator.subtract.combine counted (.int (Int.ofNat size)) = .ok w) :
    leftover counted size = w := by
  rw [leftover, h]
  rfl

namespace Expr

variable {callers : CallerFunctions} {frame : Frame} {x : String} {cells : List Value}
variable {result : Value}

theorem evaluate_length (hcells : frame.columns.lookup x = some cells) :
    evaluate callers frame (.apply "length" (.library .length) [.column x] []) =
      .ok (.int (Int.ofNat cells.length)) := by
  have hcolumn : evaluateAll callers frame [.column x] = .ok [.column cells] := by
    rw [evaluateAll_single]
    refine ⟨_, ?_, rfl⟩
    rw [evaluate, Frame.column?, hcells]
  exact (evaluate_apply hcolumn rfl).2
    ⟨_, Reducer.length.apply_eq cells callers, rfl⟩

theorem overRows_subtract {counts : List Value} {size : Nat}
    (h : overRows "-" [.column counts, .int (Int.ofNat size)] (fun i =>
        elementCall callers "-" (.binary .subtract)
          [atRow i (.column counts), .int (Int.ofNat size)] []) = .ok result) :
    result = .column (counts.map fun counted => leftover counted size) := by
  have hcount : rowCount [.column counts, .int (Int.ofNat size)] = .ok (some counts.length) := by
    apply rowCount_of_column _ List.mem_cons_self
    intro value hvalue
    rcases List.mem_cons.1 hvalue with rfl | hvalue
    · exact Or.inl ⟨_, rfl, rfl⟩
    · rw [List.mem_singleton.1 hvalue]
      exact Or.inr rfl
  rw [overRows, hcount, ok_bind] at h
  rcases map_eq_ok_iff.1 h with ⟨values, hvalues, rfl⟩
  have hrow : forall i, i ∈ List.range counts.length -> elementCall callers "-"
      (.binary .subtract) [atRow i (.column counts), .int (Int.ofNat size)] [] =
        .ok (leftover (atRow i (.column counts)) size) := by
    intro i hi
    rcases exists_of_mapM_eq_ok hvalues hi with ⟨w, hw⟩
    rw [leftover_eq (elementCall_binary.1 hw)]
    exact hw
  cases hvalues.symm.trans (mapM_eq_ok hrow)
  congr 1
  apply List.ext_getElem
  · simp
  · intro i hi hi'
    rw [List.length_map] at hi'
    simp [atRow, hi']

/-- Row by row the length is taken from what was counted; as a whole the column for this is
refused. -/
theorem evaluate_differenceExpr {scope : Scope} {counts : List Value}
    (hcounts : frame.columns.lookup countColumn = some counts)
    (hcells : frame.columns.lookup x = some cells)
    (h : evaluate callers frame (differenceExpr scope x) = .ok result) :
    result = .column (counts.map fun counted => leftover counted cells.length) := by
  have hargs : evaluateAll callers frame
      [.column countColumn, .apply "length" (.library .length) [.column x] []] =
        .ok [.column counts, .int (Int.ofNat cells.length)] := by
    rw [evaluateAll_pair]
    refine ⟨_, _, ?_, evaluate_length hcells, rfl⟩
    rw [evaluate, Frame.column?, hcounts]
  rw [differenceExpr, callOf] at h
  split at h
  · rw [evaluate, hargs, ok_bind, evaluateNamed, ok_bind] at h
    exact overRows_subtract h
  · rcases (evaluate_apply hargs rfl).1 h with ⟨w, hw, _⟩
    have hw : Outcome.ofFault (BinaryOperator.subtract.apply (.column counts)
        (.int (Int.ofNat cells.length))) = .ok w := hw
    have honColumns := (BinaryOperator.apply_iff_onColumns rfl (Or.inl rfl)).1
      (ofFault_eq_ok_iff.1 hw)
    exact absurd honColumns (BinaryOperator.not_onColumns (Or.inl rfl))

end Expr

namespace Dataset

variable {callers : CallerFunctions} {seen : Dataset} {groups : List Partition}
variable {values : List Value} {assign : Assign} {scope : Scope} {x : String}

theorem groupValues_differenceExpr (hexpr : assign.expr = differenceExpr scope x)
    (hregular : seen.IsRegular) (hx : x ∈ seen.header) (hcount : countColumn ∈ seen.header)
    {group : Partition} (h : groupValues callers seen.columns assign group.rows = .ok values) :
    values = group.rows.map fun i =>
      leftover (cellAt i (seen.firstColumn countColumn)) group.size := by
  have hcells : forall name, name ∈ seen.header ->
      (frame seen.columns group.rows).columns.lookup name =
        some (cellsAt group.rows (seen.firstColumn name)) := by
    intro name hname
    rw [frame, lookup_restricted, hregular.lookup_columns, if_pos hname, Option.map_some]
  have hlength : forall name,
      (cellsAt group.rows (seen.firstColumn name)).length = group.rows.length :=
    fun _ => List.length_map _
  rw [groupValues, inFragment_eq_ok_iff, hexpr] at h
  rcases bind_eq_ok_iff.1 h with ⟨result, hresult, hspread⟩
  cases Expr.evaluate_differenceExpr (hcells _ hcount) (hcells x hx) hresult
  rw [spread, if_pos ((List.length_map _).trans (hlength countColumn)), hlength, cellsAt,
    List.map_map] at hspread
  exact (Except.ok.inj hspread).symm

theorem computed_differenceExpr (hexpr : assign.expr = differenceExpr scope x)
    (hregular : seen.IsRegular) (hx : x ∈ seen.header) (hcount : countColumn ∈ seen.header)
    (hgroups : seen.partitions = .ok groups) (h : seen.computed callers assign = .ok values) :
    values = (List.range seen.nrows).map fun i =>
      leftover (cellAt i (seen.firstColumn countColumn)) (sizeAt groups i) := by
  rcases bind_eq_ok_iff.1 h with ⟨others, hothers, h⟩
  cases hgroups.symm.trans (ofFault_eq_ok_iff.1 hothers)
  rcases bind_eq_ok_iff.1 h with ⟨found, hfound, hvalues⟩
  cases hvalues
  have hgiven : forall group, group ∈ groups ->
      exists values, groupValues callers seen.columns assign group.rows = .ok values :=
    fun group hgroup => exists_groupValues hfound hgroup
  have hplaced : placed groups (valuesFor callers seen.columns assign) =
      placed groups fun group => group.rows.map fun i =>
        leftover (cellAt i (seen.firstColumn countColumn)) group.size := by
    apply List.flatMap_congr
    intro group hgroup
    rcases hgiven group hgroup with ⟨given, hgiven⟩
    rw [valuesFor_eq hgiven, groupValues_differenceExpr hexpr hregular hx hcount hgiven]
  cases (placedValues_eq_ok hgiven).symm.trans hfound
  rw [hplaced]
  exact scattered_sized (fun i hi => exists_group hgroups hi)
    fun size i => leftover (cellAt i (seen.firstColumn countColumn)) size

end Dataset

/-!
# Calls
-/

namespace Invocation

open Dataset

variable {call : Invocation} {data result : Dataset} {before : List ResolvedFragment}
variable {fragment : ResolvedFragment} {target x : String}

/-- A call whose last fragment sets a column to the number of rows without the length of a
column. -/
structure ComparesSizes (call : Invocation) (data : Dataset) (before : List ResolvedFragment)
    (fragment : ResolvedFragment) (target x : String) : Prop where
  verb : call.verb = .mutate
  fragments : call.fragments = .ok (before ++ [fragment])
  node : fragment.node = .assignment target (Scalar.sizeMinusLength x).node
  whole : call.registry.contains "length" = true
  column : x ∈ data.header
  unreserved : isReserved target = false

/-- The dataset that the fragments behind some others see. -/
def seenAfter (call : Invocation) (data : Dataset) (before after : List ResolvedFragment) :
    Outcome Dataset := do
  let request := call.requestOf data (before ++ after)
  let assigns <- Request.assigns .transform request.fullScope before
  let wide <- Operation.applyAll call.env.functions request.rowColumns data
  transform call.env.functions assigns wide

namespace ComparesSizes

variable (h : call.ComparesSizes data before fragment target x)

include h

/-- The last fragment compiles to the difference, whatever is computed before. -/
theorem assigns_eq (names : List String) :
    exists scope, Request.assigns .transform (Request.extendScope .transform
        (call.requestOf data (before ++ [fragment])).fullScope names) [fragment] =
      .ok [{ name := target, expr := differenceExpr scope x, source := some fragment.source }] := by
  refine ⟨Request.extendScope .transform
    (call.requestOf data (before ++ [fragment])).fullScope names, ?_⟩
  rw [Request.assigns, h.node, Scalar.assigns_assignment, expr_sizeMinusLength]
  · rfl
  · exact (Scope.addColumns_summaries ..).trans (Request.fullScope_summaries _)
  · exact Request.mem_extendScope_iff.2 (Or.inl (Request.mem_fullScope_of_mem h.column))
  · have hregistry : (Request.extendScope .transform
        (call.requestOf data (before ++ [fragment])).fullScope names).registry = call.registry := by
      show (Scope.addColumns _ names).registry = _
      rw [Scope.addColumns_eq]
      exact Request.fullScope_registry _
    rw [hregistry, h.whole]

theorem countColumn_mem : countColumn ∈ rowNames (before ++ [fragment]) := by
  have hmem : fragment ∈ before ++ [fragment] := List.mem_append_right _ List.mem_cons_self
  have hcalls : fragment.node.mentionsBareCall countFunction = true :=
    Scalar.IsWritten.mentionsBareCall (Or.inl h.node) rfl
  exact mem_rowNames_iff.2
    ⟨fragment, hmem, Or.inl ⟨(fragments_tell h.fragments hmem).count hcalls, rfl⟩⟩

/-- A call that succeeds has computed the difference on what the fragments before have made of the
padded dataset. -/
theorem exists_seen (hdata : data.WellFormed) {settings : Settings}
    (hrun : (call.run settings data).result = .ok result) :
    exists assigns wide seen scope values,
      call.targets data = .ok (assigns.map Assign.name ++ [target]) ∧
      data.Pads (rowNames (before ++ [fragment])) wide ∧
      transform call.env.functions assigns wide = .ok seen ∧
      call.seenAfter data before [fragment] = .ok seen ∧
      seen.computed call.env.functions
        { name := target, expr := differenceExpr scope x, source := some fragment.source } =
          .ok values ∧
      result = (seen.setColumn target values).dropped isReserved := by
  rcases (run_mutate h.verb).1 hrun with ⟨found, hfound, hmutated⟩
  cases h.fragments.symm.trans hfound
  rcases (mutated_eq_ok_iff hdata).1 hmutated with
    ⟨assigns, wide, last, hassigns, hwide, hlast, hresult⟩
  have htargets := targets_eq_ok hfound hassigns
  rcases Request.assigns_append_eq_ok_iff.1 hassigns with ⟨first, second, hfirst, hsecond, rfl⟩
  rcases h.assigns_eq (first.map Assign.name) with ⟨scope, hdifference⟩
  cases hdifference.symm.trans hsecond
  rw [List.map_append, List.map_singleton] at htargets
  rw [transform_append] at hlast
  rcases bind_eq_ok_iff.1 hlast with ⟨seen, hseen, hlast⟩
  rcases bind_eq_ok_iff.1 hlast with ⟨values, hvalues, hlast⟩
  cases hlast
  refine ⟨first, wide, seen, scope, values, htargets, hdata.pads_rowColumns hwide, hseen, ?_,
    hvalues, hresult⟩
  unfold seenAfter
  dsimp only
  rw [hfirst, ok_bind, hwide, ok_bind, hseen]

end ComparesSizes

theorem map_leftover_sizes (n : Nat) (sizes others : Nat -> Nat) :
    (List.range n).map (fun i => leftover
        (cellAt i ((List.range n).map fun i => .int (Int.ofNat (sizes i)))) (others i)) =
      (List.range n).map fun i => .int (Int.ofNat (sizes i) - Int.ofNat (others i)) := by
  apply List.map_congr_left
  intro i hi
  rw [cellAt, List.getElem?_map, List.getElem?_range (List.mem_range.1 hi)]
  rfl

theorem map_range_eq_zeros_iff {n : Nat} {sizes others : Nat -> Nat} :
    (List.range n).map (fun i => Value.int (Int.ofNat (sizes i) - Int.ofNat (others i))) =
        List.replicate n (.int 0) <->
      forall i, i < n -> others i = sizes i := by
  rw [List.eq_replicate_iff, List.length_map, List.length_range]
  simp only [List.forall_mem_map, List.mem_range, Value.int.injEq, true_and]
  constructor
  · intro h i hi
    have hzero := h i hi
    simp only [Int.ofNat_eq_natCast] at hzero
    omega
  · intro h i hi
    rw [h i hi, Int.sub_self]

/-- The number of rows without the length of a column is, in each row, what the reserved column
holds without the size that the group of the row has after the fragments before.  Where none of
these assigns the reserved column, it holds the sizes from the beginning of the call.  Then the
difference is zero everywhere if and only if the sizes are still the same, and in particular where
no fragment before assigns a grouping column. -/
theorem size_minus_length_iff (h : call.ComparesSizes data before fragment target x)
    (hdata : data.WellFormed) {settings : Settings}
    (hrun : (call.run settings data).result = .ok result) :
    exists names groups seen regrouped,
      call.targets data = .ok (names ++ [target]) ∧ data.partitions = .ok groups ∧
      call.seenAfter data before [fragment] = .ok seen ∧ seen.partitions = .ok regrouped ∧
      result.columns.lookup target = some ((List.range data.nrows).map fun i =>
        leftover (cellAt i (seen.firstColumn countColumn)) (sizeAt regrouped i)) ∧
      (countColumn ∉ names ->
        result.columns.lookup target = some ((List.range data.nrows).map fun i =>
          .int (Int.ofNat (sizeAt groups i) - Int.ofNat (sizeAt regrouped i))) ∧
        (result.columns.lookup target = some (List.replicate data.nrows (.int 0)) <->
          forall i, i < data.nrows -> sizeAt regrouped i = sizeAt groups i) ∧
        ((forall key, key ∈ data.groups -> key ∉ names) ->
          result.columns.lookup target = some (List.replicate data.nrows (.int 0)))) := by
  rcases h.exists_seen hdata hrun with
    ⟨assigns, wide, seen, scope, values, htargets, hpads, htransform, hseen, hvalues, hresult⟩
  rcases hpads.regular.transform htransform with ⟨hregular, _, _⟩
  have hrows : seen.nrows = data.nrows :=
    (hpads.regular.transform_unset htransform).1.trans hpads.nrows
  have hx : x ∈ seen.header := by
    apply hpads.regular.mem_transform_header htransform
    exact (mem_dropped_header.1 (hpads.dropped.symm ▸ h.column)).1
  have hcount : countColumn ∈ seen.header :=
    hpads.regular.mem_transform_header htransform (hpads.mem_header h.countColumn_mem)
  rcases hpads.columns countColumn h.countColumn_mem with ⟨groups, hgroups, _⟩
  rcases bind_eq_ok_iff.1 hvalues with ⟨regrouped, hregrouped, _⟩
  have hregrouped := ofFault_eq_ok_iff.1 hregrouped
  have hcolumn : result.columns.lookup target = some ((List.range data.nrows).map fun i =>
      leftover (cellAt i (seen.firstColumn countColumn)) (sizeAt regrouped i)) := by
    have hset := hregular.setColumn target values
    rw [hresult, hset.lookup_dropped hset.unreserved h.unreserved,
      hregular.lookup_setColumn (computed_length hvalues), if_pos rfl,
      computed_differenceExpr rfl hregular hx hcount hregrouped hvalues, hrows]
  refine ⟨assigns.map Assign.name, groups, seen, regrouped, htargets, hgroups, hseen, hregrouped,
    hcolumn, ?_⟩
  intro hnames
  rw [hpads.firstColumn_countColumn h.countColumn_mem htransform hnames hgroups,
    map_leftover_sizes] at hcolumn
  have hzero : result.columns.lookup target = some (List.replicate data.nrows (.int 0)) <->
      forall i, i < data.nrows -> sizeAt regrouped i = sizeAt groups i := by
    rw [hcolumn, Option.some.injEq]
    exact map_range_eq_zeros_iff
  refine ⟨hcolumn, hzero, ?_⟩
  intro hkeys
  rw [← hpads.groups] at hkeys
  have hsame := (hpads.regular.transform_partitions htransform hkeys).trans hpads.partitions
  cases (hsame.trans hgroups).symm.trans hregrouped
  rw [hzero]
  exact fun _ _ => rfl

/-- Two groups of one row each. -/
def apart : Dataset where
  header := ["g", "x"]
  rows := [[.str "a", .int 1], [.str "b", .int 2]]
  groups := ["g"]

theorem apart_wellFormed : apart.WellFormed := by decide

def mergeGroups : Invocation :=
  { copyColumn with values := [.str "g = 1", .str "m = n() - length(x)"], named := [] }

def constantFragment : ResolvedFragment where
  node := .assignment "g" (.literal (.int 1))
  mentionsCount := false
  mentionsRowNumber := false
  source := "g = 1"

def leftoverFragment : ResolvedFragment where
  node := .assignment "m" (Scalar.sizeMinusLength "x").node
  mentionsCount := true
  mentionsRowNumber := false
  source := "m = n() - length(x)"

theorem mergeGroups_fragments :
    mergeGroups.fragments = .ok [constantFragment, leftoverFragment] := by
  have hmerge : Verb.fragmentOf (.str "g = 1") = .ok (constantFragment.node, "g = 1") := by
    have hts : tokenize "g = 1" =
        .ok [⟨.identifier "g", 0⟩, ⟨.symbol .assign, 2⟩, ⟨.integer 1, 4⟩, ⟨.finish, 5⟩] := rfl
    exact fragmentOf_text (by decide) hts rfl
  have hcomparing : Verb.fragmentOf (.str "m = n() - length(x)") =
      .ok (leftoverFragment.node, "m = n() - length(x)") := by
    have hts : tokenize "m = n() - length(x)" =
        .ok [⟨.identifier "m", 0⟩, ⟨.symbol .assign, 2⟩, ⟨.identifier "n", 4⟩,
          ⟨.symbol .openParen, 5⟩, ⟨.symbol .closeParen, 6⟩, ⟨.symbol .minus, 8⟩,
          ⟨.identifier "length", 10⟩, ⟨.symbol .openParen, 16⟩, ⟨.identifier "x", 17⟩,
          ⟨.symbol .closeParen, 18⟩, ⟨.finish, 19⟩] := rfl
    exact fragmentOf_text (by decide) hts rfl
  unfold fragments Verb.fragmentsOf
  simp only [mergeGroups, List.mapM_cons, List.mapM_nil, hmerge, hcomparing]
  rfl

theorem mergeGroups_compares :
    mergeGroups.ComparesSizes apart [constantFragment] leftoverFragment "m" "x" where
  verb := rfl
  fragments := mergeGroups_fragments
  node := rfl
  whole := by decide
  column := by decide
  unreserved := rfl

theorem mergeGroups_succeeds :
    exists result, (mergeGroups.run Settings.initial apart).result = .ok result :=
  exists_run_of_mutated rfl mergeGroups_fragments (by decide +kernel) Settings.initial

theorem apart_sizes {groups : List Partition} (hgroups : apart.partitions = .ok groups) :
    sizeAt groups 0 = 1 ∧ sizeAt groups 1 = 1 := by
  have hsizes : (apart.partitions.toOption.map fun groups => (sizeAt groups 0, sizeAt groups 1)) =
      some (1, 1) := by decide +kernel
  rw [hgroups] at hsizes
  exact Prod.mk.inj (Option.some.inj hsizes)

theorem mergeGroups_sizes {seen : Dataset} {regrouped : List Partition}
    (hseen : mergeGroups.seenAfter apart [constantFragment] [leftoverFragment] = .ok seen)
    (hregrouped : seen.partitions = .ok regrouped) :
    sizeAt regrouped 0 = 2 ∧ sizeAt regrouped 1 = 2 := by
  have hsizes : ((mergeGroups.seenAfter apart [constantFragment] [leftoverFragment]).toOption.bind
      fun seen => seen.partitions.toOption.map fun groups => (sizeAt groups 0, sizeAt groups 1)) =
        some (2, 2) := by decide +kernel
  rw [hseen] at hsizes
  change seen.partitions.toOption.map _ = _ at hsizes
  rw [hregrouped] at hsizes
  exact Prod.mk.inj (Option.some.inj hsizes)

/-- Two rows of groups of one row each have become one group of two. -/
theorem size_minus_length_iff_mergeGroups :
    apart.WellFormed ∧
    mergeGroups.ComparesSizes apart [constantFragment] leftoverFragment "m" "x" ∧
    exists result, (mergeGroups.run Settings.initial apart).result = .ok result ∧
      result.columns.lookup "m" = some [.int (-1), .int (-1)] := by
  refine ⟨apart_wellFormed, mergeGroups_compares, ?_⟩
  have htargets : mergeGroups.targets apart = .ok (["g"] ++ ["m"]) := by
    have hassigns : Request.assigns .transform (mergeGroups.requestOf apart
        [constantFragment, leftoverFragment]).fullScope [constantFragment, leftoverFragment] =
          .ok [{ name := "g", expr := .literal (.int 1), source := some "g = 1" },
            { name := "m"
              expr := .broadcast "-" (.binary .subtract)
                [.column countColumn, .apply "length" (.library .length) [.column "x"] []] []
              source := some "m = n() - length(x)" }] := rfl
    exact targets_eq_ok mergeGroups_fragments hassigns
  rcases mergeGroups_succeeds with ⟨result, hrun⟩
  rcases size_minus_length_iff mergeGroups_compares apart_wellFormed hrun with
    ⟨names, groups, seen, regrouped, hnames, hgroups, hseen, hregrouped, _, hunset⟩
  have hg : ["g"] = names := List.append_cancel_right (Except.ok.inj (htargets.symm.trans hnames))
  have hcount : countColumn ∉ names := by
    rw [← hg]
    decide
  rcases apart_sizes hgroups with ⟨hfirst, hsecond⟩
  rcases mergeGroups_sizes hseen hregrouped with ⟨hfirst', hsecond'⟩
  refine ⟨result, hrun, (hunset hcount).1.trans ?_⟩
  show some [Value.int (Int.ofNat (sizeAt groups 0) - Int.ofNat (sizeAt regrouped 0)),
    .int (Int.ofNat (sizeAt groups 1) - Int.ofNat (sizeAt regrouped 1))] = _
  rw [hfirst, hsecond, hfirst', hsecond']
  rfl

end Invocation
end Wrangle
