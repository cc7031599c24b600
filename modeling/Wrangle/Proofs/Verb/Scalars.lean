import Wrangle.Proofs.Compile.Scalars
import Wrangle.Proofs.Dataset.ElementWise
import Wrangle.Proofs.Verb.Multiplicity
import Wrangle.Proofs.Verb.Scoping

/-!
# Scalars in new columns and in summaries

The same fragment adds a column that repeats one value, or it summarizes a table to
one cell.  For a scalar both have the same value, as long as the outermost operator of
the scalar has its operands.
-/

namespace Wrangle

/-!
# Flat tables
-/

namespace Dataset

variable {callers : CallerFunctions} {data wide : Dataset} {assign : Assign}

def wholeFrame (data : Dataset) : Frame :=
  { columns := data.columns, nrows := data.nrows }

theorem computed_of_whole (hregular : wide.IsRegular) (hflat : wide.groups = [])
    {values : List Value} (h : wide.computed callers assign = .ok values) :
    exists result, assign.expr.evaluate callers wide.wholeFrame = .ok result ∧
      spread assign.name wide.nrows result = .ok values := by
  rw [computed_of_flat hregular.nodup hregular.width hflat, groupValues, inFragment_eq_ok_iff,
    frame_range hregular.nodup hregular.width, List.length_range] at h
  exact bind_eq_ok_iff.1 h

theorem summarize_single_iff (hregular : wide.IsRegular) (hflat : wide.groups = [])
    {table : Dataset} :
    summarize callers [assign] wide = .ok table <-> exists result w,
      assign.expr.evaluate callers wide.wholeFrame = .ok result ∧
        summaryValue assign.name result = .ok w ∧ flat [assign.name] [[w]] = table := by
  have hcolumns : restricted wide.columns (List.range wide.nrows) = wide.columns :=
    congrArg Frame.columns (frame_range hregular.nodup hregular.width)
  have hnames : ([assign].map Assign.name).Nodup := List.nodup_singleton _
  rw [summarize_of_flat hflat hnames (List.cons_ne_nil _ _), hcolumns, summaries, map_eq_ok_iff]
  simp only [summaries, bind_eq_ok_iff, inFragment_eq_ok_iff]
  constructor
  · rintro ⟨_, ⟨w, ⟨result, hresult, hw⟩, _, hnone, hfound⟩, htable⟩
    cases hnone
    cases hfound
    exact ⟨result, w, hresult, hw, htable⟩
  · rintro ⟨result, w, hresult, hw, htable⟩
    exact ⟨_, ⟨w, ⟨result, hresult, hw⟩, _, rfl, rfl⟩, htable⟩

/-!
# Padded tables
-/

theorem Pads.isWhole {names : List String} (hdata : data.WellFormed) (h : data.Pads names wide) :
    wide.wholeFrame.IsWhole data where
  nrows := h.nrows
  columns name hname := by
    show wide.columns.lookup name = _
    rw [h.lookup (hdata.unreserved name hname), hdata.isRegular.lookup_columns, if_pos hname]

theorem Pads.lookup_countColumn {names : List String} (h : data.Pads names wide)
    (hflat : data.groups = []) (hcount : countColumn ∈ names) :
    wide.columns.lookup countColumn =
      some (List.replicate data.nrows (.int (Int.ofNat data.nrows))) := by
  rcases h.columns countColumn hcount with ⟨groups, hgroups, hlookup⟩
  rw [partitions_of_flat _ hflat] at hgroups
  cases hgroups
  have hsizes : groupSizes [Partition.whole data.nrows] data.nrows =
      List.replicate data.nrows (.int (Int.ofNat data.nrows)) := by
    rw [groupSizes_eq, scattered_whole, Partition.whole_size]
    exact List.length_replicate.trans (Partition.whole_size _)
  rw [hlookup, rowColumn, if_pos (beq_self_eq_true countColumn)]
  exact congrArg some hsizes

theorem kept_firstColumn {keep : Value -> Prop} (hmissing : keep .missing)
    (h : forall row, row ∈ data.rows -> Kept keep row) (name : String) :
    Kept keep (data.firstColumn name) := by
  intro cell hcell
  rcases List.mem_map.1 hcell with ⟨row, hrow, rfl⟩
  rw [cellAt]
  cases hfound : row[data.header.idxOf name]? with
  | none => exact hmissing
  | some value => exact h row hrow value (List.mem_of_getElem? hfound)

theorem spread_of_renders {asking : Prop} {n : Nat} {v result : Value} {name : String}
    {values : List Value} (h : Value.Renders asking n v result)
    (hspread : spread name n result = .ok values) :
    exists w, w.withoutOrigin = v.withoutOrigin ∧ values = List.replicate n w := by
  rcases h with ⟨w, hfirm, hsame, rfl | rfl⟩
  · refine ⟨result, hsame, ?_⟩
    cases result with
    | column items => cases hfirm.bare
    | _ =>
        cases hspread
        rfl
  · refine ⟨w, hsame, ?_⟩
    rw [spread, if_pos List.length_replicate] at hspread
    exact (Except.ok.inj hspread).symm

theorem summaryValue_bare {w : Value} (h : w.isBare = true) (name : String) :
    summaryValue name w = .ok w := by
  cases w with
  | column items => cases h
  | _ => rfl

end Dataset

namespace Invocation

open Dataset

/-!
# Calls
-/

/-- A call whose only fragment writes a scalar, for a flat dataset with rows of single cells. -/
structure WritesScalar (call : Invocation) (data : Dataset) (fragment : ResolvedFragment)
    (target : String) (e : Scalar) : Prop where
  fragments : call.fragments = .ok [fragment]
  written : e.IsWritten fragment.node target
  registry : call.registry.IsUsual
  wellFormed : data.WellFormed
  ungrouped : data.groups = []
  nonempty : data.rows ≠ []
  cells : forall row, row ∈ data.rows -> Kept (Value.IsClear (e.asksMembers = true)) row
  fits : e.Fits data
  unreserved : isReserved target = false

variable {call : Invocation} {data wide result : Dataset} {fragment : ResolvedFragment}
variable {target : String} {e : Scalar} {mode : Mode} {settings : Settings}

def scalarAssign (fragment : ResolvedFragment) (target : String) (e : Scalar) (mode : Mode) :
    Assign where
  name := target
  expr := e.expr mode true
  source := some fragment.source

theorem run_summarize_single {assign : Assign}
    (hverb : call.verb = .summarize ∨ call.verb = .summarise) (hdata : data.WellFormed)
    (hflat : data.groups = []) (hfragments : call.fragments = .ok [fragment])
    (hassigns : Request.assigns .aggregate (call.requestOf data [fragment]).fullScope [fragment] =
      .ok [assign])
    (hname : isReserved assign.name = false)
    (hwide : Operation.applyAll call.env.functions
      (call.requestOf data [fragment]).rowColumns data = .ok wide) :
    (call.run settings data).result = .ok result <->
      exists found w, assign.expr.evaluate call.env.functions wide.wholeFrame = .ok found ∧
        summaryValue assign.name found = .ok w ∧ flat [assign.name] [[w]] = result := by
  have hplan : call.verb.plan (call.requestOf data [fragment]) =
      .ok ((call.requestOf data [fragment]).enclosed [.summarize [assign]]) := by
    have hkeys : (call.requestOf data [fragment]).keys = [] := hflat
    have hsummarize : call.verb.plan (call.requestOf data [fragment]) =
        (call.requestOf data [fragment]).planSummarize := by
      rcases hverb with hverb | hverb <;> rw [hverb] <;> rfl
    rw [hsummarize, Request.planSummarize, hkeys]
    show (Request.assigns .aggregate _ [fragment] >>= _) = _
    rw [hassigns]
    exact congrArg Except.ok (List.append_nil _)
  have hpads : data.Pads (rowNames [fragment]) wide := hdata.pads_rowColumns hwide
  have htable : forall {table : Dataset},
      Dataset.summarize call.env.functions [assign] wide = .ok table <->
        exists found w, assign.expr.evaluate call.env.functions wide.wholeFrame = .ok found ∧
          summaryValue assign.name found = .ok w ∧ flat [assign.name] [[w]] = table :=
    summarize_single_iff hpads.regular (hpads.groups.trans hflat)
  have happly : Operation.applyAll call.env.functions
      ((call.requestOf data [fragment]).enclosed [.summarize [assign]]) data =
        Dataset.summarize call.env.functions [assign] wide := by
    rw [Request.enclosed, List.append_assoc, Operation.applyAll_append, hwide, ok_bind,
      Operation.applyAll_append, Operation.applyAll_single]
    show (Dataset.summarize _ _ _ >>= _) = _
    cases hsummarize : Dataset.summarize call.env.functions [assign] wide with
    | error failure => rfl
    | ok table =>
        rcases htable.1 hsummarize with ⟨_, w, _, _, rfl⟩
        apply Request.dropReserved_of_unreserved
        intro name hmem
        rw [List.mem_singleton.1 hmem, hname]
  rw [← htable, ← happly, run_eq_ok_iff]
  constructor
  · rintro ⟨found, ops, hfound, hops, hresult⟩
    cases hfragments.symm.trans hfound
    cases hplan.symm.trans hops
    exact hresult
  · intro hresult
    exact ⟨_, _, hfragments, hplan, hresult⟩

namespace WritesScalar

variable (h : call.WritesScalar data fragment target e)

include h

theorem assigns_eq (hmode : mode = .transform ∨ mode = .aggregate) :
    Request.assigns mode (call.requestOf data [fragment]).fullScope [fragment] =
      .ok [scalarAssign fragment target e mode] := by
  have hsummaries := Request.fullScope_summaries (call.requestOf data [fragment])
  have hregistry : (call.requestOf data [fragment]).fullScope.registry = call.registry :=
    Request.fullScope_registry _
  have hexpr := Scalar.expr_node (hregistry ▸ h.registry) hsummaries
    (fun _ hname => Request.mem_fullScope_of_mem hname) h.fits hmode true
  rw [Request.assigns, h.written.assigns_eq hexpr]
  rfl

theorem exists_rowColumns (callers : CallerFunctions) :
    exists wide, Operation.applyAll callers (call.requestOf data [fragment]).rowColumns data =
      .ok wide ∧ data.Pads (rowNames [fragment]) wide := by
  have hadded : exists wide, Operation.applyAll callers
      (call.requestOf data [fragment]).rowColumns data = .ok wide :=
    h.wellFormed.exists_rowColumns fun _ => ⟨_, partitions_of_flat data h.ungrouped⟩
  rcases hadded with ⟨wide, hwide⟩
  exact ⟨wide, hwide, h.wellFormed.pads_rowColumns hwide⟩

theorem lookup_countColumn (hpads : data.Pads (rowNames [fragment]) wide)
    (hcounts : e.counts = true) : wide.columns.lookup countColumn =
      some (List.replicate data.nrows (.int (Int.ofNat data.nrows))) := by
  apply hpads.lookup_countColumn h.ungrouped
  have htells := fragments_tell h.fragments (List.mem_singleton.2 rfl)
  have hcount := htells.count (h.written.mentionsBareCall hcounts)
  exact mem_rowNames_iff.2 ⟨fragment, List.mem_singleton.2 rfl, Or.inl ⟨hcount, rfl⟩⟩

theorem cells_clear (name : String) :
    Kept (Value.IsClear (e.asksMembers = true)) (data.firstColumn name) :=
  kept_firstColumn Value.isFirm_missing.toIsClear h.cells name

theorem nrows_pos : 0 < data.nrows :=
  List.length_pos_iff.2 h.nonempty

theorem column_of_mutate
    (hrun : ({ call with verb := .mutate }.run settings data).result = .ok result) :
    exists v w, e.value data = .ok v ∧ w.withoutOrigin = v.withoutOrigin ∧
      result.columns.lookup target = some (List.replicate data.nrows w) := by
  rcases (run_mutate rfl).1 hrun with ⟨found, hfound, hmutated⟩
  cases h.fragments.symm.trans hfound
  rcases (mutated_eq_ok_iff h.wellFormed).1 hmutated with
    ⟨assigns, wide, last, hassigns, hwide, hlast, rfl⟩
  cases (h.assigns_eq (Or.inl rfl)).symm.trans hassigns
  have hpads : data.Pads (rowNames [fragment]) wide := h.wellFormed.pads_rowColumns hwide
  rcases bind_eq_ok_iff.1 hlast with ⟨values, hvalues, hlast⟩
  cases hlast
  rcases computed_of_whole hpads.regular (hpads.groups.trans h.ungrouped) hvalues with
    ⟨found, hfound, hspread⟩
  rcases Scalar.value_of_evaluate (hpads.isWhole h.wellFormed) h.nrows_pos h.cells_clear
    ⟨h.fits, id⟩ (h.lookup_countColumn hpads) hfound with ⟨v, hv, hrenders⟩
  rw [hpads.nrows] at hspread
  rcases spread_of_renders hrenders hspread with ⟨w, hsame, rfl⟩
  refine ⟨v, w, hv, hsame, ?_⟩
  have hlength : (List.replicate data.nrows w).length = wide.nrows := by
    rw [List.length_replicate, hpads.nrows]
  have hset := hpads.regular.setColumn target (List.replicate data.nrows w)
  rw [scalarAssign, hset.lookup_dropped hset.unreserved h.unreserved,
    hpads.regular.lookup_setColumn hlength, if_pos rfl]

theorem summarize_eq_ok_iff (hwide : Operation.applyAll call.env.functions
      (call.requestOf data [fragment]).rowColumns data = .ok wide) :
    ({ call with verb := .summarize }.run settings data).result = .ok result <->
      exists found w, (e.expr .aggregate true).evaluate call.env.functions wide.wholeFrame =
        .ok found ∧ summaryValue target found = .ok w ∧ flat [target] [[w]] = result :=
  @run_summarize_single { call with verb := .summarize } _ _ _ _ _ _ (Or.inl rfl) h.wellFormed
    h.ungrouped h.fragments (h.assigns_eq (Or.inr rfl)) h.unreserved hwide

end WritesScalar

/-- Where a call adds a column with a scalar, the column repeats one value.  A summary with the
scalar has this value, up to the identity of an undefined number, exactly if the outermost operator
of the scalar misses no operand, or knows missing values.  Otherwise the column is missing, and the
summary fails or has another value. -/
theorem summarize_scalar_iff (h : call.WritesScalar data fragment target e)
    (hrun : ({ call with verb := .mutate }.run settings data).result = .ok wide) :
    exists v, wide.columns.lookup target = some (List.replicate data.nrows v) ∧
      ((exists w, ({ call with verb := .summarize }.run settings data).result =
          .ok (flat [target] [[w]]) ∧ w.withoutOrigin = v.withoutOrigin) <->
        e.HasOperands data) ∧
      (¬e.HasOperands data -> v = .missing) := by
  rcases h.column_of_mutate hrun with ⟨value, v, hvalue, hsame, hcolumn⟩
  rcases h.exists_rowColumns call.env.functions with ⟨padded, hpadded, hpads⟩
  rcases Scalar.evaluate_outermost (hpads.isWhole h.wellFormed) h.cells_clear ⟨h.fits, id⟩ hvalue
    with ⟨hfirm, hgives⟩
  refine ⟨v, hcolumn, ?_, ?_⟩
  · rw [← hgives]
    constructor
    · rintro ⟨w, hsummary, hw⟩
      rcases (h.summarize_eq_ok_iff hpadded).1 hsummary with ⟨found, w', hfound, hw', htable⟩
      cases htable
      rw [hfound] at hfirm
      cases (summaryValue_bare hfirm.bare target).symm.trans hw'
      exact ⟨_, hfound, hfirm, hw.trans hsame⟩
    · rintro ⟨w, hfound, hw, hwsame⟩
      exact ⟨w, (h.summarize_eq_ok_iff hpadded).2
        ⟨w, w, hfound, summaryValue_bare hw.bare target, rfl⟩, hwsame.trans hsame.symm⟩
  · intro hnone
    cases Scalar.value_eq_missing hvalue hnone
    cases v <;> first | rfl | cases hsame

/-!
# A present and a missing operand
-/

/-- A call with one text. -/
def textCall (text : String) : Invocation :=
  { copyColumn with values := [.str text], named := [] }

/-- The sum of a column and the number of rows. -/
def sizedTotal : Scalar :=
  .binary .add (.reduced (.statistic .total) "x") .size

/-- A comparison with the sum of a column. -/
def comparedTotal : Scalar :=
  .binary .equal (.reduced (.statistic .total) "x") (.literal (.int 1))

def sizedTotalFragment : ResolvedFragment where
  node := .assignment "s" sizedTotal.node
  mentionsCount := true
  mentionsRowNumber := false
  source := "s = sum(x) + n()"

def comparedTotalFragment : ResolvedFragment where
  node := .assignment "s" comparedTotal.node
  mentionsCount := false
  mentionsRowNumber := false
  source := "s = sum(x) == 1"

theorem fragmentOf_sizedTotal : Verb.fragmentOf (.str "s = sum(x) + n()") =
    .ok (sizedTotalFragment.node, "s = sum(x) + n()") := by
  have hts : tokenize "s = sum(x) + n()" =
      .ok [⟨.identifier "s", 0⟩, ⟨.symbol .assign, 2⟩, ⟨.identifier "sum", 4⟩,
        ⟨.symbol .openParen, 7⟩, ⟨.identifier "x", 8⟩, ⟨.symbol .closeParen, 9⟩,
        ⟨.symbol .plus, 11⟩, ⟨.identifier "n", 13⟩, ⟨.symbol .openParen, 14⟩,
        ⟨.symbol .closeParen, 15⟩, ⟨.finish, 16⟩] := rfl
  exact fragmentOf_text (by decide) hts rfl

theorem fragmentOf_comparedTotal : Verb.fragmentOf (.str "s = sum(x) == 1") =
    .ok (comparedTotalFragment.node, "s = sum(x) == 1") := by
  have hts : tokenize "s = sum(x) == 1" =
      .ok [⟨.identifier "s", 0⟩, ⟨.symbol .assign, 2⟩, ⟨.identifier "sum", 4⟩,
        ⟨.symbol .openParen, 7⟩, ⟨.identifier "x", 8⟩, ⟨.symbol .closeParen, 9⟩,
        ⟨.symbol .equals, 11⟩, ⟨.integer 1, 14⟩, ⟨.finish, 15⟩] := rfl
  exact fragmentOf_text (by decide) hts rfl

theorem textCall_sizedTotal :
    (textCall "s = sum(x) + n()").fragments = .ok [sizedTotalFragment] := by
  rw [textCall, fragments_value, fragmentOf_sizedTotal]
  rfl

theorem textCall_comparedTotal :
    (textCall "s = sum(x) == 1").fragments = .ok [comparedTotalFragment] := by
  rw [textCall, fragments_value, fragmentOf_comparedTotal]
  rfl

theorem writesScalar_of_single {data : Dataset} {fragment : ResolvedFragment} {text : String}
    {e : Scalar} (hfragments : (textCall text).fragments = .ok [fragment])
    (hnode : fragment.node = .assignment "s" e.node) (hdata : data.WellFormed)
    (hungrouped : data.groups = []) (hnonempty : data.rows ≠ [])
    (hcells : (data.rows.all fun row => row.all Interpolation.isScalar) = true)
    (hfits : e.Fits data) : (textCall text).WritesScalar data fragment "s" e where
  fragments := hfragments
  written := Or.inl hnode
  registry := Registry.isUsual_standard
  wellFormed := hdata
  ungrouped := hungrouped
  nonempty := hnonempty
  cells row hrow cell hcell := by
    have hscalar := List.all_eq_true.1 (List.all_eq_true.1 hcells row hrow) cell hcell
    exact (Value.isFirm_of_isScalar hscalar).toIsClear
  fits := hfits
  unreserved := rfl

/-- A column whose sum is missing. -/
def holed : Dataset :=
  flat ["x"] [[.int 1], [.missing]]

theorem holed_wellFormed : holed.WellFormed := by decide

theorem sizedTotal_writes :
    (textCall "s = sum(x) + n()").WritesScalar singles sizedTotalFragment "s" sizedTotal :=
  writesScalar_of_single textCall_sizedTotal rfl singles_wellFormed rfl (by decide) rfl
    ⟨List.mem_singleton.2 rfl, trivial⟩

theorem comparedTotal_writes :
    (textCall "s = sum(x) == 1").WritesScalar holed comparedTotalFragment "s" comparedTotal :=
  writesScalar_of_single textCall_comparedTotal rfl holed_wellFormed rfl (by decide) rfl
    ⟨List.mem_singleton.2 rfl, rfl⟩

theorem sizedTotal_mutate :
    ({ textCall "s = sum(x) + n()" with verb := .mutate }.run Settings.initial singles).result =
      .ok (flat ["x", "s"] [[.int 1, .int 5], [.int 2, .int 5]]) :=
  (run_mutate rfl).2 ⟨_, textCall_sizedTotal, rfl⟩

/-- The sum of a column and the number of rows are there, so their sum is the only summary. -/
theorem summarize_scalar_iff_sizedTotal :
    (textCall "s = sum(x) + n()").WritesScalar singles sizedTotalFragment "s" sizedTotal ∧
    ({ textCall "s = sum(x) + n()" with verb := .mutate }.run Settings.initial singles).result =
      .ok (flat ["x", "s"] [[.int 1, .int 5], [.int 2, .int 5]]) ∧
    exists w, ({ textCall "s = sum(x) + n()" with verb := .summarize }.run
      Settings.initial singles).result = .ok (flat ["s"] [[w]]) ∧ w.withoutOrigin = .int 5 := by
  refine ⟨sizedTotal_writes, sizedTotal_mutate, ?_⟩
  rcases summarize_scalar_iff sizedTotal_writes sizedTotal_mutate with ⟨v, hcolumn, hiff, _⟩
  cases hcolumn
  apply hiff.2
  right
  constructor
  · intro h
    cases h
  · intro h
    cases h

/-- A missing sum is compared with a number: the column is missing, but the summary is false. -/
theorem summarize_ne_mutate :
    (textCall "s = sum(x) == 1").WritesScalar holed comparedTotalFragment "s" comparedTotal ∧
    ¬ forall (wide : Dataset) (v : Value),
      ({ textCall "s = sum(x) == 1" with verb := .mutate }.run Settings.initial holed).result =
        .ok wide ->
      wide.columns.lookup "s" = some (List.replicate holed.nrows v) ->
      ({ textCall "s = sum(x) == 1" with verb := .summarize }.run Settings.initial holed).result =
        .ok (flat ["s"] [[v]]) := by
  have hmutate : ({ textCall "s = sum(x) == 1" with verb := .mutate }.run
      Settings.initial holed).result =
        .ok (flat ["x", "s"] [[.int 1, .missing], [.missing, .missing]]) :=
    (run_mutate rfl).2 ⟨_, textCall_comparedTotal, rfl⟩
  have hsummarize : ({ textCall "s = sum(x) == 1" with verb := .summarize }.run
      Settings.initial holed).result = .ok (flat ["s"] [[.bool false]]) := by
    apply (comparedTotal_writes.summarize_eq_ok_iff rfl).2
    refine ⟨.bool false, .bool false, ?_, rfl, rfl⟩
    have hfalse : (Function.binary .equal).apply (textCall "s = sum(x) == 1").env.functions
        [.missing, .int 1] [] = .ok (.bool false) := by cbv
    exact (Expr.evaluate_apply (Expr.evaluateAll_pair.2 ⟨_, _, rfl, rfl, rfl⟩) rfl).2
      ⟨_, hfalse, rfl⟩
  refine ⟨comparedTotal_writes, fun hall => ?_⟩
  have hmissing := hall _ .missing hmutate rfl
  rw [hsummarize] at hmissing
  cases hmissing

end Invocation
end Wrangle
