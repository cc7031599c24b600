import Wrangle.Proofs.Verb.Assigning
import Wrangle.Proofs.Verb.Naming

/-!
# Columns that are assigned and selected at once

A verb selects columns and computes others at the same time, all of them on the table as
it is.  That is to add the columns first and to select them then, where no fragment
mentions a column that one before it sets: whatever is added is added to a table that the
other fragments see no difference in.
-/

namespace Wrangle

open Dataset

namespace Invocation

variable {call picking : Invocation} {data wide last result : Dataset} {columns : List String}
  {found : List ResolvedFragment} {entries : List (String × Node)} {assigns : List Assign}
  {settings : Settings}

/-!
# Selections
-/

/-- To select is to pad the dataset, to take the columns that the fragments are compiled to, and to
drop what is reserved. -/
theorem run_planSelect (hplan : forall request, call.verb.plan request = request.planSelect)
    (hfound : call.fragments = .ok found) :
    (call.run settings data).result = .ok result <-> exists items wide last,
      Compile.selection (call.requestOf data found).fullScope
        (found.map fun fragment => (fragment.node, some fragment.source)) = .ok items ∧
      Operation.applyAll call.env.functions (call.requestOf data found).rowColumns data =
        .ok wide ∧
      select call.env.functions items wide = .ok last ∧
      Operation.applyAll call.env.functions [.dropReserved] last = .ok result := by
  have hselect : call.verb.plan (call.requestOf data found) =
      Compile.selection (call.requestOf data found).fullScope
        (found.map fun fragment => (fragment.node, some fragment.source)) >>= fun items =>
          .ok ((call.requestOf data found).enclosed [.select items]) := by
    rw [hplan]
    rfl
  rw [run_enclosed hfound hselect]
  simp only [Operation.applyAll_single, Operation.apply]

theorem selectionStep_identifier {scope : Scope} {isFirst : Bool} {items : List SelectionItem}
    {column : String} {source : Option String} (hcolumn : column ∈ scope.columns)
    (hnew : column ∉ items.map SelectionItem.name) :
    Compile.selectionStep scope isFirst items (.identifier column) source =
      .ok (items ++ [.keep column]) := by
  have hsets : Compile.columnSets scope (.identifier column) = .ok (.only [column]) := by
    rw [Compile.columnSets, Compile.columnOf, Compile.knownColumn,
      if_pos (List.contains_iff_mem.2 hcolumn)]
    rfl
  have hkept : Compile.Output.keepNew items column = items ++ [.keep column] := by
    rw [Compile.Output.keepNew, if_neg]
    rwa [List.contains_iff_mem]
  have happly : Compile.Output.apply scope isFirst items (.only [column]) =
      items ++ [.keep column] := by
    simp [Compile.Output.apply, Compile.ColumnSets.only, hkept]
  unfold Compile.selectionStep
  dsimp only
  rw [hsets, ← happly]

theorem selectionFrom_of_names {scope : Scope} {isFirst : Bool} {items : List SelectionItem}
    (h : found.map ResolvedFragment.node = columns.map Node.identifier)
    (hcolumns : forall column, column ∈ columns -> column ∈ scope.columns)
    (hdistinct : (items.map SelectionItem.name ++ columns).Nodup) :
    Compile.selectionFrom scope isFirst items
        (found.map fun fragment => (fragment.node, some fragment.source)) =
      .ok (items ++ columns.map .keep) := by
  induction columns generalizing found isFirst items with
  | nil =>
      rw [List.map_eq_nil_iff.1 h]
      exact congrArg Except.ok (List.append_nil items).symm
  | cons column columns ih =>
      rcases List.map_eq_cons_iff.1 h with ⟨fragment, others, rfl, hnode, hothers⟩
      rcases List.forall_mem_cons.1 hcolumns with ⟨hcolumn, hrest⟩
      have hnew : column ∉ items.map SelectionItem.name :=
        fun hmem => (List.nodup_append.1 hdistinct).2.2 column hmem column List.mem_cons_self rfl
      have hnext : ((items ++ [SelectionItem.keep column]).map SelectionItem.name ++
          columns).Nodup := by
        rw [List.map_append, List.append_assoc]
        exact hdistinct
      rw [List.map_cons, Compile.selectionFrom, hnode, selectionStep_identifier hcolumn hnew]
      show Compile.selectionFrom scope false (items ++ [.keep column]) _ = _
      rw [ih hothers hrest hnext, List.append_assoc]
      rfl

theorem Names.run_select (h : picking.Names .select columns) (hdata : data.WellFormed)
    (hsome : columns ≠ []) (hdistinct : columns.Nodup)
    (hcolumns : forall column, column ∈ columns -> column ∈ data.header)
    (callers : CallerFunctions) :
    (picking.run settings data).result = .ok result <->
      select callers (columns.map .keep) data = .ok result := by
  rcases h.fragments with ⟨found, hfound, hnames⟩
  have hquiet := areQuiet_of_names hnames
  have hselection : Compile.selection (picking.requestOf data found).fullScope
      (found.map fun fragment => (fragment.node, some fragment.source)) =
        .ok (columns.map .keep) := by
    rw [fullScope_of_quiet hfound hquiet]
    have hstart : (([] : List SelectionItem).map SelectionItem.name ++ columns).Nodup := hdistinct
    exact selectionFrom_of_names hnames hcolumns hstart
  have hkept : forall {last : Dataset},
      select picking.env.functions (columns.map .keep) data = .ok last ->
        Operation.applyAll picking.env.functions [.dropReserved] last = .ok last := by
    intro last hlast
    apply Request.dropReserved_of_unreserved
    intro name hname
    exact hdata.unreserved name
      (mem_header_of_select_keep hdata.isRegular hsome hdistinct hcolumns hlast name hname)
  rw [run_planSelect (fun _ => by rw [h.verb]; rfl) hfound, rowColumns_of_quiet hfound hquiet,
    hselection, select_keep_callers hdata.isRegular hsome hdistinct hcolumns callers
      picking.env.functions]
  constructor
  · rintro ⟨_, _, last, hitems, hwide, hlast, hdrop⟩
    cases hitems
    cases hwide
    rw [hkept hlast] at hdrop
    cases hdrop
    exact hlast
  · intro hlast
    exact ⟨_, _, result, rfl, rfl, hlast, hkept hlast⟩

/-!
# Columns that are added
-/

/-- A call that adds columns with different names, which are neither reserved nor keys of the
dataset; no fragment mentions a column that one before it adds. -/
structure AddsApart (call : Invocation) (data : Dataset) (entries : List (String × Node)) :
    Prop where
  verb : call.verb = .mutate
  fragments : exists found, call.fragments = .ok found ∧ AssignApart found entries
  some : entries ≠ []
  unreserved : forall entry, entry ∈ entries -> isReserved entry.1 = false
  keys : forall entry, entry ∈ entries -> entry.1 ∉ data.groups

def transmuting (call : Invocation) : Invocation :=
  { call with verb := .transmute }

/-- What the fragments of a call are compiled to, and the padded dataset that it is computed on. -/
structure Prepares (call : Invocation) (data : Dataset) (found : List ResolvedFragment)
    (assigns : List Assign) (wide : Dataset) : Prop where
  compiled : Request.assigns .transform (call.requestOf data found).fullScope found = .ok assigns
  padded : Operation.applyAll call.env.functions (call.requestOf data found).rowColumns data =
    .ok wide

def selected (call : Invocation) (data : Dataset) (found : List ResolvedFragment)
    (assigns : List Assign) : List SelectionItem :=
  List.zipWith (itemOf (call.requestOf data found).fullScope)
    (found.map ResolvedFragment.node) assigns

section Adding

variable (h : call.AddsApart data entries) (hapart : AssignApart found entries)

include h hapart

theorem AddsApart.assigns_ne_nil (hprepares : call.Prepares data found assigns wide) :
    assigns ≠ [] := by
  rintro rfl
  have hnames := hapart.names_eq (hapart.assigns_iff.1 hprepares.compiled)
  exact h.some (List.map_eq_nil_iff.1 hnames.symm)

variable (hdata : data.WellFormed)

include hdata

theorem AddsApart.mirrors (hprepares : call.Prepares data found assigns wide) :
    wide.Mirrors (call.selected data found assigns) assigns := by
  have hpads := hdata.pads_rowColumns hprepares.padded
  have hcompiled := hapart.assigns_iff.1 hprepares.compiled
  have hnames := hapart.names_eq hcompiled
  have hentry : forall assign, assign ∈ assigns -> exists entry, entry ∈ entries ∧
      entry.1 = assign.name := by
    intro assign hassign
    have hname : assign.name ∈ entries.map Prod.fst := hnames ▸ List.mem_map_of_mem hassign
    exact List.mem_map.1 hname
  constructor
  · exact hapart.stand (fun _ => mem_header_of_scope hpads) hcompiled
  · rw [hnames]
    exact hapart.distinct
  · intro assign hassign
    rcases hentry assign hassign with ⟨entry, hentry, hname⟩
    rw [← hname]
    exact h.unreserved entry hentry
  · intro assign hassign
    rcases hentry assign hassign with ⟨entry, hentry, hname⟩
    rw [← hname, hpads.groups]
    exact h.keys entry hentry
  · exact hapart.areSequential h.unreserved hcompiled

variable (hfound : call.fragments = .ok found)

include hfound

/-- To select what the fragments compute is to take it from the padded dataset; what is taken has
no reserved columns. -/
theorem AddsApart.run_transmuting :
    (call.transmuting.run settings data).result = .ok result <-> exists assigns wide,
      call.Prepares data found assigns wide ∧
      select call.env.functions (call.selected data found assigns) wide = .ok result := by
  have hdrop : forall {assigns : List Assign} {wide last : Dataset},
      call.Prepares data found assigns wide ->
      select call.env.functions (call.selected data found assigns) wide = .ok last ->
      Operation.applyAll call.env.functions [.dropReserved] last = .ok last := by
    intro assigns wide last hprepares hlast
    apply Request.dropReserved_of_unreserved
    exact (h.mirrors hapart hdata hprepares).unreserved_of_select
      (hdata.pads_rowColumns hprepares.padded).regular (h.assigns_ne_nil hapart hprepares) hlast
  have hplan : forall request, call.transmuting.verb.plan request = request.planSelect :=
    fun _ => rfl
  refine (run_planSelect hplan hfound).trans ?_
  show (exists items wide last,
    Compile.selection (call.requestOf data found).fullScope _ = _ ∧ _) <-> _
  simp only [hapart.selection_iff]
  constructor
  · rintro ⟨_, wide, last, ⟨assigns, hassigns, rfl⟩, hwide, hlast, hresult⟩
    have hprepares : call.Prepares data found assigns wide := ⟨hassigns, hwide⟩
    have hsame := (hdrop hprepares hlast).symm.trans hresult
    cases hsame
    exact ⟨assigns, wide, hprepares, hlast⟩
  · rintro ⟨assigns, wide, hprepares, hlast⟩
    exact ⟨_, wide, result, ⟨assigns, hprepares.compiled, rfl⟩, hprepares.padded, hlast,
      hdrop hprepares hlast⟩

omit hfound in
theorem AddsApart.run_picking (hpicking : picking.Names .select (entries.map Prod.fst))
    (hprepares : call.Prepares data found assigns wide)
    (hlast : transform call.env.functions assigns wide = .ok last) :
    (picking.run settings (last.dropped isReserved)).result = .ok result <->
      select call.env.functions ((assigns.map Assign.name).map .keep) (last.dropped isReserved) =
        .ok result := by
  have hnames := hapart.names_eq (hapart.assigns_iff.1 hprepares.compiled)
  rcases (hdata.pads_rowColumns hprepares.padded).regular.transform hlast with
    ⟨hregular, _, hheader⟩
  rw [hnames]
  apply hpicking.run_select hregular.wellFormed_dropped
  · rw [Ne, List.map_eq_nil_iff]
    exact h.some
  · exact hapart.distinct
  · intro name hname
    rw [mem_dropped_header, hheader, hnames, foldl_headerWith]
    constructor
    · by_cases hmem : name ∈ wide.header
      · exact List.mem_append_left _ hmem
      · refine List.mem_append_right _ (List.mem_eraseDups.2 (List.mem_filter.2 ⟨hname, ?_⟩))
        simpa using hmem
    · rcases List.mem_map.1 hname with ⟨entry, hentry, rfl⟩
      exact h.unreserved entry hentry

theorem AddsApart.runAll_select (hpicking : picking.Names .select (entries.map Prod.fst)) :
    (runAll settings [call, picking] data).result = .ok result <-> exists assigns wide,
      call.Prepares data found assigns wide ∧
      exists last, transform call.env.functions assigns wide = .ok last ∧
        select call.env.functions ((assigns.map Assign.name).map .keep) (last.dropped isReserved) =
          .ok result := by
  have hchain : (runAll settings [call, picking] data).result = .ok result <->
      exists next, (call.run settings data).result = .ok next ∧
        (picking.run settings next).result = .ok result := by
    simp only [runAll, Report.next_result, Report.silent_result, bind_eq_ok_iff, Except.ok.injEq,
      exists_eq_right]
  rw [hchain]
  simp only [run_mutate h.verb, mutated_eq_ok_iff hdata]
  constructor
  · rintro ⟨_, ⟨other, hother, assigns, wide, last, hassigns, hwide, hlast, rfl⟩, hpicked⟩
    rw [hfound] at hother
    cases hother
    have hprepares : call.Prepares data found assigns wide := ⟨hassigns, hwide⟩
    exact ⟨assigns, wide, hprepares, last, hlast,
      (h.run_picking hapart hdata hpicking hprepares hlast).1 hpicked⟩
  · rintro ⟨assigns, wide, hprepares, last, hlast, hkept⟩
    exact ⟨_, ⟨found, hfound, assigns, wide, last, hprepares.compiled, hprepares.padded, hlast,
      rfl⟩, (h.run_picking hapart hdata hpicking hprepares hlast).2 hkept⟩

end Adding

/-- To select columns and compute others at once is to add them and to select them then, save that
to add columns takes rows that can be divided into groups.  Either way the keys come first. -/
theorem transmute_eq_select (h : call.AddsApart data entries) (hdata : data.WellFormed)
    (hpicking : picking.Names .select (entries.map Prod.fst)) (settings : Settings)
    (result : Dataset) :
    ((runAll settings [call, picking] data).result = .ok result <->
      (call.transmuting.run settings data).result = .ok result ∧
        exists groups, data.partitions = .ok groups) ∧
      ((call.transmuting.run settings data).result = .ok result ->
        result.header = data.groups.eraseDups ++ entries.map Prod.fst ∧
          result.groups = data.groups) := by
  rcases h.fragments with ⟨found, hfound, hapart⟩
  rw [h.runAll_select hapart hdata hfound hpicking, h.run_transmuting hapart hdata hfound]
  constructor
  · constructor
    · rintro ⟨assigns, wide, hprepares, hlast⟩
      have hpads := hdata.pads_rowColumns hprepares.padded
      rw [← (h.mirrors hapart hdata hprepares).select_iff hpads.regular
        (h.assigns_ne_nil hapart hprepares), hpads.partitions] at hlast
      exact ⟨⟨assigns, wide, hprepares, hlast.1⟩, hlast.2⟩
    · rintro ⟨⟨assigns, wide, hprepares, hlast⟩, hgroups⟩
      have hpads := hdata.pads_rowColumns hprepares.padded
      refine ⟨assigns, wide, hprepares, ?_⟩
      rw [← (h.mirrors hapart hdata hprepares).select_iff hpads.regular
        (h.assigns_ne_nil hapart hprepares), hpads.partitions]
      exact ⟨hlast, hgroups⟩
  · rintro ⟨assigns, wide, hprepares, hlast⟩
    have hpads := hdata.pads_rowColumns hprepares.padded
    have hheader := (h.mirrors hapart hdata hprepares).header_eq hpads.regular
      (h.assigns_ne_nil hapart hprepares) hlast
    rwa [hpads.groups, hapart.names_eq (hapart.assigns_iff.1 hprepares.compiled)] at hheader

/-- A call that copies a column and replaces the column then. -/
def shiftColumns : Invocation :=
  { copyColumn with named := [("y", .sym "x"), ("x", .sym "k")] }

/-- The call that selects both columns. -/
def selectShifted : Invocation :=
  { copyColumn with verb := .select, values := [.sym "y", .sym "x"], named := [] }

def shiftedEntries : List (String × Node) :=
  [("y", .identifier "x"), ("x", .identifier "k")]

theorem shiftColumns_addsApart {data : Dataset} (hdata : data.groups = ["k"]) :
    shiftColumns.AddsApart data shiftedEntries where
  verb := rfl
  fragments := by
    refine ⟨_, rfl, rfl, by decide, ?_⟩
    simp [shiftedEntries, Node.walk]
  some := by decide
  unreserved := by decide
  keys := by
    rw [hdata]
    decide

theorem selectShifted_names : selectShifted.Names .select (shiftedEntries.map Prod.fst) where
  verb := rfl
  fragments := ⟨_, rfl, rfl⟩

theorem transmute_eq_select_shiftColumns :
    (runAll Settings.initial [shiftColumns, selectShifted] pairs).result =
      .ok { header := ["k", "y", "x"]
            rows := [[.int 2, .str "b", .int 2], [.int 1, .str "a", .int 1]]
            groups := ["k"] } := by
  have hkeys : pairs.KeysAre Value.isPlain := ⟨by decide, by decide⟩
  have hrun : (shiftColumns.transmuting.run Settings.initial pairs).result =
      .ok { header := ["k", "y", "x"]
            rows := [[.int 2, .str "b", .int 2], [.int 1, .str "a", .int 1]]
            groups := ["k"] } := run_eq_ok_iff.2 ⟨_, _, rfl, rfl, rfl⟩
  exact (transmute_eq_select (shiftColumns_addsApart rfl) pairs_wellFormed selectShifted_names
    Settings.initial _).1.2 ⟨hrun, exists_partitions pairs_wellFormed.width hkeys⟩

/-- A dataset whose key has no hash. -/
def listKeyed : Dataset :=
  { header := ["k", "x"], rows := [[.list [.int 1], .int 2]], groups := ["k"] }

theorem shiftColumns_mutate_listKeyed {found : List ResolvedFragment}
    (hfound : shiftColumns.fragments = .ok found) :
    shiftColumns.mutated found listKeyed = .error (.fault Fault.badType) := by
  cases hfound
  rfl

/-- Rows whose keys have no hash can be selected as they are, but no columns can be added to
them. -/
theorem transmute_ne_select :
    listKeyed.WellFormed ∧ shiftColumns.AddsApart listKeyed shiftedEntries ∧
      selectShifted.Names .select (shiftedEntries.map Prod.fst) ∧
      ¬ forall result, (runAll Settings.initial [shiftColumns, selectShifted] listKeyed).result =
          .ok result <->
        (shiftColumns.transmuting.run Settings.initial listKeyed).result = .ok result := by
  refine ⟨by decide, shiftColumns_addsApart rfl, selectShifted_names, ?_⟩
  intro hsame
  have hrun : (shiftColumns.transmuting.run Settings.initial listKeyed).result =
      .ok { header := ["k", "y", "x"]
            rows := [[.list [.int 1], .int 2, .list [.int 1]]]
            groups := ["k"] } := run_eq_ok_iff.2 ⟨_, _, rfl, rfl, rfl⟩
  have hchain := (hsame _).2 hrun
  rw [runAll, Report.next_result] at hchain
  rcases bind_eq_ok_iff.1 hchain with ⟨next, hnext, _⟩
  rcases (run_mutate rfl).1 hnext with ⟨found, hfound, hnext⟩
  rw [shiftColumns_mutate_listKeyed hfound] at hnext
  cases hnext

end Invocation
end Wrangle
