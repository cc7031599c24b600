import Wrangle.Proofs.Compile.Agreement
import Wrangle.Proofs.Dataset.Padding
import Wrangle.Proofs.Verb.Preservation

/-!
# Adding columns step by step

To compute columns with some fragments is to compile them in the scope of a dataset,
to pad the dataset with the reserved columns that they ask for, to make the
assignments, and to drop the reserved columns again.  The first fragments may as well
be taken on their own: what they see is the same in either case.
-/

namespace Wrangle

open Dataset
open Compile (Gives)

/-!
# Scopes
-/

namespace Scope

variable {scope : Scope}

theorem addColumns_eq (scope : Scope) (names : List String) :
    scope.addColumns names = { scope with columns := names.foldl headerWith scope.columns } := by
  induction names generalizing scope with
  | nil => rfl
  | cons name rest ih =>
      have hfirst : scope.addColumn name =
          { scope with columns := headerWith scope.columns name } := by
        unfold addColumn headerWith
        split
        · rfl
        · rfl
      show (scope.addColumn name).addColumns rest = _
      rw [ih, hfirst]
      rfl

theorem filter_headerWith_of_dropped {test : String -> Bool} {header : List String} {name : String}
    (htest : test name = true) :
    (headerWith header name).filter (fun name => !test name) =
      header.filter fun name => !test name := by
  unfold headerWith
  split
  · rfl
  · rw [List.filter_append]
    simp [htest]

theorem filter_foldl_headerWith (test : String -> Bool) (names header : List String) :
    (names.foldl headerWith header).filter (fun name => !test name) =
      (names.filter fun name => !test name).foldl headerWith
        (header.filter fun name => !test name) := by
  induction names generalizing header with
  | nil => rfl
  | cons name rest ih =>
      rw [List.foldl_cons, ih, List.filter_cons]
      cases htest : test name with
      | true =>
          rw [filter_headerWith_of_dropped htest]
          rfl
      | false =>
          rw [filter_headerWith htest]
          rfl

theorem visible_addColumns (scope : Scope) (names : List String) :
    (scope.addColumns names).visible = { scope.visible with
      columns := (names.filter fun name => !isReserved name).foldl headerWith
        scope.visible.columns } := by
  rw [addColumns_eq]
  show { scope with columns := (names.foldl headerWith scope.columns).filter _ } = _
  rw [filter_foldl_headerWith]
  rfl

theorem visible_addColumn {name : String} (hname : isReserved name = true) :
    (scope.addColumn name).visible = scope.visible := by
  have hadd := visible_addColumns scope [name]
  rw [List.filter_cons, hname] at hadd
  exact hadd

end Scope

theorem Request.visible_fullScope (request : Request) :
    request.fullScope.visible = request.scope.visible := by
  unfold fullScope
  dsimp only
  split
  · rw [Scope.visible_addColumn isReserved_rowNumberColumn]
    split
    · exact Scope.visible_addColumn isReserved_countColumn
    · rfl
  · split
    · exact Scope.visible_addColumn isReserved_countColumn
    · rfl

theorem Request.fullScope_registry (request : Request) :
    request.fullScope.registry = request.scope.registry := by
  have hvisible := congrArg Scope.registry (visible_fullScope request)
  exact hvisible

/-!
# Compiled fragments
-/

/-- A fragment that names no reserved column, and chooses columns by name if it chooses any. -/
structure ResolvedFragment.ReadsByName (fragment : ResolvedFragment) : Prop where
  names : Unreserved fragment.node.walk
  across : Compile.choosesByName fragment.node = true

def rowNames (fragments : List ResolvedFragment) : List String :=
  (if fragments.any ResolvedFragment.mentionsCount then [countColumn] else []) ++
    (if fragments.any ResolvedFragment.mentionsRowNumber then [rowNumberColumn] else [])

theorem mem_rowNames_iff {fragments : List ResolvedFragment} {name : String} :
    name ∈ rowNames fragments <-> exists fragment, fragment ∈ fragments ∧
      ((fragment.mentionsCount = true ∧ name = countColumn) ∨
        (fragment.mentionsRowNumber = true ∧ name = rowNumberColumn)) := by
  unfold rowNames
  simp only [List.mem_append, List.mem_ite_nil_right, List.mem_singleton, List.any_eq_true]
  constructor
  · rintro (⟨⟨fragment, hf, hflag⟩, rfl⟩ | ⟨⟨fragment, hf, hflag⟩, rfl⟩)
    · exact ⟨fragment, hf, Or.inl ⟨hflag, rfl⟩⟩
    · exact ⟨fragment, hf, Or.inr ⟨hflag, rfl⟩⟩
  · rintro ⟨fragment, hf, ⟨hflag, rfl⟩ | ⟨hflag, rfl⟩⟩
    · exact Or.inl ⟨⟨fragment, hf, hflag⟩, rfl⟩
    · exact Or.inr ⟨⟨fragment, hf, hflag⟩, rfl⟩

theorem rowNames_mono {fragments more : List ResolvedFragment}
    (h : forall fragment, fragment ∈ fragments -> fragment ∈ more) :
    forall name, name ∈ rowNames fragments -> name ∈ rowNames more := by
  intro name hname
  rcases mem_rowNames_iff.1 hname with ⟨fragment, hf, hflag⟩
  exact mem_rowNames_iff.2 ⟨fragment, h fragment hf, hflag⟩

theorem rowNames_sub {fragments : List ResolvedFragment} {name : String}
    (h : name ∈ rowNames fragments) : name ∈ [countColumn, rowNumberColumn] := by
  rcases mem_rowNames_iff.1 h with ⟨_, _, ⟨_, rfl⟩ | ⟨_, rfl⟩⟩
  · exact List.mem_cons_self ..
  · exact List.mem_cons_of_mem _ (List.mem_singleton.2 rfl)

namespace Request

variable {scope other : Scope} {fragments more : List ResolvedFragment}

theorem visible_extendScope (h : scope.visible = other.visible) (names : List String) :
    (extendScope .transform scope names).visible =
      (extendScope .transform other names).visible := by
  show (scope.addColumns names).visible = (other.addColumns names).visible
  rw [Scope.visible_addColumns, Scope.visible_addColumns, h]

theorem extendScope_nil {mode : Mode} (scope : Scope) : extendScope mode scope [] = scope := by
  unfold extendScope
  split
  · simp only [Scope.addSummaries, Scope.addColumns_eq, List.foldl_nil, List.append_nil]
  · rfl

theorem extendScope_append {mode : Mode} (scope : Scope) (names others : List String) :
    extendScope mode scope (names ++ others) =
      extendScope mode (extendScope mode scope names) others := by
  unfold extendScope
  split
  · simp only [Scope.addSummaries, Scope.addColumns_eq, List.foldl_append, List.append_assoc]
  · exact List.foldl_append

theorem assigns_agrees (h : scope.visible = other.visible)
    (hfragments : forall fragment, fragment ∈ fragments -> fragment.ReadsByName) :
    Agrees (assigns .transform scope fragments) (assigns .transform other fragments) := by
  induction fragments generalizing scope other with
  | nil => exact .rfl
  | cons fragment rest ih =>
      have hfirst := hfragments fragment (List.mem_cons_self ..)
      have hnode : Agrees (Compile.assigns scope .transform fragment.node)
          (Compile.assigns other .transform fragment.node) := by
        apply (Compile.assigns_visible hfirst.names hfirst.across).trans
        rw [h]
        exact (Compile.assigns_visible hfirst.names hfirst.across).symm
      rw [assigns, assigns]
      apply (hnode.inFragment fragment.source).bind
      intro found _
      apply (ih (visible_extendScope h _)
        fun fragment hf => hfragments fragment (List.mem_cons_of_mem _ hf)).bind
      intro others _
      exact .rfl

theorem assigns_append_eq_ok_iff {mode : Mode} {found : List Assign} :
    assigns mode scope (fragments ++ more) = .ok found <->
      exists first second, assigns mode scope fragments = .ok first ∧
        assigns mode (extendScope mode scope (first.map Assign.name)) more = .ok second ∧
        found = first ++ second := by
  induction fragments generalizing scope found with
  | nil =>
      constructor
      · intro h
        refine ⟨[], found, rfl, ?_, rfl⟩
        rwa [List.map_nil, extendScope_nil]
      · rintro ⟨first, second, hfirst, hsecond, rfl⟩
        cases hfirst
        rwa [List.map_nil, extendScope_nil] at hsecond
  | cons fragment rest ih =>
      have hnames : forall one : List Assign,
          (one.map (Assign.withSource fragment.source)).map Assign.name = one.map Assign.name := by
        intro one
        rw [List.map_map]
        rfl
      rw [List.cons_append, assigns]
      constructor
      · intro h
        rcases bind_eq_ok_iff.1 h with ⟨one, hone, h⟩
        rcases bind_eq_ok_iff.1 h with ⟨others, hothers, h⟩
        cases h
        rcases ih.1 hothers with ⟨first, second, hfirst, hsecond, rfl⟩
        refine ⟨one.map (Assign.withSource fragment.source) ++ first, second, ?_, ?_, ?_⟩
        · rw [assigns, hone, ok_bind, hfirst]
          rfl
        · rw [List.map_append, hnames, extendScope_append]
          exact hsecond
        · rw [List.append_assoc]
      · rintro ⟨first, second, hfirst, hsecond, rfl⟩
        rw [assigns] at hfirst
        rcases bind_eq_ok_iff.1 hfirst with ⟨one, hone, hfirst⟩
        rcases bind_eq_ok_iff.1 hfirst with ⟨others, hothers, hfirst⟩
        cases hfirst
        rw [List.map_append, hnames, extendScope_append] at hsecond
        rw [hone, ok_bind, ih.2 ⟨others, second, hothers, hsecond, rfl⟩]
        exact congrArg Except.ok (List.append_assoc ..).symm

theorem compile_readReserved (hsummaries : scope.summaries = []) {fragment : ResolvedFragment}
    (htells : fragment.Tells) (hreads : fragment.ReadsByName) {names : List String}
    (hnames : forall name, name ∈ rowNames [fragment] -> name ∈ names) {found : List Assign}
    (h : Compile.assigns scope .transform fragment.node = .ok found) :
    ReadReserved names found := by
  have hcovers : Compile.Covers (scope.visible.columns ++ names) scope.visible
      fragment.node.walk := by
    constructor
    · exact fun name hname => List.mem_append_left _ hname
    · intro name hname
      rw [show scope.visible.summaries = [] from hsummaries] at hname
      cases hname
    · intro node hnode hcall
      have hflag := htells.count (List.any_eq_true.2 ⟨node, hnode, hcall⟩)
      apply List.mem_append_right
      apply hnames
      exact mem_rowNames_iff.2 ⟨fragment, List.mem_singleton.2 rfl, Or.inl ⟨hflag, rfl⟩⟩
    · intro node hnode hcall
      have hflag := htells.rowNumber (List.any_eq_true.2 ⟨node, hnode, hcall⟩)
      apply List.mem_append_right
      apply hnames
      exact mem_rowNames_iff.2 ⟨fragment, List.mem_singleton.2 rfl, Or.inr ⟨hflag, rfl⟩⟩
  have hwithin : Gives (Compile.AllWithin (scope.visible.columns ++ names))
      (Compile.assigns scope.visible .transform fragment.node) := Compile.assigns_within hcovers
  rw [(Compile.assigns_visible hreads.names hreads.across).eq_ok h] at hwithin
  intro a ha name hname
  rcases List.mem_append.1 (hwithin a ha name hname) with hname | hname
  · exact Or.inl (Scope.mem_visibleColumns_iff.1 hname).2
  · exact Or.inr hname

theorem assigns_readReserved (hsummaries : scope.summaries = [])
    (htells : forall fragment, fragment ∈ fragments -> fragment.Tells)
    (hreads : forall fragment, fragment ∈ fragments -> fragment.ReadsByName) {names : List String}
    (hnames : forall name, name ∈ rowNames fragments -> name ∈ names) {found : List Assign}
    (h : assigns .transform scope fragments = .ok found) : ReadReserved names found := by
  induction fragments generalizing scope found with
  | nil =>
      cases h
      intro a ha
      cases ha
  | cons fragment rest ih =>
      have hfirst : fragment ∈ fragment :: rest := List.mem_cons_self ..
      rw [assigns] at h
      rcases bind_eq_ok_iff.1 h with ⟨one, hone, h⟩
      rcases bind_eq_ok_iff.1 h with ⟨others, hothers, h⟩
      cases h
      have hsingle : forall name, name ∈ rowNames [fragment] -> name ∈ names := by
        intro name hname
        apply hnames name
        exact rowNames_mono (fun other hother => List.mem_singleton.1 hother ▸ hfirst) name hname
      have hread := compile_readReserved hsummaries (htells _ hfirst) (hreads _ hfirst) hsingle
        (inFragment_eq_ok_iff.1 hone)
      intro a ha
      rcases List.mem_append.1 ha with ha | ha
      · rcases List.mem_map.1 ha with ⟨b, hb, rfl⟩
        exact hread b hb
      · refine ih ?_ (fun other hother => htells other (List.mem_cons_of_mem _ hother))
          (fun other hother => hreads other (List.mem_cons_of_mem _ hother)) ?_ hothers a ha
        · rw [← hsummaries]
          exact Scope.addColumns_summaries ..
        · intro name hname
          exact hnames name (rowNames_mono (fun other => List.mem_cons_of_mem _) name hname)

end Request

/-!
# Running
-/

namespace Dataset

variable {callers : CallerFunctions} {data wide result : Dataset} {names : List String}

theorem transform_append (assigns more : List Assign) :
    transform callers (assigns ++ more) data =
      transform callers assigns data >>= transform callers more := by
  induction assigns generalizing data with
  | nil => rfl
  | cons assign rest ih =>
      rw [List.cons_append, transform_cons, transform_cons]
      cases data.assigned callers assign with
      | error failure => rfl
      | ok next => exact ih

theorem IsRegular.transform (h : data.IsRegular) {assigns : List Assign}
    (hresult : Dataset.transform callers assigns data = .ok result) :
    result.IsRegular ∧ result.groups = data.groups ∧
      result.header = (assigns.map Assign.name).foldl headerWith data.header := by
  induction assigns generalizing data with
  | nil =>
      cases hresult
      exact ⟨h, rfl, rfl⟩
  | cons assign rest ih =>
      rcases bind_eq_ok_iff.1 hresult with ⟨values, _, hresult⟩
      rcases ih (h.setColumn assign.name values) hresult with ⟨hregular, hgroups, hheader⟩
      refine ⟨hregular, ?_, ?_⟩
      · rw [hgroups, setColumn_groups]
      · rw [hheader, setColumn_header]
        rfl

theorem IsRegular.mem_transform_header (h : data.IsRegular) {assigns : List Assign}
    (hresult : Dataset.transform callers assigns data = .ok result) {name : String}
    (hname : name ∈ data.header) : name ∈ result.header := by
  rw [(h.transform hresult).2.2, foldl_headerWith]
  exact List.mem_append_left _ hname

theorem IsRegular.transform_unset (h : data.IsRegular) {assigns : List Assign}
    (hresult : Dataset.transform callers assigns data = .ok result) :
    result.nrows = data.nrows ∧ forall name, name ∉ assigns.map Assign.name ->
      result.columns.lookup name = data.columns.lookup name := by
  induction assigns generalizing data with
  | nil =>
      cases hresult
      exact ⟨rfl, fun _ _ => rfl⟩
  | cons assign rest ih =>
      rcases bind_eq_ok_iff.1 hresult with ⟨values, hvalues, hresult⟩
      have hlength := computed_length hvalues
      rcases ih (h.setColumn assign.name values) hresult with ⟨hnrows, hcolumns⟩
      refine ⟨hnrows.trans (setColumn_nrows data assign.name values hlength), ?_⟩
      intro name hname
      rw [List.map_cons, List.mem_cons, not_or] at hname
      rw [hcolumns name hname.2, h.lookup_setColumn hlength, if_neg hname.1]

theorem IsRegular.transform_partitions (h : data.IsRegular) {assigns : List Assign}
    (hresult : Dataset.transform callers assigns data = .ok result)
    (hkeys : forall key, key ∈ data.groups -> key ∉ assigns.map Assign.name) :
    result.partitions = data.partitions := by
  rcases h.transform hresult with ⟨hregular, hgroups, _⟩
  rcases h.transform_unset hresult with ⟨hnrows, hcolumns⟩
  apply partitions_congr hregular h hgroups hnrows
  intro key hkey
  rw [hgroups] at hkey
  exact hcolumns key (hkeys key hkey)

theorem Pads.header_transform (h : data.Pads names wide) {assigns : List Assign}
    (hresult : Dataset.transform callers assigns wide = .ok result) :
    (result.dropped isReserved).header =
      ((assigns.map Assign.name).filter fun name => !isReserved name).foldl headerWith
        data.header := by
  rw [dropped_header, (h.regular.transform hresult).2.2, Scope.filter_foldl_headerWith,
    ← dropped_header, h.dropped]

theorem WellFormed.isRegular (h : data.WellFormed) : data.IsRegular where
  nodup := h.nodup
  width := h.width
  keys := h.keys
  unreserved := fun key hkey => h.unreserved key (h.keys key hkey)

theorem IsRegular.wellFormed_dropped (h : data.IsRegular) :
    (data.dropped isReserved).WellFormed := by
  have hdropped := h.dropped h.unreserved
  constructor
  · exact hdropped.nodup
  · exact fun name hname => (mem_dropped_header.1 hname).2
  · exact hdropped.width
  · exact hdropped.keys

theorem IsRegular.drop_eq_ok (h : data.IsRegular) :
    Operation.drop isReserved data = .ok (data.dropped isReserved) :=
  Dataset.drop_eq_ok fun key hkey => ⟨h.keys key hkey, h.unreserved key hkey⟩

def AddsColumn (callers : CallerFunctions) (name : String) (op : Operation) : Prop :=
  forall data : Dataset, op.apply callers data = (Outcome.ofFault data.partitions).map
    fun groups => data.setColumn name (rowColumn name groups data.nrows)

theorem addsColumn_count : AddsColumn callers countColumn (.addRowCount countColumn) := by
  intro data
  rw [Operation.apply]
  cases data.partitions with
  | error fault => rfl
  | ok groups => rfl

theorem addsColumn_rowNumber :
    AddsColumn callers rowNumberColumn (.addRowNumber rowNumberColumn) := by
  intro data
  rw [Operation.apply]
  cases data.partitions with
  | error fault => rfl
  | ok groups => rfl

theorem Pads.of_padding (h : data.Pads names wide) {op : Operation} {name : String}
    (hname : isReserved name = true) (hop : AddsColumn callers name op) {condition : Bool}
    (hresult : Operation.applyAll callers (if condition then [op] else []) wide = .ok result) :
    data.Pads (names ++ if condition then [name] else []) result := by
  cases condition with
  | false =>
      cases hresult
      rw [if_neg Bool.false_ne_true, List.append_nil]
      exact h
  | true =>
      rw [if_pos rfl, Operation.applyAll_single, hop wide] at hresult
      rcases map_eq_ok_iff.1 hresult with ⟨groups, hgroups, rfl⟩
      rw [h.partitions] at hgroups
      exact h.add hname (ofFault_eq_ok_iff.1 hgroups)

theorem Pads.exists_padding (h : data.Pads names wide) {op : Operation} {name : String}
    (hop : AddsColumn callers name op) {condition : Bool}
    (hgroups : condition = true -> exists groups, data.partitions = .ok groups) :
    exists result, Operation.applyAll callers (if condition then [op] else []) wide =
      .ok result := by
  cases condition with
  | false => exact ⟨wide, rfl⟩
  | true =>
      rcases hgroups rfl with ⟨groups, hgroups⟩
      rw [if_pos rfl, Operation.applyAll_single, hop wide, h.partitions, hgroups]
      exact ⟨_, rfl⟩

theorem WellFormed.pads_rowColumns (h : data.WellFormed) {request : Request}
    (hresult : Operation.applyAll callers request.rowColumns data = .ok result) :
    data.Pads (rowNames request.fragments) result := by
  unfold Request.rowColumns at hresult
  rw [Operation.applyAll_append] at hresult
  rcases bind_eq_ok_iff.1 hresult with ⟨counted, hcounted, hresult⟩
  have hpads := h.isRegular.pads h.unreserved
  have hcount := hpads.of_padding Request.isReserved_countColumn addsColumn_count hcounted
  exact hcount.of_padding Request.isReserved_rowNumberColumn addsColumn_rowNumber hresult

theorem WellFormed.exists_rowColumns (h : data.WellFormed) {request : Request}
    (hgroups : rowNames request.fragments ≠ [] -> exists groups, data.partitions = .ok groups) :
    exists result, Operation.applyAll callers request.rowColumns data = .ok result := by
  unfold Request.rowColumns
  rw [Operation.applyAll_append]
  have hpads := h.isRegular.pads h.unreserved
  have hcounts : request.mentionsCount = true -> exists groups, data.partitions = .ok groups := by
    intro hflag
    apply hgroups
    have hflag : request.fragments.any ResolvedFragment.mentionsCount = true := hflag
    simp [rowNames, hflag]
  have hnumbers : request.mentionsRowNumber = true ->
      exists groups, data.partitions = .ok groups := by
    intro hflag
    apply hgroups
    have hflag : request.fragments.any ResolvedFragment.mentionsRowNumber = true := hflag
    simp [rowNames, hflag]
  rcases hpads.exists_padding addsColumn_count hcounts with ⟨counted, hcounted⟩
  have hcount := hpads.of_padding Request.isReserved_countColumn addsColumn_count hcounted
  rcases hcount.exists_padding addsColumn_rowNumber hnumbers with ⟨result, hresult⟩
  refine ⟨result, ?_⟩
  rw [hcounted]
  exact hresult

end Dataset

/-!
# Single steps
-/

namespace Invocation

/-- The request of a call for fragments that are resolved. -/
def requestOf (call : Invocation) (data : Dataset) (fragments : List ResolvedFragment) :
    Request where
  data := data
  fragments := fragments
  scope := Scope.ofColumns data.header call.registry call.env

def mutated (call : Invocation) (fragments : List ResolvedFragment) (data : Dataset) :
    Outcome Dataset := do
  let ops <- (call.requestOf data fragments).planMutate
  Operation.applyAll call.env.functions ops data

variable {call : Invocation} {fragments : List ResolvedFragment} {data result : Dataset}

theorem applyAll_transformOf (callers : CallerFunctions) (assigns : List Assign) (data : Dataset) :
    Operation.applyAll callers (Request.transformOf assigns) data =
      transform callers assigns data := by
  unfold Request.transformOf
  split
  · rename_i hempty
    rw [List.isEmpty_iff.1 hempty]
    rfl
  · exact Operation.applyAll_single _ data

theorem mutated_eq_ok_iff (hdata : data.WellFormed) :
    call.mutated fragments data = .ok result <-> exists assigns wide last,
      Request.assigns .transform (call.requestOf data fragments).fullScope fragments =
        .ok assigns ∧
      Operation.applyAll call.env.functions (call.requestOf data fragments).rowColumns data =
        .ok wide ∧
      transform call.env.functions assigns wide = .ok last ∧
        result = last.dropped isReserved := by
  have hlast : forall {assigns : List Assign} {wide last : Dataset},
      Operation.applyAll call.env.functions (call.requestOf data fragments).rowColumns data =
        .ok wide -> transform call.env.functions assigns wide = .ok last ->
      Operation.drop isReserved last = .ok (last.dropped isReserved) := by
    intro assigns wide last hwide hlast
    exact ((hdata.pads_rowColumns hwide).regular.transform hlast).1.drop_eq_ok
  constructor
  · intro h
    rcases bind_eq_ok_iff.1 h with ⟨ops, hops, h⟩
    rcases bind_eq_ok_iff.1 hops with ⟨assigns, hassigns, hops⟩
    cases hops
    rw [Request.enclosed, Operation.applyAll_append, Operation.applyAll_append] at h
    rcases bind_eq_ok_iff.1 h with ⟨last, hsteps, hdrop⟩
    rcases bind_eq_ok_iff.1 hsteps with ⟨wide, hwide, htransform⟩
    rw [applyAll_transformOf] at htransform
    rw [Operation.applyAll_single, Operation.apply, hlast hwide htransform] at hdrop
    cases hdrop
    exact ⟨assigns, wide, last, hassigns, hwide, htransform, rfl⟩
  · rintro ⟨assigns, wide, last, hassigns, hwide, htransform, rfl⟩
    have hassigns : Request.assigns .transform (call.requestOf data fragments).fullScope
        (call.requestOf data fragments).fragments = .ok assigns := hassigns
    rw [mutated, Request.planMutate, hassigns]
    show Operation.applyAll _ (Request.enclosed _ _) data = _
    rw [Request.enclosed, Operation.applyAll_append, Operation.applyAll_append, hwide, ok_bind,
      applyAll_transformOf, htransform, ok_bind, Operation.applyAll_single, Operation.apply,
      hlast hwide htransform]

end Invocation

end Wrangle
