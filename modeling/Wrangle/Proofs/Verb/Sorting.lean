import Wrangle.Proofs.Dataset.Sorting
import Wrangle.Proofs.Verb.Arranging
import Wrangle.Proofs.Verb.SortKeys

/-!
# Arranging by keys

Rows that are arranged by columns are in the lexicographic order of these, each of them in
its own direction and missing cells last.  To arrange by other keys is to put their values
in columns, to arrange by these, and to drop them.
-/

namespace Wrangle

open Dataset
open Compile (expr columnKey? keyColumn)

theorem Dataset.Labels.wellFormed {base : Dataset} {names : List String}
    {columns : List (List Value)} (h : base.Labels names columns) (hbase : base.WellFormed)
    (hnames : forall name, name ∈ names -> isReserved name = false) :
    (base.setColumns (names.zip columns)).WellFormed := by
  have hregular := hbase.isRegular.setColumns (names.zip columns)
  refine ⟨hregular.nodup, ?_, hregular.width, hregular.keys⟩
  intro name hname
  rw [h.header] at hname
  rcases List.mem_append.1 hname with hname | hname
  · exact hbase.unreserved name hname
  · exact hnames name hname

namespace Invocation

variable {call : Invocation} {found : List ResolvedFragment} {data : Dataset}
  {keys : List KeyTerm}

/-- A call of a verb with some fragments. -/
structure Writes (call : Invocation) (verb : Verb) (nodes : List Node) : Prop where
  verb : call.verb = verb
  fragments : exists found, call.fragments = .ok found ∧
    found.map ResolvedFragment.node = nodes

/-!
# Columns as keys
-/

theorem sortKeys_of_columns {scope : Scope} {terms : List ColumnTerm}
    (h : found.map ResolvedFragment.node = terms.map ColumnTerm.node)
    (hcolumns : forall term, term ∈ terms -> term.column ∈ scope.columns) :
    Request.sortKeys scope found = .ok ([], terms.map ColumnTerm.sortKey) := by
  induction terms generalizing found with
  | nil =>
      rw [List.map_eq_nil_iff.1 h]
      rfl
  | cons term terms ih =>
      rcases List.map_eq_cons_iff.1 h with ⟨fragment, others, rfl, hnode, hothers⟩
      rcases List.forall_mem_cons.1 hcolumns with ⟨hterm, hrest⟩
      rw [Request.sortKeys, hnode, Compile.orderKey_column hterm]
      show (Request.sortKeys scope others >>= _) = _
      rw [ih hothers hrest]
      rfl

theorem areQuiet_of_columns {terms : List ColumnTerm}
    (h : found.map ResolvedFragment.node = terms.map ColumnTerm.node) : AreQuiet found := by
  intro fragment hfragment
  have hmem : fragment.node ∈ terms.map ColumnTerm.node := by
    rw [← h]
    exact List.mem_map_of_mem hfragment
  rcases List.mem_map.1 hmem with ⟨term, _, hterm⟩
  rw [← hterm]
  exact ⟨term.mentionsBareCall_node _, term.mentionsBareCall_node _⟩

theorem exists_positions_of_columns {terms : List ColumnTerm}
    (hcall : call.Writes .arrange (terms.map ColumnTerm.node)) (hdata : data.WellFormed)
    (hterms : forall term, term ∈ terms -> data.SortsDiscretely term.column)
    (settings : Settings) :
    exists positions,
      (call.run settings data).result = .ok { data with rows := data.rowsAt positions } ∧
        positions.Perm (List.range data.nrows) ∧
        positions.Pairwise (data.SortsBefore (terms.map ColumnTerm.sortKey)) := by
  rcases hcall.fragments with ⟨found, hfound, hnodes⟩
  have hkeys : forall key, key ∈ terms.map ColumnTerm.sortKey ->
      data.SortsDiscretely key.column := by
    intro key hkey
    rcases List.mem_map.1 hkey with ⟨term, hterm, rfl⟩
    exact hterms term hterm
  rcases exists_sortRows_positions hdata.width hkeys with ⟨positions, hsorted, hperm, horder⟩
  have hsort : sort (terms.map ColumnTerm.sortKey) data.ungroup =
      .ok { data.ungroup with rows := data.rowsAt positions } := by
    show (sortRows data.header data.rows _).map _ = _
    rw [hsorted]
    rfl
  refine ⟨positions, ?_, hperm, horder⟩
  exact run_arrange hcall.verb hdata hfound (areQuiet_of_columns hnodes)
    (sortKeys_of_columns hnodes fun term hterm => (hterms term hterm).present) hsort settings

/-!
# What flat datasets become
-/

theorem plan_arrange_of_flat (hverb : call.verb = .arrange) (hflat : data.groups = [])
    (hsome : found ≠ []) :
    call.verb.plan (call.requestOf data found) =
      Request.sortKeys (call.requestOf data found).fullScope found >>= fun compiled =>
        .ok ((call.requestOf data found).rowColumns ++
          (Request.transformOf compiled.1 ++ [.sort compiled.2] ++ [.dropReserved])) := by
  have hempty : (call.requestOf data found).keys.isEmpty = true := List.isEmpty_iff.2 hflat
  rw [hverb]
  show (call.requestOf data found).planArrange = _
  rw [Request.planArrange, if_neg (by simpa [requestOf] using hsome)]
  simp only [Request.whileFlat, hempty, if_true]
  rfl

/-- What follows the sort finds no groups that could be lost. -/
theorem applyAll_sorted {callers : CallerFunctions} {base : Dataset} (hbase : base.IsRegular)
    (hflat : base.groups = []) (assigns : List Assign) (keys : List SortKey) :
    Operation.applyAll callers
        (Request.transformOf assigns ++ [.sort keys] ++ [.dropReserved]) base =
      transform callers assigns base >>= fun wide =>
        (sort keys wide).map (Dataset.dropped isReserved) := by
  rw [Operation.applyAll_append, Operation.applyAll_append, applyAll_transformOf]
  cases hwide : transform callers assigns base with
  | error failure => rfl
  | ok wide =>
      rw [ok_bind, ok_bind, Operation.applyAll_single]
      show (sort keys wide >>= _) = _
      cases hsorted : sort keys wide with
      | error failure => rfl
      | ok sorted =>
          have hgroups : sorted.groups = [] := by
            rcases sort_rows hsorted with ⟨rows, rfl, _⟩
            show wide.groups = []
            rw [(hbase.transform hwide).2.1, hflat]
          rw [ok_bind, Operation.applyAll_single]
          exact drop_eq_ok fun key hkey => absurd (hgroups ▸ hkey) List.not_mem_nil

theorem run_arrange_agrees (hverb : call.verb = .arrange) (hdata : data.WellFormed)
    (hflat : data.groups = []) (hfound : call.fragments = .ok found) {base : Dataset}
    (hbase : Operation.applyAll call.env.functions (call.requestOf data found).rowColumns data =
      .ok base) (settings : Settings) :
    Agrees (call.run settings data).result
      (Request.sortKeys (call.requestOf data found).fullScope found >>= fun compiled =>
        transform call.env.functions compiled.1 base >>= fun wide =>
          (sort compiled.2 wide).map (Dataset.dropped isReserved)) := by
  have hpads := hdata.pads_rowColumns hbase
  by_cases hsome : found = []
  · subst hsome
    have hrun : (call.run settings data).result = .ok data := by
      refine run_eq_ok_iff.2 ⟨[], [], hfound, ?_, rfl⟩
      rw [hverb]
      rfl
    rw [hrun]
    exact congrArg some hpads.dropped.symm
  have hplan := plan_arrange_of_flat hverb hflat hsome
  have hsteps : forall (assigns : List Assign) (keys : List SortKey),
      Operation.applyAll call.env.functions ((call.requestOf data found).rowColumns ++
          (Request.transformOf assigns ++ [.sort keys] ++ [.dropReserved])) data =
        transform call.env.functions assigns base >>= fun wide =>
          (sort keys wide).map (Dataset.dropped isReserved) := by
    intro assigns keys
    rw [Operation.applyAll_append, hbase, ok_bind]
    exact applyAll_sorted hpads.regular (hpads.groups.trans hflat) assigns keys
  apply Agrees.of_ok_iff
  intro result
  rw [run_eq_ok_iff]
  constructor
  · rintro ⟨_, ops, hother, hops, hresult⟩
    rw [hfound] at hother
    cases hother
    rw [hplan] at hops
    rcases bind_eq_ok_iff.1 hops with ⟨compiled, hcompiled, hops⟩
    cases hops
    rw [hcompiled, ok_bind, ← hsteps, hresult]
  · intro h
    rcases bind_eq_ok_iff.1 h with ⟨compiled, hcompiled, hresult⟩
    rw [← hsteps] at hresult
    refine ⟨found, _, hfound, ?_, hresult⟩
    rw [hplan, hcompiled]
    rfl

theorem run_arrange_columns {terms : List ColumnTerm}
    (hcall : call.Writes .arrange (terms.map ColumnTerm.node)) (hdata : data.WellFormed)
    (hflat : data.groups = []) (hterms : forall term, term ∈ terms -> term.column ∈ data.header)
    (settings : Settings) :
    Agrees (call.run settings data).result (sort (terms.map ColumnTerm.sortKey) data) := by
  rcases hcall.fragments with ⟨found, hfound, hnodes⟩
  have hquiet := areQuiet_of_columns hnodes
  have hbase : Operation.applyAll call.env.functions
      (call.requestOf data found).rowColumns data = .ok data := by
    rw [rowColumns_of_quiet hfound hquiet]
    rfl
  have hkeys : Request.sortKeys (Scope.ofColumns data.header call.registry call.env) found =
      .ok ([], terms.map ColumnTerm.sortKey) := sortKeys_of_columns hnodes hterms
  apply (run_arrange_agrees hcall.verb hdata hflat hfound hbase settings).trans
  rw [fullScope_of_quiet hfound hquiet, hkeys]
  show Agrees ((sort (terms.map ColumnTerm.sortKey) data).map _) _
  cases hsorted : sort (terms.map ColumnTerm.sortKey) data with
  | error failure => exact .rfl
  | ok sorted =>
      rcases sort_rows hsorted with ⟨rows, rfl, _⟩
      exact congrArg some (dropped_of_none hdata.unreserved)

theorem run_mutate_agrees (hverb : call.verb = .mutate) (hdata : data.WellFormed)
    (hfound : call.fragments = .ok found) {base : Dataset}
    (hbase : Operation.applyAll call.env.functions (call.requestOf data found).rowColumns data =
      .ok base) (settings : Settings) :
    Agrees (call.run settings data).result
      (Request.assigns .transform (call.requestOf data found).fullScope found >>= fun assigns =>
        (transform call.env.functions assigns base).map (Dataset.dropped isReserved)) := by
  apply Agrees.of_ok_iff
  intro result
  rw [run_mutate hverb]
  constructor
  · rintro ⟨other, hother, hresult⟩
    rw [hfound] at hother
    cases hother
    rcases (mutated_eq_ok_iff hdata).1 hresult with
      ⟨assigns, wide, last, hassigns, hwide, hlast, rfl⟩
    rw [hbase] at hwide
    cases hwide
    rw [hassigns, ok_bind, hlast]
    rfl
  · intro h
    rcases bind_eq_ok_iff.1 h with ⟨assigns, hassigns, hresult⟩
    rcases map_eq_ok_iff.1 hresult with ⟨last, hlast, rfl⟩
    exact ⟨found, hfound,
      (mutated_eq_ok_iff hdata).2 ⟨assigns, base, last, hassigns, hbase, hlast, rfl⟩⟩

/-!
# Replaced keys
-/

/-- Three calls on a dataset: one arranges it by some keys, one puts the values of the computed
keys in fresh columns, and one arranges by these instead.  No tree of a computed key is the name
of a column in scope, and none mentions the fresh columns. -/
structure Replaces (arranging computing sorting : Invocation) (data : Dataset)
    (keys : List KeyTerm) : Prop where
  written : arranging.Writes .arrange (keys.map KeyTerm.written)
  assigned : computing.Writes .mutate (keys.filterMap KeyTerm.assignment?)
  replaced : sorting.Writes .arrange (keys.map fun key => key.replaced.node)
  env : computing.env = arranging.env
  registry : computing.registry = arranging.registry
  columns : forall term, .column term ∈ keys -> term.column ∈ data.header
  trees : forall tree reversals name, .computed tree reversals name ∈ keys ->
    tree.isReversal = false ∧ forall found, arranging.fragments = .ok found ->
      columnKey? (arranging.requestOf data found).fullScope tree = none
  fresh : data.AreFresh (keys.filterMap KeyTerm.name?)
  unreserved : forall name, name ∈ keys.filterMap KeyTerm.name? -> isReserved name = false
  unnamed : forall name, name ∈ keys.filterMap KeyTerm.name? -> forall tree,
    tree ∈ keys.filterMap KeyTerm.tree? -> .identifier name ∉ tree.walk

namespace Replaces

variable {arranging computing sorting : Invocation} {others : List ResolvedFragment}
  {base : Dataset}

theorem scope_eq (h : Replaces arranging computing sorting data keys)
    (hfound : arranging.fragments = .ok found)
    (hnodes : found.map ResolvedFragment.node = keys.map KeyTerm.written)
    (hothers : computing.fragments = .ok others)
    (hassigned : others.map ResolvedFragment.node = keys.filterMap KeyTerm.assignment?) :
    (computing.requestOf data others).fullScope = (arranging.requestOf data found).fullScope ∧
      (computing.requestOf data others).rowColumns =
        (arranging.requestOf data found).rowColumns := by
  have hcount : (computing.requestOf data others).mentionsCount =
      (arranging.requestOf data found).mentionsCount := by
    rw [Bool.eq_iff_iff, mentionsCount_iff hfound, mentionsCount_iff hothers, hnodes, hassigned,
      KeyTerm.written_asks_iff, KeyTerm.assigned_asks_iff]
  have hnumber : (computing.requestOf data others).mentionsRowNumber =
      (arranging.requestOf data found).mentionsRowNumber := by
    rw [Bool.eq_iff_iff, mentionsRowNumber_iff hfound, mentionsRowNumber_iff hothers, hnodes,
      hassigned, KeyTerm.written_asks_iff, KeyTerm.assigned_asks_iff]
  have hscope : (computing.requestOf data others).scope =
      (arranging.requestOf data found).scope := by
    show Scope.ofColumns data.header _ _ = Scope.ofColumns data.header _ _
    rw [h.registry, h.env]
  constructor
  · unfold Request.fullScope
    rw [hcount, hnumber, hscope]
  · unfold Request.rowColumns
    rw [hcount, hnumber]

end Replaces

theorem fullScope_showing (call : Invocation) (data : Dataset) (found : List ResolvedFragment) :
    (call.requestOf data found).fullScope.showing
      (call.requestOf data found).fullScope.columns 0 =
        (call.requestOf data found).fullScope := by
  have hkeys : (call.requestOf data found).fullScope.sortKeys = 0 := by
    have hvisible := congrArg Scope.sortKeys (call.requestOf data found).visible_fullScope
    exact hvisible
  unfold Scope.showing
  rw [← hkeys]

theorem within_of_mapM (hfound : call.fragments = .ok found)
    (hnodes : found.map ResolvedFragment.node = keys.map KeyTerm.written) {es : List Expr}
    (h : (keys.filterMap KeyTerm.tree?).mapM
      (expr (call.requestOf data found).fullScope .transform true) = .ok es) :
    forall e, e ∈ es -> e.Within (call.requestOf data found).fullScope.columns := by
  have hhonest : (call.requestOf data found).IsHonest :=
    ⟨rfl, fun fragment hf => fragments_tell hfound hf⟩
  have hgives : Compile.Gives
      (fun es => forall e, e ∈ es -> Expr.Within (call.requestOf data found).fullScope.columns e)
      ((keys.filterMap KeyTerm.tree?).mapM
        (expr (call.requestOf data found).fullScope .transform true)) := by
    apply Ends.mapM
    intro tree htree
    rcases List.mem_filterMap.1 htree with ⟨key, hkey, hsome⟩
    cases key with
    | column term => cases hsome
    | computed tree reversals name =>
        cases hsome
        have hmem : tree.reversed reversals ∈ found.map ResolvedFragment.node := by
          rw [hnodes]
          exact List.mem_map_of_mem hkey
        rcases List.mem_map.1 hmem with ⟨fragment, hfragment, hnode⟩
        apply Compile.expr_within tree
        apply (hhonest.covers hfragment).sub
        intro inner hinner
        rw [hnode]
        exact Node.mem_walk_reversed hinner reversals
  rw [h] at hgives
  exact hgives

/-- The columns of a padded dataset are its own and those for the number of rows and for row
numbers. -/
theorem mem_header_of_rowColumns {callers : CallerFunctions} {request : Request} {base : Dataset}
    (hbase : Operation.applyAll callers request.rowColumns data = .ok base) {name : String}
    (hname : name ∈ base.header) :
    name ∈ data.header ∨ name = countColumn ∨ name = rowNumberColumn := by
  have hstep : forall {op : Operation} {column : String}, AddsColumn callers column op ->
      forall {condition : Bool} {first second : Dataset},
        Operation.applyAll callers (if condition then [op] else []) first = .ok second ->
          name ∈ second.header -> name ∈ first.header ∨ name = column := by
    intro op column hop condition first second hresult hmem
    cases condition with
    | false =>
        cases hresult
        exact .inl hmem
    | true =>
        rw [if_pos rfl, Operation.applyAll_single, hop first] at hresult
        rcases map_eq_ok_iff.1 hresult with ⟨groups, _, rfl⟩
        rw [setColumn_header] at hmem
        exact mem_headerWith_iff.1 hmem
  unfold Request.rowColumns at hbase
  rw [Operation.applyAll_append] at hbase
  rcases bind_eq_ok_iff.1 hbase with ⟨counted, hcounted, hbase⟩
  rcases hstep addsColumn_rowNumber hbase hname with hname | hname
  · rcases hstep addsColumn_count hcounted hname with hname | hname
    · exact .inl hname
    · exact .inr (.inl hname)
  · exact .inr (.inr hname)

def AreOutside (data : Dataset) (names : List String) : Prop :=
  forall name, name ∈ names -> name ∉ data.header ∧ name ≠ countColumn ∧ name ≠ rowNumberColumn

theorem AreOutside.notMem_scope {names : List String} (h : AreOutside data names)
    (call : Invocation) (found : List ResolvedFragment) {name : String} (hname : name ∈ names) :
    name ∉ (call.requestOf data found).fullScope.columns := by
  intro hmem
  rcases h name hname with ⟨hheader, hcount, hnumber⟩
  rcases Request.mem_fullScope hmem with hmem | ⟨_, hmem⟩ | ⟨_, hmem⟩
  · exact hheader hmem
  · exact hcount hmem
  · exact hnumber hmem

theorem AreOutside.notMem_header {names : List String} (h : AreOutside data names)
    {callers : CallerFunctions} {request : Request} {base : Dataset}
    (hbase : Operation.applyAll callers request.rowColumns data = .ok base) {name : String}
    (hname : name ∈ names) : name ∉ base.header := by
  intro hmem
  rcases h name hname with ⟨hheader, hcount, hnumber⟩
  rcases mem_header_of_rowColumns hbase hmem with hmem | hmem | hmem
  · exact hheader hmem
  · exact hcount hmem
  · exact hnumber hmem

theorem areOutside_keyColumns (hdata : data.WellFormed) (count : Nat) (keys : List KeyTerm) :
    AreOutside data (KeyTerm.keyColumns count keys) := by
  intro name hname
  rcases KeyTerm.mem_keyColumns hname with ⟨n, _, rfl⟩
  refine ⟨fun hmem => ?_, keyColumn_ne n⟩
  have hreserved := isReserved_keyColumn n
  rw [hdata.unreserved _ hmem] at hreserved
  cases hreserved

theorem areOutside_of_unreserved {names : List String} (hfresh : data.AreFresh names)
    (hunreserved : forall name, name ∈ names -> isReserved name = false) :
    AreOutside data names := by
  intro name hname
  refine ⟨hfresh.2 name hname, ?_, ?_⟩
  · rintro rfl
    have hreserved := hunreserved _ hname
    rw [Request.isReserved_countColumn] at hreserved
    cases hreserved
  · rintro rfl
    have hreserved := hunreserved _ hname
    rw [Request.isReserved_rowNumberColumn] at hreserved
    cases hreserved

theorem areIndependent_of_within {assigns : List Assign} {columns : List String}
    (hexprs : forall e, e ∈ assigns.map Assign.expr -> e.Within columns)
    (hnames : forall name, name ∈ assigns.map Assign.name -> name ∉ columns) :
    AreIndependent assigns := by
  intro a ha b hb hmention
  exact hnames b.name (List.mem_map_of_mem hb) (hexprs a.expr (List.mem_map_of_mem ha) _ hmention)

theorem transform_of_mapM (hdata : data.WellFormed) (hflat : data.groups = [])
    {callers : CallerFunctions} {base : Dataset}
    (hbase : Operation.applyAll callers (call.requestOf data found).rowColumns data = .ok base)
    {assigns : List Assign} (houtside : AreOutside data (assigns.map Assign.name))
    (hwithin : forall e, e ∈ assigns.map Assign.expr ->
      e.Within (call.requestOf data found).fullScope.columns) :
    Agrees (transform callers assigns base)
      (((assigns.map Assign.expr).mapM (base.valuesOf callers)).map fun columns =>
        base.setColumns ((assigns.map Assign.name).zip columns)) := by
  have hpads := hdata.pads_rowColumns hbase
  apply transform_agrees hpads.regular
  · exact (areIndependent_of_within hwithin fun name hname =>
      houtside.notMem_scope call found hname).areSequential
  · intro a _
    rw [hpads.groups, hflat]
    exact List.not_mem_nil

namespace Replaces

variable {arranging computing sorting : Invocation} {others : List ResolvedFragment}
  {base : Dataset}

theorem arranging_agrees (h : Replaces arranging computing sorting data keys)
    (hdata : data.WellFormed) (hflat : data.groups = [])
    (hfound : arranging.fragments = .ok found)
    (hnodes : found.map ResolvedFragment.node = keys.map KeyTerm.written)
    (hbase : Operation.applyAll arranging.env.functions
      (arranging.requestOf data found).rowColumns data = .ok base) (settings : Settings) :
    Agrees (arranging.run settings data).result
      ((keys.filterMap KeyTerm.tree?).mapM
          (expr (arranging.requestOf data found).fullScope .transform true) >>= fun es =>
        es.mapM (base.valuesOf arranging.env.functions) >>= fun columns =>
          (sort (KeyTerm.arranged 0 keys)
            (base.setColumns ((KeyTerm.keyColumns 0 keys).zip columns))).map
              (Dataset.dropped isReserved)) := by
  have hsettles : forall key, key ∈ keys ->
      key.Settles (arranging.requestOf data found).fullScope := by
    intro key hkey
    cases key with
    | column term => exact Request.mem_fullScope_of_mem (h.columns term hkey)
    | computed tree reversals name =>
        rcases h.trees tree reversals name hkey with ⟨hreversal, hcolumn⟩
        exact ⟨hreversal, hcolumn found hfound⟩
  have hcompiled := Request.compiledKeys_agrees hnodes hsettles 0
  rw [fullScope_showing] at hcompiled
  apply (run_arrange_agrees h.written.verb hdata hflat hfound hbase settings).trans
  apply Agrees.bind_of_map hcompiled
  rintro ⟨assigns, sorting⟩ es _ hes hsame
  rcases Prod.mk.inj hsame with ⟨hnames, hrest⟩
  rcases Prod.mk.inj hrest with ⟨hexprs, hsorting⟩
  dsimp only at hnames hexprs hsorting ⊢
  have htransform : Agrees (transform arranging.env.functions assigns base) _ :=
    transform_of_mapM hdata hflat hbase (hnames ▸ areOutside_keyColumns hdata 0 keys)
      (hexprs ▸ within_of_mapM hfound hnodes hes)
  rw [hnames, hexprs] at htransform
  rw [hsorting]
  exact htransform.bind_of_image _

theorem computing_agrees (h : Replaces arranging computing sorting data keys)
    (hdata : data.WellFormed) (hflat : data.groups = [])
    (hfound : arranging.fragments = .ok found)
    (hnodes : found.map ResolvedFragment.node = keys.map KeyTerm.written)
    (hbase : Operation.applyAll arranging.env.functions
      (arranging.requestOf data found).rowColumns data = .ok base) (settings : Settings) :
    Agrees (computing.run settings data).result
      ((keys.filterMap KeyTerm.tree?).mapM
          (expr (arranging.requestOf data found).fullScope .transform true) >>= fun es =>
        (es.mapM (base.valuesOf arranging.env.functions)).map fun columns =>
          data.setColumns ((keys.filterMap KeyTerm.name?).zip columns)) := by
  rcases h.assigned.fragments with ⟨others, hothers, hassigned⟩
  rcases h.scope_eq hfound hnodes hothers hassigned with ⟨hscope, hrowColumns⟩
  have hbase' : Operation.applyAll computing.env.functions
      (computing.requestOf data others).rowColumns data = .ok base := by
    rw [h.env, hrowColumns, hbase]
  have hpads := hdata.pads_rowColumns hbase
  have hcompiled : Agrees (Request.compiledAssigns
      ((arranging.requestOf data found).fullScope.showing
        (arranging.requestOf data found).fullScope.columns 0) others) _ :=
    Request.compiledAssigns_agrees hassigned (fun _ _ _ _ => rfl) h.unnamed 0
  rw [fullScope_showing, ← hscope] at hcompiled
  apply (run_mutate_agrees h.assigned.verb hdata hothers hbase' settings).trans
  rw [← hscope]
  apply Agrees.bind_of_map hcompiled
  intro assigns es _ hes hsame
  rcases Prod.mk.inj hsame with ⟨hnames, hexprs⟩
  have htransform : Agrees (transform computing.env.functions assigns base) _ :=
    transform_of_mapM hdata hflat hbase'
      (hnames ▸ areOutside_of_unreserved h.fresh h.unreserved)
      (hexprs ▸ hscope ▸ within_of_mapM hfound hnodes (hscope ▸ hes))
  rw [hnames, hexprs, h.env] at htransform
  rw [h.env]
  apply htransform.map.trans
  cases hcolumns : es.mapM (base.valuesOf arranging.env.functions) with
  | error failure => exact .rfl
  | ok columns =>
      have hkept : (base.setColumns ((keys.filterMap KeyTerm.name?).zip columns)).dropped
          isReserved = data.setColumns ((keys.filterMap KeyTerm.name?).zip columns) := by
        rw [hpads.regular.dropped_setColumns_of_kept hpads.regular.unreserved, hpads.dropped]
        · exact fun entry hentry => length_of_mem_mapM hcolumns (List.of_mem_zip hentry).2
        · exact fun entry hentry => h.unreserved entry.1 (List.of_mem_zip hentry).1
      exact congrArg some hkept

theorem arranged_standIn {names more : List String} {count : Nat}
    (hcolumns : forall term, .column term ∈ keys -> term.column ∈ base.header ∧
      isReserved term.column = false)
    (hpairs : forall pair, pair ∈ (KeyTerm.keyColumns count keys).zip
      (keys.filterMap KeyTerm.name?) -> pair ∈ names.zip more) :
    List.Forall₂ (base.IsStandIn names more) (KeyTerm.arranged count keys)
      (keys.map fun key => key.replaced.sortKey) := by
  induction keys generalizing count with
  | nil => exact .nil
  | cons key keys ih =>
      have hrest : forall term, .column term ∈ keys -> term.column ∈ base.header ∧
          isReserved term.column = false :=
        fun term hterm => hcolumns term (List.mem_cons_of_mem _ hterm)
      cases key with
      | column term =>
          rcases hcolumns term List.mem_cons_self with ⟨hheader, hunreserved⟩
          exact .cons ⟨rfl, .inl ⟨rfl, hheader, hunreserved⟩⟩ (ih hrest hpairs)
      | computed tree reversals name =>
          refine .cons ⟨rfl, .inr (hpairs _ List.mem_cons_self)⟩ (ih hrest ?_)
          exact fun pair hpair => hpairs pair (List.mem_cons_of_mem _ hpair)

theorem sorting_agrees (h : Replaces arranging computing sorting data keys)
    (hdata : data.WellFormed) (hflat : data.groups = []) {columns : List (List Value)}
    (hlabels : data.Labels (keys.filterMap KeyTerm.name?) columns) (settings : Settings) :
    Agrees
      (sorting.run settings
        (data.setColumns ((keys.filterMap KeyTerm.name?).zip columns))).result
      (sort (keys.map fun key => key.replaced.sortKey)
        (data.setColumns ((keys.filterMap KeyTerm.name?).zip columns))) := by
  have hcall : sorting.Writes .arrange ((keys.map KeyTerm.replaced).map ColumnTerm.node) := by
    rw [List.map_map]
    exact h.replaced
  have hpresent : forall term, term ∈ keys.map KeyTerm.replaced -> term.column ∈
      (data.setColumns ((keys.filterMap KeyTerm.name?).zip columns)).header := by
    intro term hterm
    rcases List.mem_map.1 hterm with ⟨key, hkey, rfl⟩
    rw [hlabels.header]
    cases key with
    | column term => exact List.mem_append_left _ (h.columns term hkey)
    | computed tree reversals name =>
        exact List.mem_append_right _ (List.mem_filterMap.2 ⟨_, hkey, rfl⟩)
  have hsorts := run_arrange_columns hcall (hlabels.wellFormed hdata h.unreserved)
    ((setColumns_groups data _).trans hflat) hpresent settings
  rw [List.map_map] at hsorts
  exact hsorts

theorem areStandIns (h : Replaces arranging computing sorting data keys) (hdata : data.WellFormed)
    (hbase : Operation.applyAll arranging.env.functions
      (arranging.requestOf data found).rowColumns data = .ok base)
    {columns : List (List Value)} (hlength : columns.length = (keys.filterMap KeyTerm.tree?).length)
    (hfits : forall column, column ∈ columns -> column.length = base.nrows) :
    base.AreStandIns (KeyTerm.keyColumns 0 keys) (keys.filterMap KeyTerm.name?) columns where
  left :=
    { fresh := ⟨KeyTerm.keyColumns_nodup 0 keys, fun _ hname =>
        (areOutside_keyColumns hdata 0 keys).notMem_header hbase hname⟩
      length := by rw [hlength, KeyTerm.keyColumns_length]
      fits := hfits }
  right :=
    { fresh := ⟨h.fresh.1, fun _ hname =>
        (areOutside_of_unreserved h.fresh h.unreserved).notMem_header hbase hname⟩
      length := by rw [hlength, KeyTerm.names_length]
      fits := hfits }
  reserved := by
    intro name hname
    rcases KeyTerm.mem_keyColumns hname with ⟨n, _, rfl⟩
    exact isReserved_keyColumn n
  unreserved := h.unreserved

theorem exists_base (h : Replaces arranging computing sorting data keys) (hdata : data.WellFormed)
    (hflat : data.groups = []) :
    exists found base, arranging.fragments = .ok found ∧
      found.map ResolvedFragment.node = keys.map KeyTerm.written ∧
      Operation.applyAll arranging.env.functions
        (arranging.requestOf data found).rowColumns data = .ok base := by
  rcases h.written.fragments with ⟨found, hfound, hnodes⟩
  have hexists : exists base, Operation.applyAll arranging.env.functions
      (arranging.requestOf data found).rowColumns data = .ok base :=
    hdata.exists_rowColumns fun _ => ⟨_, partitions_of_flat data hflat⟩
  rcases hexists with ⟨base, hbase⟩
  exact ⟨found, base, hfound, hnodes, hbase⟩

/-- To arrange a flat dataset by keys is to put the values of the computed ones in fresh columns,
to arrange by these, and to drop them again. -/
theorem agrees (h : Replaces arranging computing sorting data keys) (hdata : data.WellFormed)
    (hflat : data.groups = []) (settings : Settings) :
    Agrees (arranging.run settings data).result
      ((computing.run settings data).result >>= fun computed =>
        (sorting.run settings computed).result.map fun sorted =>
          sorted.dropColumns (keys.filterMap KeyTerm.name?).contains) := by
  rcases h.exists_base hdata hflat with ⟨found, base, hfound, hnodes, hbase⟩
  have hpads := hdata.pads_rowColumns hbase
  have hleft := h.arranging_agrees hdata hflat hfound hnodes hbase settings
  have hright := h.computing_agrees hdata hflat hfound hnodes hbase settings
  apply hleft.trans
  apply Agrees.symm
  apply (hright.bind fun _ _ => .rfl).trans
  cases hes : (keys.filterMap KeyTerm.tree?).mapM
      (expr (arranging.requestOf data found).fullScope .transform true) with
  | error failure => exact Eq.refl none
  | ok es =>
      rw [ok_bind, ok_bind]
      cases hcolumns : es.mapM (base.valuesOf arranging.env.functions) with
      | error failure => exact Eq.refl none
      | ok columns =>
          have hlength : columns.length = (keys.filterMap KeyTerm.tree?).length := by
            rw [length_of_mapM_eq_ok hcolumns, length_of_mapM_eq_ok hes]
          have hfits : forall column, column ∈ columns -> column.length = base.nrows :=
            fun column => length_of_mem_mapM hcolumns
          have hlabels : data.Labels (keys.filterMap KeyTerm.name?) columns :=
            ⟨h.fresh, by rw [hlength, KeyTerm.names_length], fun column hcolumn => by
              rw [hfits column hcolumn, hpads.nrows]⟩
          have hheader : forall term, .column term ∈ keys -> term.column ∈ base.header ∧
              isReserved term.column = false := by
            intro term hterm
            have hmem := h.columns term hterm
            rw [← hpads.dropped] at hmem
            exact mem_dropped_header.1 hmem
          have hsort := sort_standIns hpads.regular (h.areStandIns hdata hbase hlength hfits)
            (arranged_standIn hheader fun _ hpair => hpair)
          rw [hpads.dropped] at hsort
          apply (h.sorting_agrees hdata hflat hlabels settings).map.trans
          apply Agrees.trans _ hsort.symm
          cases hsorted : sort (keys.map fun key => key.replaced.sortKey)
              (data.setColumns ((keys.filterMap KeyTerm.name?).zip columns)) with
          | error failure => exact .rfl
          | ok sorted =>
              have hwidth : sorted.HasWidth := by
                rcases sort_rows hsorted with ⟨rows, rfl, hrows⟩
                exact fun row hrow => (hdata.isRegular.setColumns _).width row (hrows row hrow)
              exact congrArg some (dropped_eq hwidth).symm

theorem eq_keep (h : Replaces arranging computing sorting data keys) (hdata : data.WellFormed)
    (hflat : data.groups = []) {settings : Settings} {result : Dataset}
    (hresult : (arranging.run settings data).result = .ok result) :
    exists positions, result = { data with rows := data.rowsAt positions } := by
  rcases h.exists_base hdata hflat with ⟨found, base, hfound, hnodes, hbase⟩
  have hpads := hdata.pads_rowColumns hbase
  have harranged := (h.arranging_agrees hdata hflat hfound hnodes hbase settings).eq_ok hresult
  rcases bind_eq_ok_iff.1 harranged with ⟨es, hes, harranged⟩
  rcases bind_eq_ok_iff.1 harranged with ⟨columns, hcolumns, harranged⟩
  rcases map_eq_ok_iff.1 harranged with ⟨sorted, hsorted, rfl⟩
  rcases exists_keep_of_sort hsorted with ⟨positions, rfl⟩
  refine ⟨positions, ?_⟩
  rw [dropped_keep, dropped_setColumns hpads.regular.width, hpads.dropped]
  · rfl
  · exact fun entry hentry => length_of_mem_mapM hcolumns (List.of_mem_zip hentry).2
  · intro entry hentry
    rcases KeyTerm.mem_keyColumns (List.of_mem_zip hentry).1 with ⟨n, _, hname⟩
    rw [hname]
    exact isReserved_keyColumn n

end Replaces

/-- Rows that are arranged by columns are in the order that the first key on which they differ
gives them, and otherwise as before.  On a flat dataset, to arrange by computed keys as well is to
arrange by fresh columns with the values that they have when the columns are added; none of these
columns is left. -/
theorem arrange_sorts (hdata : data.WellFormed) (settings : Settings) :
    (forall (call : Invocation) (terms : List ColumnTerm),
      call.Writes .arrange (terms.map ColumnTerm.node) ->
      (forall term, term ∈ terms -> data.SortsDiscretely term.column) ->
        exists positions,
          (call.run settings data).result = .ok { data with rows := data.rowsAt positions } ∧
            positions.Perm (List.range data.nrows) ∧
            positions.Pairwise (data.SortsBefore (terms.map ColumnTerm.sortKey))) ∧
      forall (arranging computing sorting : Invocation) (keys : List KeyTerm), data.groups = [] ->
        Replaces arranging computing sorting data keys ->
          Agrees (arranging.run settings data).result
            ((computing.run settings data).result >>= fun computed =>
              (sorting.run settings computed).result.map fun sorted =>
                sorted.dropColumns (keys.filterMap KeyTerm.name?).contains) ∧
          forall result, (arranging.run settings data).result = .ok result ->
            exists positions, result = { data with rows := data.rowsAt positions } := by
  constructor
  · intro call terms hcall hterms
    exact exists_positions_of_columns hcall hdata hterms settings
  · intro arranging computing sorting keys hflat hreplaces
    exact ⟨hreplaces.agrees hdata hflat settings, fun _ => hreplaces.eq_keep hdata hflat⟩

/-- A call of a verb with some texts. -/
def textsCall (verb : Verb) (texts : List String) : Invocation :=
  { keysCall verb with values := texts.map .str }

theorem mapM_fragmentOf_texts {texts : List String} {nodes : List Node}
    (h : texts.mapM (parse true) = .ok nodes) :
    (texts.map Value.str).mapM Verb.fragmentOf = .ok (nodes.zip texts) := by
  induction texts generalizing nodes with
  | nil =>
      cases h
      rfl
  | cons text texts ih =>
      rw [List.mapM_cons] at h
      rcases bind_eq_ok_iff.1 h with ⟨node, hnode, h⟩
      rcases bind_eq_ok_iff.1 h with ⟨others, hothers, h⟩
      cases h
      rw [List.map_cons, List.mapM_cons, ih hothers, Verb.fragmentOf, hnode]
      rfl

theorem textsCall_writes {verb : Verb} {texts : List String} {nodes : List Node}
    {found : List ResolvedFragment} (hparse : texts.mapM (parse true) = .ok nodes)
    (hfound : Interpolation.resolveAll Environment.empty (nodes.zip texts) = .ok found)
    (hnodes : found.map ResolvedFragment.node = nodes) :
    (textsCall verb texts).Writes verb nodes := by
  refine ⟨rfl, found, ?_, hnodes⟩
  have hsources : Verb.fragmentsOf (textsCall verb texts).values (textsCall verb texts).named =
      .ok (nodes.zip texts) := by
    show ((texts.map Value.str).mapM Verb.fragmentOf >>= _) = _
    rw [mapM_fragmentOf_texts hparse, ok_bind]
    exact congrArg Except.ok (List.append_nil _)
  rw [fragments, hsources]
  exact hfound

theorem parse_k : parse true "k" = .ok (.identifier "k") := by
  have hts : tokenize "k" = .ok [⟨.identifier "k", 0⟩, ⟨.finish, 1⟩] := rfl
  exact Grammar.parse_eq_ok_iff.mpr ⟨by decide, _, hts, rfl⟩

theorem descending_writes :
    (textsCall .arrange ["desc(k)", "j"]).Writes .arrange
      [Node.reversed 1 (.identifier "k"), .identifier "j"] := by
  have hk : parse true "desc(k)" = .ok (Node.reversed 1 (.identifier "k")) := by
    have hts : tokenize "desc(k)" =
        .ok [⟨.identifier "desc", 0⟩, ⟨.symbol .openParen, 4⟩, ⟨.identifier "k", 5⟩,
          ⟨.symbol .closeParen, 6⟩, ⟨.finish, 7⟩] := rfl
    exact Grammar.parse_eq_ok_iff.mpr ⟨by decide, _, hts, rfl⟩
  have hj : parse true "j" = .ok (.identifier "j") := by
    have hts : tokenize "j" = .ok [⟨.identifier "j", 0⟩, ⟨.finish, 1⟩] := rfl
    exact Grammar.parse_eq_ok_iff.mpr ⟨by decide, _, hts, rfl⟩
  exact textsCall_writes (by simp only [List.mapM_cons, List.mapM_nil, hk, hj]; rfl) rfl rfl

def following : Node :=
  .binary "+" (.identifier "i") (.literal (.int 1))

/-- The keys `desc(i + 1)` and `k`, with a column `t` for the first one. -/
def mixedKeys : List KeyTerm :=
  [.computed following 1 "t", .column ⟨"k", false, 0⟩]

theorem mixedKeys_replaces :
    Replaces (textsCall .arrange ["desc(i + 1)", "k"]) (textsCall .mutate ["t = i + 1"])
      (textsCall .arrange ["desc(t)", "k"]) mixture mixedKeys where
  written := by
    have hparse : parse true "desc(i + 1)" = .ok (following.reversed 1) := by
      have hts : tokenize "desc(i + 1)" =
          .ok [⟨.identifier "desc", 0⟩, ⟨.symbol .openParen, 4⟩, ⟨.identifier "i", 5⟩,
            ⟨.symbol .plus, 7⟩, ⟨.integer 1, 9⟩, ⟨.symbol .closeParen, 10⟩, ⟨.finish, 11⟩] := rfl
      exact Grammar.parse_eq_ok_iff.mpr ⟨by decide, _, hts, rfl⟩
    exact textsCall_writes (by simp only [List.mapM_cons, List.mapM_nil, hparse, parse_k]; rfl)
      rfl rfl
  assigned := by
    have hparse : parse true "t = i + 1" = .ok (.assignment "t" following) := by
      have hts : tokenize "t = i + 1" =
          .ok [⟨.identifier "t", 0⟩, ⟨.symbol .assign, 2⟩, ⟨.identifier "i", 4⟩,
            ⟨.symbol .plus, 6⟩, ⟨.integer 1, 8⟩, ⟨.finish, 9⟩] := rfl
      exact Grammar.parse_eq_ok_iff.mpr ⟨by decide, _, hts, rfl⟩
    exact textsCall_writes (by simp only [List.mapM_cons, List.mapM_nil, hparse]; rfl) rfl rfl
  replaced := by
    have hparse : parse true "desc(t)" = .ok (Node.reversed 1 (.identifier "t")) := by
      have hts : tokenize "desc(t)" =
          .ok [⟨.identifier "desc", 0⟩, ⟨.symbol .openParen, 4⟩, ⟨.identifier "t", 5⟩,
            ⟨.symbol .closeParen, 6⟩, ⟨.finish, 7⟩] := rfl
      exact Grammar.parse_eq_ok_iff.mpr ⟨by decide, _, hts, rfl⟩
    exact textsCall_writes (by simp only [List.mapM_cons, List.mapM_nil, hparse, parse_k]; rfl)
      rfl rfl
  env := rfl
  registry := rfl
  columns := by
    intro term hterm
    simp only [mixedKeys, List.mem_cons, List.not_mem_nil, or_false, reduceCtorEq, false_or,
      KeyTerm.column.injEq] at hterm
    rw [hterm]
    decide
  trees := by
    intro tree reversals name hkey
    simp only [mixedKeys, List.mem_cons, List.not_mem_nil, or_false, reduceCtorEq,
      KeyTerm.computed.injEq] at hkey
    rw [hkey.1]
    exact ⟨rfl, fun _ _ => rfl⟩
  fresh := ⟨by decide, by decide⟩
  unreserved := by decide
  unnamed := by
    intro name hname tree htree
    rw [List.mem_singleton.1 hname, List.mem_singleton.1 htree]
    simp [following, Node.binary, Node.walk, Node.walkAll, Node.walkNamed]

theorem mixture_sortsDiscretely {column : String} (h : column ∈ mixture.header) :
    mixture.SortsDiscretely column := by
  constructor
  · exact h
  · revert column
    decide

theorem arrange_sorts_mixture :
    (exists positions,
      ((textsCall .arrange ["desc(k)", "j"]).run Settings.initial mixture).result =
          .ok { mixture with rows := mixture.rowsAt positions } ∧
        positions.Perm (List.range mixture.nrows) ∧
        positions.Pairwise (mixture.SortsBefore [⟨"k", true⟩, ⟨"j", false⟩])) ∧
      Agrees ((textsCall .arrange ["desc(i + 1)", "k"]).run Settings.initial mixture).result
        (((textsCall .mutate ["t = i + 1"]).run Settings.initial mixture).result >>= fun computed =>
          ((textsCall .arrange ["desc(t)", "k"]).run Settings.initial computed).result.map
            fun sorted => sorted.dropColumns ["t"].contains) := by
  rcases arrange_sorts mixture_wellFormed Settings.initial with ⟨hcolumns, hkeys⟩
  have hdiscrete : forall term : ColumnTerm, term ∈ [⟨"k", false, 1⟩, ⟨"j", false, 0⟩] ->
      mixture.SortsDiscretely term.column := by
    intro term hterm
    apply mixture_sortsDiscretely
    revert term
    decide
  exact ⟨hcolumns _ [⟨"k", false, 1⟩, ⟨"j", false, 0⟩] descending_writes hdiscrete,
    (hkeys _ _ _ mixedKeys rfl mixedKeys_replaces).1⟩

end Invocation
end Wrangle
