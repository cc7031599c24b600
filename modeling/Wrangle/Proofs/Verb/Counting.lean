import Wrangle.Proofs.Verb.ElementWise
import Wrangle.Proofs.Verb.Summarizing

/-!
# Counting

To count is to group by the keys and by more columns, to take the numbers of rows of
the groups, and to give the keys back.  The fragments for this are texts in which the
name of the new column stands between backticks, so it may be any text without
backticks and backslashes.
-/

namespace Wrangle

open Dataset Compile

/-!
# Names between backticks
-/

namespace Grammar

open Text

/-- A name that stands between backticks as it is. -/
structure IsQuotable (name : String) : Prop where
  backtick : backtick ∉ name.toList
  backslash : backslash ∉ name.toList

variable {name : String}

theorem markQuoted_eq (h : IsQuotable name) : markQuoted name =
    String.ofList
      (backtick :: (replaceChar backtick [backslash, backtick] name.toList ++ [backtick])) := by
  have hsame : replaceChar backtick [backslash, backtick] name.toList = name.toList := by
    have hkept : forall c, c ∈ name.toList ->
        (if c == backtick then [backslash, backtick] else [c]) = [c] := by
      intro c hc
      rw [if_neg]
      rintro heq
      exact h.backtick (beq_iff_eq.1 heq ▸ hc)
    rw [replaceChar, List.flatMap_congr hkept, List.flatMap_singleton']
  rw [hsame, ← String.toList_inj, markQuoted]
  simp only [String.toList_append, String.toList_ofList]
  rfl

theorem lexes_markQuoted (h : IsQuotable name) : Lexes (markQuoted name) [.quotedName name] := by
  rw [markQuoted_eq h]
  exact lexes_quotedName h.backslash

theorem starts_markQuoted (h : IsQuotable name) : Starts (markQuoted name) := by
  rw [markQuoted_eq h]
  exact ⟨backtick, _, String.toList_ofList, by decide, by decide⟩

theorem parse_countFragment (h : IsQuotable name) :
    parse true (markQuoted name ++ " = n()") = .ok (.assignment name Summary.size.node) := by
  have hword : (Token.identifier countFunction).IsLegible :=
    ⟨⟨rfl, List.all_eq_true.mp rfl, by decide⟩, rfl⟩
  have hcall : Written .application (countFunction ++ "(" ++ "" ++ ")") Summary.size.node :=
    written_call hword ⟨[], .onlyNamed .noNamed, Lexes.empty⟩
  have htext : markQuoted name ++ " = n()" =
      markQuoted name ++ " = " ++ (countFunction ++ "(" ++ "" ++ ")") := by
    rw [String.append_assoc]
    congr 1
  have htarget : target? (.quotedName name) = some name := rfl
  rw [htext]
  exact parse_assignment rfl htarget (lexes_markQuoted h) (starts_markQuoted h)
    (hcall.loosen (Level.rank_le _))

theorem parse_largestFirst (h : IsQuotable name) :
    parse true ("desc(" ++ markQuoted name ++ ")") =
      .ok (.call "desc" [.identifier name] [] false) := by
  have hword : (Token.identifier "desc").IsLegible :=
    ⟨⟨rfl, List.all_eq_true.mp rfl, by decide⟩, rfl⟩
  have hname : Derives [.quotedName name] (.node .clause (.identifier name)) :=
    derives_of_rank_le (.leaf rfl) (Level.rank_pos _)
  have hcall : Written .application ("desc" ++ "(" ++ markQuoted name ++ ")")
      (.call "desc" [.identifier name] [] false) :=
    written_call hword ⟨_, .lastArgument hname, lexes_markQuoted h⟩
  exact parse_of_written (hcall.loosen (Level.rank_le _))

end Grammar

/-!
# Selections
-/

/-- The call of a verb with positional fragments and the registry that is in use. -/
def Verb.calling (verb : Verb) (settings : Settings) (env : Environment) (values : List Value) :
    Invocation :=
  { verb := verb, values := values, named := [], env := env, registry := settings.registry }

theorem Verb.invoke_result (verb : Verb) (settings : Settings) (env : Environment)
    (values : List Value) (data : Dataset) :
    (verb.invoke settings env values data).result =
      ((verb.calling settings env values).run settings data).result := rfl

namespace Invocation

variable {call : Invocation} {data : Dataset} {found : List ResolvedFragment}
variable {verb : Verb} {settings : Settings} {env : Environment} {values more : List Value}
variable {columns : List String} {name : String}

theorem fragments_append {others : List ResolvedFragment}
    (h : (verb.calling settings env values).fragments = .ok found)
    (hmore : (verb.calling settings env more).fragments = .ok others) :
    (verb.calling settings env (values ++ more)).fragments = .ok (found ++ others) := by
  rcases fragments_eq_ok_iff.1 h with ⟨parts, hparts, rfl⟩
  rcases fragments_eq_ok_iff.1 hmore with ⟨lasts, hlasts, rfl⟩
  refine fragments_eq_ok_iff.2 ⟨parts ++ lasts, ?_, List.flatten_append.symm⟩
  have hpieces : (verb.calling settings env (values ++ more)).pieces =
      (verb.calling settings env values).pieces ++ (verb.calling settings env more).pieces := by
    simp [pieces, Verb.calling]
  rw [hpieces, List.mapM_append, hparts, hlasts]
  rfl

structure Picks (scope : Scope) (data : Dataset) (node : Node) (names : List String) : Prop where
  plain : node.isAssignment = false
  selects : selectNames scope node = .ok names
  present : forall name, name ∈ names -> name ∈ data.header

def Selects (call : Invocation) (data : Dataset) (columns : List String) : Prop :=
  exists found lists, call.fragments = .ok found ∧ columns = List.flatten lists ∧
    List.Forall₂ (fun fragment names =>
      Picks (call.requestOf data found).fullScope data fragment.node names) found lists

theorem mem_of_picks {scope : Scope} {lists : List (List String)}
    (h : List.Forall₂ (fun fragment names => Picks scope data fragment.node names) found lists)
    {column : String} (hcolumn : column ∈ lists.flatten) : column ∈ data.header := by
  induction h with
  | nil => cases hcolumn
  | cons hfirst _ ih =>
      rw [List.flatten_cons] at hcolumn
      rcases List.mem_append.1 hcolumn with hcolumn | hcolumn
      · exact hfirst.present column hcolumn
      · exact ih hcolumn

theorem addNew_eq_addedNames {kept names : List String} (h : names.Nodup) :
    ColumnSets.addNew kept names = addedNames kept names := by
  induction names generalizing kept with
  | nil => simp [ColumnSets.addNew, addedNames]
  | cons first rest ih =>
      rcases List.nodup_cons.1 h with ⟨hfirst, hrest⟩
      show _ = addedNames (ColumnSets.addNew kept [first]) rest
      rw [← ih hrest]
      by_cases hmem : first ∈ kept
      · rw [addNew_of_mem hmem]
        simp [ColumnSets.addNew, hmem]
      · rw [addNew_of_not_mem hmem]
        have hothers : (rest.filter fun name => !(kept ++ [first]).contains name) =
            rest.filter fun name => !kept.contains name := by
          apply List.filter_congr
          intro name hname
          have hne : name ≠ first := fun heq => hfirst (heq ▸ hname)
          simp [hne]
        rw [ColumnSets.addNew, ColumnSets.addNew, hothers]
        simp [hmem]

theorem addedNames_append (kept names more : List String) :
    addedNames kept (names ++ more) = addedNames (addedNames kept names) more :=
  List.foldl_append

theorem groupKeys_of_picks {scope : Scope} (hscope : scope.columns.Nodup)
    {lists : List (List String)}
    (h : List.Forall₂ (fun fragment names => Picks scope data fragment.node names) found lists)
    (kept : List String) :
    Request.groupKeys scope kept found = .ok ([], addedNames kept lists.flatten) := by
  induction h generalizing kept with
  | nil => rfl
  | @cons fragment names found lists hfirst _ ih =>
      have hnodup := selectNames_nodup hscope fragment.node
      rw [hfirst.selects] at hnodup
      have hkeys : Compile.groupKeys scope fragment.node = .ok ([], names, scope) := by
        have hnames : ColumnSets.addNew [] names = names := by simp [ColumnSets.addNew]
        unfold Compile.groupKeys
        split
        · rename_i heq
          rw [heq] at hfirst
          cases hfirst.plain
        · rw [hfirst.selects, ok_bind, hnames]
      rw [Request.groupKeys, hkeys]
      show (Request.groupKeys scope (ColumnSets.addNew kept names) found >>= _) = _
      rw [addNew_eq_addedNames hnodup, ih, List.flatten_cons, addedNames_append]
      rfl

/-- Names of columns select these columns, whatever else there is in scope. -/
theorem picks_of_names {scope : Scope} (h : found.map ResolvedFragment.node =
      columns.map Node.identifier)
    (hscope : forall column, column ∈ columns -> column ∈ scope.columns)
    (hcolumns : forall column, column ∈ columns -> column ∈ data.header) :
    List.Forall₂ (fun fragment names => Picks scope data fragment.node names) found
      (columns.map fun column => [column]) := by
  induction columns generalizing found with
  | nil =>
      rw [List.map_eq_nil_iff.1 h]
      exact .nil
  | cons column columns ih =>
      rcases List.map_eq_cons_iff.1 h with ⟨fragment, others, rfl, hnode, hothers⟩
      rcases List.forall_mem_cons.1 hscope with ⟨hfirst, hscope⟩
      rcases List.forall_mem_cons.1 hcolumns with ⟨hcolumn, hcolumns⟩
      refine .cons ⟨?_, ?_, ?_⟩ (ih hothers hscope hcolumns)
      · rw [hnode]
        rfl
      · rw [hnode]
        exact selectNames_identifier hfirst
      · intro name hname
        rwa [List.mem_singleton.1 hname]

theorem Names.selects (h : call.Names verb columns)
    (hcolumns : forall column, column ∈ columns -> column ∈ data.header) :
    call.Selects data columns := by
  rcases h.fragments with ⟨found, hfound, hnames⟩
  refine ⟨found, columns.map fun column => [column], hfound, ?_, ?_⟩
  · rw [← List.flatMap_def, List.flatMap_singleton']
  · exact picks_of_names hnames
      (fun column hcolumn => Request.mem_fullScope_of_mem (hcolumns column hcolumn)) hcolumns

theorem Selects.after_names {keys : List String}
    (hnames : (verb.calling settings env values).Names verb keys)
    (hkeys : forall key, key ∈ keys -> key ∈ data.header)
    (h : (verb.calling settings env more).Selects data columns) :
    (verb.calling settings env (values ++ more)).Selects data (keys ++ columns) := by
  rcases hnames.fragments with ⟨first, hfirst, hnodes⟩
  rcases h with ⟨found, lists, hfound, rfl, hpicks⟩
  have hscope : ((verb.calling settings env (values ++ more)).requestOf data
      (first ++ found)).fullScope =
        ((verb.calling settings env more).requestOf data found).fullScope := by
    rcases @asks_nothing _ data _ hfirst (areQuiet_of_names hnodes) with ⟨hcount, hrowNumber⟩
    have hcounts : ((verb.calling settings env (values ++ more)).requestOf data
        (first ++ found)).mentionsCount =
          ((verb.calling settings env more).requestOf data found).mentionsCount := by
      show (first ++ found).any ResolvedFragment.mentionsCount = _
      rw [List.any_append, show first.any ResolvedFragment.mentionsCount = false from hcount,
        Bool.false_or]
      rfl
    have hnumbers : ((verb.calling settings env (values ++ more)).requestOf data
        (first ++ found)).mentionsRowNumber =
          ((verb.calling settings env more).requestOf data found).mentionsRowNumber := by
      show (first ++ found).any ResolvedFragment.mentionsRowNumber = _
      rw [List.any_append,
        show first.any ResolvedFragment.mentionsRowNumber = false from hrowNumber, Bool.false_or]
      rfl
    rw [Request.fullScope, Request.fullScope, hcounts, hnumbers]
    rfl
  refine ⟨first ++ found, (keys.map fun key => [key]) ++ lists, fragments_append hfirst hfound,
    ?_, ?_⟩
  · rw [List.flatten_append, ← List.flatMap_def, List.flatMap_singleton']
  · rw [hscope]
    refine List.rel_append (picks_of_names hnodes ?_ hkeys) hpicks
    exact fun key hkey => Request.mem_fullScope_of_mem (hkeys key hkey)

theorem Selects.run_groupBy (h : call.Selects data columns) (hverb : call.verb = .groupBy)
    (hdata : data.WellFormed) (hgroups : exists groups, data.partitions = .ok groups)
    (settings : Settings) :
    (call.run settings data).result = .ok (data.withGroups (addedNames [] columns)) := by
  rcases h with ⟨found, lists, hfound, rfl, hpicks⟩
  have hscope : (call.requestOf data found).fullScope.columns.Nodup := fullScope_nodup hdata.nodup
  apply Invocation.run_groupBy hverb hdata hfound (groupKeys_of_picks hscope hpicks [])
  · intro name hname
    exact mem_of_picks hpicks ((mem_addedNames_iff.1 hname).resolve_left List.not_mem_nil)
  · exact hdata.exists_rowColumns fun _ => hgroups

/-!
# The fragments of counting
-/

theorem countFragment_summarizes (hname : Grammar.IsQuotable name) (settings : Settings)
    (env : Environment) :
    (Verb.summarize.calling settings env [countFragment name]).Summarizes [(name, .size)] := by
  have hfragment : Verb.fragmentOf (countFragment name) =
      .ok (.assignment name (.call countFunction [] [] false), markQuoted name ++ " = n()") := by
    rw [countFragment, Verb.fragmentOf, Grammar.parse_countFragment hname]
    rfl
  refine ⟨Or.inl rfl, [⟨.assignment name (.call countFunction [] [] false), true, false,
    markQuoted name ++ " = n()"⟩], ?_, .cons (Or.inl rfl) .nil⟩
  unfold fragments Verb.fragmentsOf
  simp only [Verb.calling, List.mapM_cons, List.mapM_nil, hfragment]
  rfl

def largestFirstFragment (name : String) : ResolvedFragment where
  node := .call "desc" [.identifier name] [] false
  mentionsCount := false
  mentionsRowNumber := false
  source := "desc(" ++ markQuoted name ++ ")"

theorem largestFirst_fragments (hname : Grammar.IsQuotable name) :
    (Verb.arrange.calling settings env [largestFirst name]).fragments =
      .ok [largestFirstFragment name] := by
  have hfragment : Verb.fragmentOf (largestFirst name) =
      .ok (.call "desc" [.identifier name] [] false, "desc(" ++ markQuoted name ++ ")") := by
    rw [largestFirst, Verb.fragmentOf, Grammar.parse_largestFirst hname]
    rfl
  unfold fragments Verb.fragmentsOf
  simp only [Verb.calling, List.mapM_cons, List.mapM_nil, hfragment]
  rfl

theorem sortKeys_largestFirst (columns : List String) (registry : Registry) (env : Environment) :
    Request.sortKeys (Scope.ofColumns (columns ++ [name]) registry env)
      [largestFirstFragment name] = .ok ([], [descending name]) := by
  have hkey : Compile.orderKey (Scope.ofColumns (columns ++ [name]) registry env)
      (.call "desc" [.identifier name] [] false) =
        .ok ([], descending name, Scope.ofColumns (columns ++ [name]) registry env) := by
    simp [Compile.orderKey, stripReversals, columnKey?, Scope.ofColumns, descending]
  rw [Request.sortKeys, largestFirstFragment, hkey]
  rfl

end Invocation

/-!
# Tables of counts
-/

namespace Dataset

variable {data : Dataset} {columns : List String} {name : String} {keys : List (List Value)}

/-- The number of rows that have a key by some columns. -/
def tallyOf (data : Dataset) (columns : List String) (key : List Value) : Nat :=
  ((data.withGroups columns).rowsWith key).length

def countRow (data : Dataset) (columns : List String) (key : List Value) : List Value :=
  key ++ [.int (Int.ofNat (data.tallyOf columns key))]

/-- A row for each of some keys, with the number of rows that have it, under the groups of the
dataset. -/
def countTable (data : Dataset) (columns : List String) (name : String)
    (keys : List (List Value)) : Dataset where
  header := columns ++ [name]
  rows := keys.map (data.countRow columns)
  groups := data.groups

theorem sum_tallies (hlist : (data.withGroups columns).IsKeyList keys) :
    (keys.map (data.tallyOf columns)).sum = data.nrows := by
  have hgather : IsArrangement (data.withGroups columns).keyPlace data.rows
      ((keys.map (List.map Value.place)).flatMap fun place =>
        itemsAt (data.withGroups columns).keyPlace place data.rows) := by
    apply IsArrangement.gather (List.pairwise_map.2 hlist.ascending)
    intro row hrow
    exact List.mem_map_of_mem ((hlist.mem_iff _).2 (Or.inr ⟨row, hrow, rfl⟩))
  have hlength := hgather.perm.length_eq
  rw [List.flatMap_map, List.length_flatMap] at hlength
  exact hlength

theorem tallyOf_pos (hlist : (data.withGroups columns).IsKeyList keys) (hsome : columns ≠ [])
    {key : List Value} (hkey : key ∈ keys) : 0 < data.tallyOf columns key := by
  rcases (hlist.mem_iff key).1 hkey with ⟨hflat, _⟩ | ⟨row, hrow, hplace⟩
  · exact absurd hflat hsome
  · apply List.length_pos_of_mem
    exact mem_itemsAt_iff.2 ⟨hrow, congrArg (List.map Value.place) hplace⟩

theorem keys_of_flat (hlist : (data.withGroups []).IsKeyList keys) : keys = [[]] := by
  have hsingle : (data.withGroups []).IsKeyList [[]] := by
    refine ⟨List.pairwise_singleton _ _, ?_⟩
    intro key
    rw [List.mem_singleton]
    constructor
    · exact fun hkey => Or.inl ⟨rfl, hkey⟩
    · exact fun hkey => List.eq_nil_of_length_eq_zero (hasKey_length hkey)
  exact hlist.unique hsingle fun _ => Iff.rfl

theorem regroup_summaryTable (hgroups : forall key, key ∈ data.groups -> key ∈ columns)
    (hcolumns : forall column, column ∈ columns -> isReserved column = false)
    (hname : isReserved name = false) :
    (Invocation.summaryTable (data.withGroups columns) [(name, .size)] keys).regroup data.groups =
      .ok (data.countTable columns name keys) := by
  have hnone : forall column,
      column ∈ ((data.withGroups columns).summarized [(name, .size)] keys).header ->
        isReserved column = false := by
    intro column hcolumn
    rw [summarized, tableOf_header] at hcolumn
    rcases List.mem_append.1 hcolumn with hcolumn | hcolumn
    · exact hcolumns column hcolumn
    · rw [List.mem_singleton.1 hcolumn]
      exact hname
  have htable : (data.withGroups columns).summarized [(name, .size)] keys =
      flat (columns ++ [name]) (keys.map (data.countRow columns)) := by
    rw [summarized, tableOf, if_neg (by simp)]
    rfl
  rw [Invocation.summaryTable, dropped_of_none hnone, htable]
  apply Request.regroup_eq_ok
  exact fun key hkey => List.mem_append_left _ (hgroups key hkey)

theorem strictMono_place_int : StrictMono fun n : Nat => (Value.int (Int.ofNat n)).place := by
  intro m n hmn
  show (toLex (0, toLex (Int.ofNat m, "")) : Int ×ₗ Int ×ₗ String) < toLex (0, toLex (Int.ofNat n, ""))
  rw [Prod.Lex.toLex_lt_toLex, Prod.Lex.toLex_lt_toLex]
  exact .inr ⟨rfl, .inl (Int.ofNat_lt.2 hmn)⟩

section Table

variable (hlist : (data.withGroups columns).IsKeyList keys) (hname : name ∉ columns)

include hlist

theorem countTable_hasWidth : (data.countTable columns name keys).HasWidth := by
  intro row hrow
  rcases List.mem_map.1 hrow with ⟨key, hkey, rfl⟩
  have hlength : key.length = columns.length := hasKey_length ((hlist.mem_iff key).1 hkey)
  simp [countRow, countTable, hlength]

include hname

theorem cellAt_countRow {key : List Value} (hkey : key ∈ keys) :
    cellAt ((columns ++ [name]).idxOf name) (data.countRow columns key) =
      .int (Int.ofNat (data.tallyOf columns key)) := by
  have hlength : key.length = columns.length := hasKey_length ((hlist.mem_iff key).1 hkey)
  rw [List.idxOf_append_of_notMem hname, List.idxOf_cons_self, Nat.add_zero, ← hlength, countRow,
    cellAt, List.getElem?_concat_length]
  rfl

/-- The rows of the table are sorted from the largest number down, and those of one number stay
in the order of their keys. -/
theorem exists_sorted_counts :
    exists arranged, IsArrangement (fun key => OrderDual.toDual (data.tallyOf columns key)) keys
        arranged ∧
      sort [descending name] (data.countTable columns name keys).ungroup =
        .ok (data.countTable columns name arranged).ungroup := by
  have hcell : forall row, row ∈ keys.map (data.countRow columns) -> exists key, key ∈ keys ∧
      row = data.countRow columns key ∧ cellAt ((columns ++ [name]).idxOf name) row =
        .int (Int.ofNat (data.tallyOf columns key)) := by
    intro row hrow
    rcases List.mem_map.1 hrow with ⟨key, hkey, rfl⟩
    exact ⟨key, hkey, rfl, cellAt_countRow hlist hname hkey⟩
  have hsort : exists sorted, sortBy (columns ++ [name]) (descending name)
      (keys.map (data.countRow columns)) = .ok sorted ∧
        IsArrangement
          (fun row => OrderDual.toDual (cellAt ((columns ++ [name]).idxOf name) row).place)
          (keys.map (data.countRow columns)) sorted := by
    apply exists_sortBy_descending
    · exact List.mem_append_right _ (List.mem_singleton_self name)
    · exact countTable_hasWidth hlist
    · intro row hrow
      rcases hcell row hrow with ⟨key, _, _, hint⟩
      rw [hint]
      rfl
    · intro row hrow
      rcases hcell row hrow with ⟨key, _, _, hint⟩
      rw [hint]
      rfl
  rcases hsort with ⟨sorted, hsorted, harrangement⟩
  -- the keys are the rows without their last cells
  have hkeyOf : forall key, (data.countRow columns key).dropLast = key := fun key =>
    List.dropLast_concat
  have hplaces : forall row, row ∈ keys.map (data.countRow columns) ->
      OrderDual.toDual (cellAt ((columns ++ [name]).idxOf name) row).place =
        OrderDual.toDual (Value.int (Int.ofNat (data.tallyOf columns row.dropLast))).place := by
    intro row hrow
    rcases hcell row hrow with ⟨key, _, rfl, hint⟩
    rw [hint, hkeyOf]
  have hcounts : IsArrangement
      (fun row : List Value => OrderDual.toDual (data.tallyOf columns row.dropLast))
      (keys.map (data.countRow columns)) sorted :=
    IsArrangement.of_strictMono strictMono_place_int.dual (harrangement.congr hplaces)
  have hmapped : IsArrangement (fun key => OrderDual.toDual (data.tallyOf columns key))
      ((keys.map (data.countRow columns)).map List.dropLast) (sorted.map List.dropLast) :=
    hcounts.map List.dropLast
  have hkeys : (keys.map (data.countRow columns)).map List.dropLast = keys := by
    rw [List.map_map]
    exact List.map_id'' hkeyOf keys
  rw [hkeys] at hmapped
  refine ⟨_, hmapped, ?_⟩
  have hrows : (sorted.map List.dropLast).map (data.countRow columns) = sorted := by
    rw [List.map_map, List.map_congr_left, List.map_id']
    intro row hrow
    rcases hcell row ((harrangement.mem_iff row).1 hrow) with ⟨key, _, rfl, _⟩
    rw [Function.comp_apply, hkeyOf]
  rw [sort]
  show (sortRows _ _ _).map _ = _
  rw [sortRows, sortRows, ok_bind]
  show (sortBy (columns ++ [name]) _ (keys.map (data.countRow columns))).map _ = _
  rw [hsorted]
  show Except.ok (flat (columns ++ [name]) sorted) = Except.ok (flat (columns ++ [name])
    ((sorted.map List.dropLast).map (data.countRow columns)))
  rw [hrows]

end Table

end Dataset

/-!
# Counts
-/

namespace Invocation

variable {data : Dataset} {settings : Settings} {env : Environment} {values : List Value}
variable {columns : List String} {name : String} {keys : List (List Value)}

theorem groupSymbols_error (h : "" ∈ data.groups) :
    data.groupSymbols = .error (.fault Fault.badType) := by
  unfold groupSymbols
  generalize data.groups = keys at h
  induction keys with
  | nil => cases h
  | cons key rest ih =>
      rw [List.mapM_cons, Interpolation.symbol]
      split
      · rfl
      · rename_i hsome
        have hrest : "" ∈ rest := by
          rcases List.mem_cons.1 h with rfl | hrest
          · exact absurd rfl hsome
          · exact hrest
        rw [ih hrest]
        rfl

theorem groupSymbols_eq (h : "" ∉ data.groups) :
    data.groupSymbols = .ok (data.groups.map Value.sym) := by
  apply mapM_eq_ok
  intro key hkey
  have hsome : key.isEmpty = false := by
    rw [String.isEmpty_eq_false_iff]
    rintro rfl
    exact h hkey
  rw [Interpolation.symbol, hsome]
  rfl

/-- What is counted: a dataset, columns of simple cells that are selected, and a new name for the
numbers. -/
structure Counts (settings : Settings) (env : Environment) (values : List Value) (data : Dataset)
    (columns : List String) (name : String) : Prop where
  sound : data.IsSound
  selects : (Verb.groupBy.calling settings env values).Selects data columns
  simple : (data.withGroups (data.groups ++ columns)).KeysAre Value.isSimple
  quotable : Grammar.IsQuotable name
  unreserved : isReserved name = false
  new : name ∉ data.groups ++ columns

theorem mem_addedNames_iff_append {kept names : List String} (name : String) :
    name ∈ addedNames kept names <-> name ∈ kept ++ names := by
  rw [mem_addedNames_iff, List.mem_append]

namespace Counts

variable (h : Counts settings env values data columns name)

include h

theorem keyed : IsKeyed (data.withGroups (addedNames data.groups columns)) := by
  have hkeys := keysAre_withGroups h.simple mem_addedNames_iff_append
  exact ⟨withGroups_wellFormed h.sound.toWellFormed hkeys.present, hkeys,
    addedNames_nodup h.sound.distinct columns⟩

theorem grouped : (Verb.groupBy.invoke settings env (data.groups.map Value.sym ++ values)
    data).result = .ok (data.withGroups (addedNames data.groups columns)) := by
  have hnames : (Verb.groupBy.calling settings env (data.groups.map Value.sym)).Names .groupBy
      data.groups := groupingBy_names env settings.registry data.groups
  have hgroups : data.KeysAre Value.isDiscrete :=
    ⟨h.sound.keys, fun key hkey row hrow => Value.isDiscrete_of_isSimple
      (h.simple.cells key (List.mem_append_left _ hkey) row hrow)⟩
  rcases exists_dividesInto h.sound.width hgroups with ⟨groups, hdivides⟩
  have hrun := (h.selects.after_names hnames h.sound.keys).run_groupBy rfl h.sound.toWellFormed
    ⟨groups, hdivides.partitions⟩ settings
  have hkept : addedNames [] data.groups = [] ++ data.groups := addedNames_of_nodup h.sound.distinct
  rw [addedNames_append, hkept, List.nil_append] at hrun
  exact hrun

theorem count_result (hnamed : "" ∉ data.groups)
    (hlist : (data.withGroups (addedNames data.groups columns)).IsKeyList keys) (sorted : Bool) :
    (data.count settings env values sorted name).result =
      (sortedByCount settings env sorted name
        (data.countTable (addedNames data.groups columns) name keys)).result := by
  have hkeyed := h.keyed
  have hnew : name ∉ addedNames data.groups columns := fun hmem => h.new ((mem_addedNames_iff_append name).1 hmem)
  have hchoice : (if (data.withGroups (addedNames data.groups columns)).isGrouped
      then data.withGroups (addedNames data.groups columns) else data) =
        data.withGroups (addedNames data.groups columns) := by
    split
    · rfl
    · rename_i hflat
      have hempty : addedNames data.groups columns = [] := by
        simpa [isGrouped, withGroups] using hflat
      have hnone : data.groups = [] := by
        apply List.eq_nil_iff_forall_not_mem.2
        intro key hkey
        have hmem : key ∈ addedNames data.groups columns := mem_addedNames_iff.2 (Or.inl hkey)
        rw [hempty] at hmem
        cases hmem
      rw [hempty, withGroups, ← hnone]
  have hallows : (data.withGroups (addedNames data.groups columns)).Allows [(name, .size)] :=
    allows_single hnew fun column hcolumn => by cases hcolumn
  have hcounted := (countFragment_summarizes h.quotable settings env).run_eq hkeyed hlist hallows
    settings
  have hregrouped := @regroup_summaryTable data _ name keys
    (fun key hkey => mem_addedNames_iff.2 (Or.inl hkey))
    (fun column hcolumn => hkeyed.wellFormed.unreserved column (hkeyed.keys.present column hcolumn))
    h.unreserved
  rw [count]
  simp only [Report.next_result, Report.silent_result]
  rw [groupSymbols_eq hnamed, ok_bind, h.grouped, ok_bind, hchoice, Verb.invoke_result, hcounted,
    ok_bind, hregrouped, ok_bind]

theorem exists_sorted (hlist : (data.withGroups (addedNames data.groups columns)).IsKeyList keys) :
    exists arranged,
      IsArrangement
          (fun key => OrderDual.toDual (data.tallyOf (addedNames data.groups columns) key)) keys
          arranged ∧
        (sortedByCount settings env true name
          (data.countTable (addedNames data.groups columns) name keys)).result =
            .ok (data.countTable (addedNames data.groups columns) name arranged) := by
  have hnew : name ∉ addedNames data.groups columns :=
    fun hmem => h.new ((mem_addedNames_iff_append name).1 hmem)
  have hkeyed := h.keyed
  rcases exists_sorted_counts hlist hnew with ⟨arranged, harrangement, hsort⟩
  have hheader : forall column, column ∈ addedNames data.groups columns ++ [name] ->
      isReserved column = false := by
    intro column hcolumn
    rcases List.mem_append.1 hcolumn with hcolumn | hcolumn
    · exact hkeyed.wellFormed.unreserved column (hkeyed.keys.present column hcolumn)
    · rw [List.mem_singleton.1 hcolumn]
      exact h.unreserved
  have htable : (data.countTable (addedNames data.groups columns) name keys).WellFormed := by
    constructor
    · exact List.nodup_append.2 ⟨hkeyed.distinct, List.nodup_singleton name,
        fun column hcolumn other hother heq => hnew (List.mem_singleton.1 hother ▸ heq ▸ hcolumn)⟩
    · exact hheader
    · exact countTable_hasWidth hlist
    · exact fun key hkey => List.mem_append_left _ (mem_addedNames_iff.2 (Or.inl hkey))
  have hquiet : AreQuiet [largestFirstFragment name] := by
    intro fragment hfragment
    rw [List.mem_singleton.1 hfragment]
    exact ⟨rfl, rfl⟩
  refine ⟨arranged, harrangement, ?_⟩
  rw [sortedByCount, if_pos rfl, Verb.invoke_result]
  exact Invocation.run_arrange rfl htable (largestFirst_fragments h.quotable) hquiet
    (sortKeys_largestFirst _ _ _) hsort settings

end Counts

/-- Counting a dataset by the columns of a selection gives a table of its keys and these columns,
without repeats, and of the numbers under the new name, grouped by the keys as before.  There is a
row for each combination of cells, in ascending order, with the number of rows that have it, which is
positive, and these numbers add up to the number of all rows; where there is no column, they are the
only row.  Sorting puts these rows in descending order of their numbers and changes nothing else.
Where a key has no name, counting fails. -/
theorem count_counts (h : Counts settings env values data columns name) :
    ("" ∈ data.groups -> forall sorted,
      (data.count settings env values sorted name).result = .error (.fault Fault.badType)) ∧
    ("" ∉ data.groups ->
      exists keys, (data.withGroups (addedNames data.groups columns)).IsKeyList keys ∧
        (addedNames data.groups columns ≠ [] -> forall key, key ∈ keys ->
          0 < data.tallyOf (addedNames data.groups columns) key) ∧
        (addedNames data.groups columns = [] -> keys = [[]]) ∧
        (keys.map (data.tallyOf (addedNames data.groups columns))).sum = data.nrows ∧
        (data.count settings env values false name).result =
          .ok (data.countTable (addedNames data.groups columns) name keys) ∧
        exists arranged,
          IsArrangement
              (fun key => OrderDual.toDual (data.tallyOf (addedNames data.groups columns) key))
              keys arranged ∧
            (data.count settings env values true name).result =
              .ok (data.countTable (addedNames data.groups columns) name arranged)) := by
  constructor
  · intro hunnamed sorted
    rw [count]
    simp only [Report.next_result, Report.silent_result]
    rw [groupSymbols_error hunnamed]
    rfl
  · intro hnamed
    have hkeyed := h.keyed
    rcases exists_isKeyList hkeyed.wellFormed.width hkeyed.keys with ⟨keys, hlist⟩
    rcases h.exists_sorted hlist with ⟨arranged, harrangement, hsorted⟩
    refine ⟨keys, hlist, fun hsome key => tallyOf_pos hlist hsome, ?_, sum_tallies hlist, ?_,
      arranged, harrangement, ?_⟩
    · intro hnone
      rw [hnone] at hlist
      exact keys_of_flat hlist
    · exact h.count_result hnamed hlist false
    · rw [h.count_result hnamed hlist true, hsorted]

theorem pairs_counts :
    Counts Settings.initial Environment.empty [.sym "x"] pairs ["x"] "how many" where
  sound := pairs_isSound
  selects :=
    Names.selects (groupingBy_names Environment.empty Registry.standard ["x"]) (by decide)
  simple := ⟨by decide, by decide⟩
  quotable := ⟨by decide, by decide⟩
  unreserved := by decide
  new := by decide

theorem count_counts_pairs :
    exists keys,
      (pairs.count Settings.initial Environment.empty [.sym "x"] false "how many").result =
          .ok (pairs.countTable ["k", "x"] "how many" keys) ∧
        (forall key, key ∈ keys -> 0 < pairs.tallyOf ["k", "x"] key) ∧
        (keys.map (pairs.tallyOf ["k", "x"])).sum = 2 := by
  rcases (count_counts pairs_counts).2 (by decide) with
    ⟨keys, _, hpositive, _, hsum, hresult, _⟩
  exact ⟨keys, hresult, hpositive (by decide), hsum⟩

end Invocation
end Wrangle
