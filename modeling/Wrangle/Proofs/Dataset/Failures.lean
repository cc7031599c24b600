import Wrangle.Dataset.Arrangement
import Wrangle.Dataset.Computation
import Wrangle.Proofs.Dataset.Grouping
import Wrangle.Proofs.Expr.Evaluation
import Wrangle.Proofs.Verb.Scoping

/-!
# Failures of computations

On a dataset that can be divided into groups and has the columns that are read,
computations fail with errors for the user only, unless a call to the outside ends the
program.  Sorting is the exception: where an undefined number meets a decimal, the fault
of their comparison gets out.
-/

namespace Wrangle

/-!
# Calls to the outside
-/

/-- Some of the expressions call a function from outside. -/
def Assign.AnyCallsOut (assigns : List Assign) : Prop :=
  exists a, a ∈ assigns ∧ a.expr.callsOut = true

def SelectionItem.callsOut : SelectionItem -> Bool
  | computed assign => assign.expr.callsOut
  | picked _ => false

def SelectionItem.AnyCallsOut (items : List SelectionItem) : Prop :=
  exists item, item ∈ items ∧ item.callsOut = true

namespace Dataset

open Compile

variable {exits : Prop}

/-!
# Setting columns
-/

/-- A dataset that can be divided into groups and has some columns. -/
structure Ready (names : List String) (data : Dataset) : Prop where
  names : forall name, name ∈ names -> name ∈ data.header
  width : data.HasWidth
  keys : data.KeysAre Value.isPlain

theorem Ready.setColumn {names : List String} {data : Dataset} (h : data.Ready names)
    {name : String} (hname : name ∉ data.groups) (values : List Value) :
    (data.setColumn name values).Ready (names ++ [name]) where
  names := by
    intro other hother
    rw [setColumn_header, mem_headerWith_iff]
    rcases List.mem_append.1 hother with hother | hother
    · exact Or.inl (h.names other hother)
    · exact Or.inr (List.mem_singleton.1 hother)
  width := setColumn_hasWidth h.width name values
  keys := h.keys.setColumn h.width hname values

theorem Ready.mono {names more : List String} {data : Dataset} (h : data.Ready more)
    (hnames : forall name, name ∈ names -> name ∈ more) : data.Ready names :=
  ⟨fun name hname => h.names name (hnames name hname), h.width, h.keys⟩

/-!
# Values of groups
-/

theorem spread_harmless (name : String) (size : Nat) (value : Value) :
    Ends (Failure.IsHarmless exits) (fun _ => True) (spread name size value) := by
  unfold spread
  split
  · split <;> trivial
  · trivial

theorem frame_names (columns : List (String × List Value)) (rows : List Nat) :
    (frame columns rows).columns.map Prod.fst = columns.map Prod.fst := by
  simp [frame, restricted, Function.comp_def]

theorem groupValues_harmless (callers : CallerFunctions) {columns : List (String × List Value)}
    {assign : Assign} (h : assign.expr.Within (columns.map Prod.fst))
    (hexits : assign.expr.callsOut = true -> exits) (rows : List Nat) :
    Ends (Failure.IsHarmless exits) (fun _ => True) (groupValues callers columns assign rows) := by
  apply inFragment_harmless
  apply Ends.bind (Expr.evaluate_harmless callers (frame columns rows) assign.expr (by
    rw [frame_names]
    exact h) hexits)
  intro value _
  exact spread_harmless assign.name rows.length value

theorem placedValues_harmless (callers : CallerFunctions) {columns : List (String × List Value)}
    {assign : Assign} (h : assign.expr.Within (columns.map Prod.fst))
    (hexits : assign.expr.callsOut = true -> exits) (groups : List Partition) :
    Ends (Failure.IsHarmless exits) (fun _ => True)
      (placedValues callers columns assign groups) := by
  induction groups with
  | nil => trivial
  | cons group rest ih =>
      rw [placedValues]
      apply Ends.bind (groupValues_harmless callers h hexits group.rows)
      intro values _
      apply Ends.bind ih
      intro others _
      trivial

theorem within_columns {names : List String} {data : Dataset} (h : data.Ready names) {e : Expr}
    (he : e.Within names) : e.Within (data.columns.map Prod.fst) :=
  he.mono fun name hname => mem_columns_iff.2 (h.names name hname)

theorem computed_harmless (callers : CallerFunctions) {names : List String} {data : Dataset}
    (h : data.Ready names) {assign : Assign} (he : assign.expr.Within names)
    (hexits : assign.expr.callsOut = true -> exits) :
    Ends (Failure.IsHarmless exits) (fun _ => True) (data.computed callers assign) := by
  rcases exists_partitions h.width h.keys with ⟨groups, hgroups⟩
  unfold computed
  rw [hgroups]
  apply Ends.bind (placedValues_harmless callers (within_columns h he) hexits groups)
  intro placed _
  trivial

theorem transform_harmless (callers : CallerFunctions) {assigns : List Assign}
    {names : List String} {data : Dataset} (h : data.Ready names) (hseen : Seen names assigns)
    (hkeys : forall a, a ∈ assigns -> a.name ∉ data.groups)
    (hexits : Assign.AnyCallsOut assigns -> exits) :
    Ends (Failure.IsHarmless exits)
      (fun result => result.Ready (names ++ assigns.map Assign.name) ∧
        result.groups = data.groups)
      (transform callers assigns data) := by
  induction assigns generalizing names data with
  | nil =>
      refine ⟨?_, rfl⟩
      simpa using h
  | cons assign rest ih =>
      rw [transform]
      apply Ends.bind (computed_harmless callers h hseen.1 fun hout =>
        hexits ⟨assign, List.mem_cons_self, hout⟩)
      intro values _
      have hready := h.setColumn (hkeys assign (List.mem_cons_self ..)) values
      apply (ih hready hseen.2 ?_ ?_).weaken
      · rintro result ⟨hresult, hgroups⟩
        refine ⟨?_, ?_⟩
        · simpa using hresult
        · rw [hgroups, setColumn_groups]
      · intro a ha
        rw [setColumn_groups]
        exact hkeys a (List.mem_cons_of_mem _ ha)
      · rintro ⟨a, ha, hout⟩
        exact hexits ⟨a, List.mem_cons_of_mem _ ha, hout⟩

/-!
# Summaries
-/

theorem summaryValue_harmless (name : String) (value : Value) :
    Ends (Failure.IsHarmless exits) (fun _ => True) (summaryValue name value) := by
  unfold summaryValue
  split <;> trivial

theorem mem_putEntry_names {entries : List (String × alpha)} {entry : String × alpha}
    {name : String} (h : name ∈ entries.map Prod.fst ∨ name = entry.1) :
    name ∈ (putEntry entries entry).map Prod.fst := by
  unfold putEntry
  split
  · rename_i hany
    rw [List.map_map]
    have hnames : (Prod.fst ∘ fun old : String × alpha => if old.1 == entry.1 then entry else old) =
        Prod.fst := by
      funext old
      by_cases hold : old.1 = entry.1
      · simp [hold]
      · simp [hold]
    rw [hnames]
    rcases h with h | rfl
    · exact h
    · rcases List.any_eq_true.1 hany with ⟨old, hold, heq⟩
      rw [← beq_iff_eq.1 heq]
      exact List.mem_map_of_mem hold
  · rw [List.map_append, List.mem_append]
    rcases h with h | rfl
    · exact Or.inl h
    · exact Or.inr (List.mem_singleton.2 rfl)

theorem summaries_harmless (callers : CallerFunctions) (nrows : Nat) {assigns : List Assign}
    {columns : List (String × List Value)} (hseen : Seen (columns.map Prod.fst) assigns)
    (hexits : Assign.AnyCallsOut assigns -> exits) :
    Ends (Failure.IsHarmless exits) (fun _ => True) (summaries callers nrows columns assigns) := by
  induction assigns generalizing columns with
  | nil => trivial
  | cons assign rest ih =>
      rw [summaries]
      apply Ends.bind_any
      · apply inFragment_harmless
        apply Ends.bind (Expr.evaluate_harmless callers _ assign.expr hseen.1 fun hout =>
          hexits ⟨assign, List.mem_cons_self, hout⟩)
        intro result _
        exact summaryValue_harmless assign.name result
      · intro value
        apply Ends.bind (ih (hseen.2.mono ?_) ?_)
        · intro others _
          trivial
        · intro name hname
          apply mem_putEntry_names
          rcases List.mem_append.1 hname with hname | hname
          · exact Or.inl hname
          · exact Or.inr (List.mem_singleton.1 hname)
        · rintro ⟨a, ha, hout⟩
          exact hexits ⟨a, List.mem_cons_of_mem _ ha, hout⟩

theorem ofColumns_harmless (columns : List (String × List Value)) :
    Ends (Failure.IsHarmless exits) (fun _ => True) (ofColumns columns) := by
  unfold ofColumns
  dsimp only
  split <;> trivial

/-- A dataset that is divided into groups is summarized with user errors only. -/
theorem summarize_harmless_of_partitions (callers : CallerFunctions) {names : List String}
    {data : Dataset} {groups : List Partition} (hgroups : data.partitions = .ok groups)
    (hnames : forall name, name ∈ names -> name ∈ data.header) {assigns : List Assign}
    (hseen : Seen names assigns) (hexits : Assign.AnyCallsOut assigns -> exits) :
    Ends (Failure.IsHarmless exits) (fun _ => True) (summarize callers assigns data) := by
  unfold summarize
  simp only [hgroups, Outcome.ofFault, ok_bind]
  apply Ends.bind_any
  · apply Ends.mapM_any
    intro group _
    unfold groupRow
    apply Ends.bind (summaries_harmless callers group.size (hseen.mono ?_) hexits)
    · intro found _
      trivial
    · intro name hname
      simp only [restricted, List.map_map, Function.comp_def]
      exact mem_columns_iff.2 (hnames name hname)
  · intro rows
    exact ofColumns_harmless _

theorem summarize_harmless (callers : CallerFunctions) {names : List String} {data : Dataset}
    (h : data.Ready names) {assigns : List Assign} (hseen : Seen names assigns)
    (hexits : Assign.AnyCallsOut assigns -> exits) :
    Ends (Failure.IsHarmless exits) (fun _ => True) (summarize callers assigns data) := by
  rcases exists_partitions h.width h.keys with ⟨groups, hgroups⟩
  exact summarize_harmless_of_partitions callers hgroups h.names hseen hexits

/-!
# Conditions
-/

theorem truthFlags_harmless (condition : Assign) (values : List Value) :
    Ends (Failure.IsHarmless exits) (fun _ => True) (truthFlags condition values) := by
  induction values with
  | nil => trivial
  | cons value rest ih =>
      rw [truthFlags]
      split
      · exact Ends.map ih fun _ _ => trivial
      · trivial

theorem passingRows_harmless (callers : CallerFunctions) {columns : List (String × List Value)}
    (rows : List Nat) {conditions : List Assign}
    (h : AllWithin (columns.map Prod.fst) conditions)
    (hexits : Assign.AnyCallsOut conditions -> exits) :
    Ends (Failure.IsHarmless exits) (fun _ => True)
      (passingRows callers columns rows conditions) := by
  induction conditions with
  | nil => trivial
  | cons condition rest ih =>
      rw [passingRows]
      apply Ends.bind (groupValues_harmless callers (h condition (List.mem_cons_self ..))
        (fun hout => hexits ⟨condition, List.mem_cons_self, hout⟩) rows)
      intro values _
      apply Ends.bind (truthFlags_harmless condition values)
      intro flags _
      apply Ends.bind (ih (fun a ha => h a (List.mem_cons_of_mem _ ha))
        fun ⟨a, ha, hout⟩ => hexits ⟨a, List.mem_cons_of_mem _ ha, hout⟩)
      intro others _
      trivial

theorem subset_harmless (callers : CallerFunctions) {names : List String} {data : Dataset}
    (h : data.Ready names) {conditions : List Assign} (hwithin : AllWithin names conditions)
    (hexits : Assign.AnyCallsOut conditions -> exits) :
    Ends (Failure.IsHarmless exits) (fun _ => True) (subset callers conditions data) := by
  rcases exists_partitions h.width h.keys with ⟨groups, hgroups⟩
  unfold subset
  simp only [hgroups, Outcome.ofFault, ok_bind]
  apply Ends.bind_any
  · apply Ends.mapM_any
    intro group _
    exact passingRows_harmless callers group.rows
      (fun a ha => within_columns h (hwithin a ha)) hexits
  · intro kept
    trivial

/-!
# Selections
-/

theorem groupBy_harmless (data : Dataset) (keys : List String) :
    Ends (Failure.IsHarmless exits) (fun _ => True) (data.groupBy keys) := by
  unfold groupBy
  split
  · trivial
  · split <;> trivial

theorem regroup_harmless (data : Dataset) (keys : List String) :
    Ends (Failure.IsHarmless exits) (fun _ => True) (data.regroup keys) := by
  unfold regroup
  split
  · trivial
  · exact groupBy_harmless data keys

theorem checked_harmless (data : Dataset) :
    Ends (Failure.IsHarmless exits) (fun _ => True) data.checked :=
  regroup_harmless data data.groups

theorem itemWithin_of_picks? {names : List String} {items : List SelectionItem}
    {picks : List Pick} (h : picks? items = some picks) (hitems : ItemsWithin names items)
    {pick : Pick} (hpick : pick ∈ picks) : pick.source ∈ names := by
  induction items generalizing picks with
  | nil =>
      rw [← Option.some.inj h] at hpick
      cases hpick
  | cons item rest ih =>
      cases item with
      | computed assign => cases h
      | picked first =>
          rw [picks?, Option.map_eq_some_iff] at h
          rcases h with ⟨others, hothers, rfl⟩
          rcases List.mem_cons.1 hpick with rfl | hpick
          · exact hitems _ (List.mem_cons_self ..)
          · exact ih hothers (fun item hitem => hitems item (List.mem_cons_of_mem _ hitem)) hpick

theorem project_harmless {data : Dataset} {picks : List Pick}
    (h : forall pick, pick ∈ picks -> pick.source ∈ data.header) :
    Ends (Failure.IsHarmless exits) (fun _ => True) (data.project picks) := by
  unfold project
  have hall : (picks.all fun pick => data.header.contains pick.source) = true := by
    rw [List.all_eq_true]
    intro pick hpick
    simpa using h pick hpick
  rw [if_pos hall]
  exact checked_harmless _

theorem itemValues_harmless (callers : CallerFunctions) {names : List String} {data : Dataset}
    (h : data.Ready names) {item : SelectionItem} (hitem : ItemWithin names item)
    (hexits : item.callsOut = true -> exits) :
    Ends (Failure.IsHarmless exits) (fun _ => True) (itemValues callers data item) := by
  cases item with
  | computed assign => exact computed_harmless callers h hitem hexits
  | picked pick =>
      rw [itemValues]
      split
      · trivial
      · rename_i hnone
        have hmem := mem_columns_iff.2 (h.names _ hitem)
        rcases List.mem_map.1 hmem with ⟨column, hcolumn, hname⟩
        rw [List.lookup_eq_none_iff] at hnone
        have hne := hnone column hcolumn
        rw [hname] at hne
        simp at hne

theorem outputColumns_harmless (callers : CallerFunctions) {names : List String} {data : Dataset}
    (h : data.Ready names) {items : List SelectionItem} {columns : List (String × List Value)}
    (hitems : ItemsWithin names items) (hexits : SelectionItem.AnyCallsOut items -> exits) :
    Ends (Failure.IsHarmless exits) (fun _ => True) (outputColumns callers data columns items) := by
  induction items generalizing columns with
  | nil => trivial
  | cons item rest ih =>
      rw [outputColumns]
      apply Ends.bind (itemValues_harmless callers h (hitems item (List.mem_cons_self ..))
        fun hout => hexits ⟨item, List.mem_cons_self, hout⟩)
      intro values _
      exact ih (fun other hother => hitems other (List.mem_cons_of_mem _ hother))
        fun ⟨other, hother, hout⟩ => hexits ⟨other, List.mem_cons_of_mem _ hother, hout⟩

theorem completed_within {data : Dataset} (h : data.Ready data.header)
    {items : List SelectionItem} (hitems : ItemsWithin data.header items) :
    ItemsWithin data.header (data.completed items) := by
  intro item hitem
  rcases List.mem_append.1 hitem with hitem | hitem
  · rcases List.mem_map.1 hitem with ⟨key, hkey, rfl⟩
    exact h.keys.present key (List.mem_filter.1 hkey).1
  · exact hitems item hitem

theorem completed_callsOut {data : Dataset} {items : List SelectionItem}
    (h : SelectionItem.AnyCallsOut (data.completed items)) : SelectionItem.AnyCallsOut items := by
  rcases h with ⟨item, hitem, hout⟩
  rcases List.mem_append.1 hitem with hitem | hitem
  · rcases List.mem_map.1 hitem with ⟨key, _, rfl⟩
    cases hout
  · exact ⟨item, hitem, hout⟩

theorem select_harmless (callers : CallerFunctions) {data : Dataset}
    (h : data.Ready data.header) {items : List SelectionItem}
    (hitems : ItemsWithin data.header items) (hexits : SelectionItem.AnyCallsOut items -> exits) :
    Ends (Failure.IsHarmless exits) (fun _ => True) (select callers items data) := by
  have hall := completed_within h hitems
  have hgeneral : Ends (Failure.IsHarmless exits) (fun _ => True)
      (select.general callers data (data.completed items)) := by
    unfold select.general
    apply Ends.bind (outputColumns_harmless callers h hall fun hout =>
      hexits (completed_callsOut hout))
    intro columns _
    apply Ends.bind (ofColumns_harmless columns)
    intro result _
    exact checked_harmless _
  unfold select
  dsimp only
  split
  · trivial
  · split
    · rename_i picks hpicks
      split
      · exact project_harmless fun _ hpick => itemWithin_of_picks? hpicks hall hpick
      · exact hgeneral
    · exact hgeneral

/-!
# Sorting
-/

def SortFailure (met : Prop) : Failure -> Prop
  | .user _ => True
  | .fault f => f = Fault.invalidDecimal ∧ met

theorem holds_of_holds_rank {test : Value -> Bool} (hint : forall n, test (.int n) = false)
    (hstr : forall s, test (.str s) = false) {a : Value} (h : a.rank.holds test = true) :
    a.holds test = true := by
  have hrank : a.rank = .tuple [.int 2, .str "", .int 0] ∨
      exists (n : Int) (s : String), a.rank = .tuple [.int n, .str s, a] := by
    cases a with
    | missing => exact Or.inl rfl
    | _ => exact Or.inr ⟨_, _, rfl⟩
  rcases hrank with hrank | ⟨n, s, hrank⟩
  · rw [hrank] at h
    simp [Value.holds, Value.anyHolds, hint, hstr] at h
  · rw [hrank] at h
    simpa [Value.holds, Value.anyHolds, hint, hstr] using h

theorem meetUndefined_of_rank {a b : Value} (h : Value.MeetUndefined a.rank b.rank) :
    Value.MeetUndefined a b := by
  have hundefined : forall v : Value, v.rank.holds Value.isUndefinedNumber = true ->
      v.holds Value.isUndefinedNumber = true :=
    fun _ hv => holds_of_holds_rank (fun _ => rfl) (fun _ => rfl) hv
  have hdecimal : forall v : Value, v.rank.holds Value.isDecimal = true ->
      v.holds Value.isDecimal = true :=
    fun _ hv => holds_of_holds_rank (fun _ => rfl) (fun _ => rfl) hv
  exact ⟨h.1.imp (hundefined a) (hundefined b), h.2.imp (hdecimal a) (hdecimal b)⟩

def ColumnUndefined (data : Dataset) (column : String) : Prop :=
  exists a, a ∈ data.firstColumn column ∧
    exists b, b ∈ data.firstColumn column ∧ Value.MeetUndefined a b

def IsKeyed (data : Dataset) (column : String) (entry : Value × List Value) : Prop :=
  entry.1 ∈ data.firstColumn column ∧ entry.2 ∈ data.rows

theorem compares_keyRank (data : Dataset) (column : String) :
    Compares (Value.ComparisonFault (data.ColumnUndefined column)) (data.IsKeyed column)
      (fun a b => Value.lessThan (keyRank a) (keyRank b)) := by
  intro a b ha hb
  apply (Value.compareWith_ends .less a.1.rank b.1.rank).imp
  · intro f hf
    exact hf.mono fun hmeet => ⟨a.1, ha.1, b.1, hb.1, meetUndefined_of_rank hmeet⟩
  · intro _ _
    trivial

theorem sortKeyed_ends {data : Dataset} {column : String} (reverse : Bool)
    {entries : List (Value × List Value)} (h : Kept (data.IsKeyed column) entries) :
    Ends (Value.ComparisonFault (data.ColumnUndefined column)) (Kept (data.IsKeyed column))
      (sortKeyed reverse entries) := by
  unfold sortKeyed
  split
  · apply Ends.map (Value.sortOn_ends (compares_keyRank data column) (Kept.reverse_iff.2 h))
    intro sorted hsorted
    exact Kept.reverse_iff.2 hsorted
  · exact Value.sortOn_ends (compares_keyRank data column) h

theorem sortBy_ends {data : Dataset} (hwidth : data.HasWidth) {key : SortKey}
    (hkey : key.column ∈ data.header) {rows : List (List Value)}
    (hrows : forall row, row ∈ rows -> row ∈ data.rows) :
    Ends (SortFailure (data.ColumnUndefined key.column))
      (fun sorted => forall row, row ∈ sorted -> row ∈ data.rows)
      (sortBy data.header key rows) := by
  have hkeyed : rows.mapM (keyedRow (data.header.idxOf key.column)) =
      .ok (rows.map fun row => (cellAt (data.header.idxOf key.column) row, row)) := by
    apply mapM_eq_ok
    intro row hrow
    have hlt : data.header.idxOf key.column < row.length := by
      rw [hwidth row (hrows row hrow)]
      exact List.idxOf_lt_length_of_mem hkey
    rw [keyedRow, cellAt_eq hlt]
  have hentries : Kept (data.IsKeyed key.column)
      (rows.map fun row => (cellAt (data.header.idxOf key.column) row, row)) := by
    intro entry hentry
    rcases List.mem_map.1 hentry with ⟨row, hrow, rfl⟩
    exact ⟨List.mem_map_of_mem (hrows row hrow), hrows row hrow⟩
  have hpart : forall test : Value × List Value -> Bool, Kept (data.IsKeyed key.column)
      ((rows.map fun row => (cellAt (data.header.idxOf key.column) row, row)).filter test) :=
    fun _ entry hentry => hentries entry (List.mem_filter.1 hentry).1
  unfold sortBy
  rw [if_pos (by simpa using hkey), hkeyed]
  simp only [Outcome.ofFault, ok_bind]
  have hsorted := sortKeyed_ends key.reverse (hpart fun entry => !entry.1.isMissing)
  split
  · rename_i sorted hok
    rw [hok] at hsorted
    intro row hrow
    rcases List.mem_map.1 hrow with ⟨entry, hentry, rfl⟩
    rcases List.mem_append.1 hentry with hentry | hentry
    · exact (hsorted entry hentry).2
    · exact (hpart _ entry hentry).2
  · trivial
  · rename_i f hne hf
    rw [hf] at hsorted
    rcases hsorted with rfl | ⟨rfl, hmet⟩
    · exact absurd rfl hne
    · exact ⟨rfl, hmet⟩

theorem sortRows_ends {data : Dataset} (hwidth : data.HasWidth) {keys : List SortKey}
    (hkeys : forall key, key ∈ keys -> key.column ∈ data.header) :
    Ends (SortFailure (exists key, key ∈ keys ∧ data.ColumnUndefined key.column))
      (fun sorted => forall row, row ∈ sorted -> row ∈ data.rows)
      (sortRows data.header data.rows keys) := by
  induction keys with
  | nil => exact fun _ hrow => hrow
  | cons key rest ih =>
      have hmono : forall {met more : Prop} {e : Failure}, (met -> more) -> SortFailure met e ->
          SortFailure more e := by
        intro met more e hmore he
        cases e with
        | user e => trivial
        | fault f => exact ⟨he.1, hmore he.2⟩
      rw [sortRows]
      apply Ends.bind ((ih fun other hother => hkeys other (List.mem_cons_of_mem _ hother)).imp
          (fun _ => hmono fun ⟨other, hother, hmet⟩ =>
            ⟨other, List.mem_cons_of_mem _ hother, hmet⟩)
          (fun _ hsorted => hsorted))
      intro sorted hsorted
      exact (sortBy_ends hwidth (hkeys key (List.mem_cons_self ..)) hsorted).imp
        (fun _ => hmono fun hmet => ⟨key, List.mem_cons_self .., hmet⟩)
        (fun _ hsorted => hsorted)

/-- Sorting fails with a fault only where an undefined number meets a decimal. -/
theorem sort_ends (keys : List SortKey) {data : Dataset} (hwidth : data.HasWidth)
    (hkeys : forall key, key ∈ keys -> key.column ∈ data.header) :
    Ends (SortFailure (exists key, key ∈ keys ∧ data.ColumnUndefined key.column))
      (fun _ => True) (sort keys data) :=
  Ends.map (sortRows_ends hwidth hkeys) fun _ _ => trivial

end Dataset
end Wrangle
