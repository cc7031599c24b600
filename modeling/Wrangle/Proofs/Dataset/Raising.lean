import Wrangle.Proofs.Compile.Raising
import Wrangle.Proofs.Expr.Evaluation
import Wrangle.Proofs.Positions
import Wrangle.Proofs.Verb.Multiplicity

/-!
# User errors of operations

Where an operation evaluates an assignment, its user errors show the fragment that
the assignment comes from.  Other user errors of operations name no fragment: those
about positions, about columns that cannot be ordered, about keys that are gone, and
about columns of different lengths.
-/

namespace Wrangle

/-!
# Positions
-/

namespace Positions

theorem unplaced_shown (node : Node) : LeavesUnplaced (shown node) :=
  (raisesOnly_ofFault _).map_any fun _ => trivial

theorem unplaced_checkLiteral (value : Value) : LeavesUnplaced (checkLiteral value) := by
  unfold checkLiteral
  apply (unplaced_shown _).bind_any
  intro text
  split
  · trivial
  · split
    · trivial
    · exact rfl
  · exact rfl

theorem unplaced_refuse (node : Node) : LeavesUnplaced (refuse node) :=
  (unplaced_shown node).bind_any fun _ => rfl

mutual

theorem unplaced_check : forall node : Node, LeavesUnplaced (check node)
  | .literal value => by
      rw [check]
      exact unplaced_checkLiteral value
  | .range start stop => by
      rw [check]
      apply (unplaced_check start).bind_any
      intro checked
      exact unplaced_check stop
  | .vector items => by
      rw [check]
      exact unplaced_checkAll items
  | .tuple items => by
      rw [check]
      exact unplaced_checkAll items
  | .call head args kwargs isOperator => by
      rw [check]
      split
      · trivial
      · split
        · exact unplaced_checkAll args
        · exact unplaced_refuse _
  | .identifier _ => unplaced_refuse _
  | .assignment _ _ => unplaced_refuse _
  | .pair _ _ => unplaced_refuse _
  | .interpolate _ => unplaced_refuse _
  | .splice _ => unplaced_refuse _
  | .foreign _ => unplaced_refuse _

theorem unplaced_checkAll : forall nodes : List Node, LeavesUnplaced (checkAll nodes)
  | [] => by
      rw [checkAll]
      trivial
  | node :: rest => by
      rw [checkAll]
      apply (unplaced_check node).bind_any
      intro checked
      exact unplaced_checkAll rest

end

theorem unplaced_scalar (nrows : Nat) (node : Node) : LeavesUnplaced (scalar nrows node) := by
  have hnot (other : Node) : LeavesUnplaced (notSingle other) :=
    (unplaced_shown other).bind_any fun _ => rfl
  fun_induction scalar nrows node with
  | case1 value => trivial
  | case2 head kwargs isOperator hcount => trivial
  | case3 head kwargs hcount => trivial
  | case4 head kwargs isOperator hcount hoperator => exact hnot _
  | case5 head operand kwargs ih =>
      apply ih.bind_any
      intro a
      exact raisesOnly_ofFault _
  | case6 head operand kwargs isOperator hoperator => exact hnot _
  | case7 head left right rest kwargs ihleft ihright =>
      apply ihleft.bind_any
      intro a
      apply ihright.bind_any
      intro b
      exact raisesOnly_ofFault _
  | case8 head left right rest kwargs isOperator hoperator => exact hnot _
  | case9 node => exact hnot _

theorem unplaced_position (nrows : Nat) (node : Node) : LeavesUnplaced (position nrows node) := by
  apply (unplaced_scalar nrows node).bind_any
  intro value
  unfold integral
  split
  · trivial
  · split
    · trivial
    · exact (unplaced_shown node).bind_any fun _ => rfl
  · trivial
  · trivial

theorem unplaced_single (nrows : Nat) (node : Node) :
    LeavesUnplaced ((position nrows node).map fun mark => [mark]) :=
  (unplaced_position nrows node).map_any fun _ => trivial

mutual

theorem unplaced_nodeValues (nrows : Nat) :
    forall node : Node, LeavesUnplaced (nodeValues nrows node)
  | .range start stop => by
      rw [nodeValues]
      apply (unplaced_position nrows start).bind_any
      intro first
      apply (unplaced_position nrows stop).bind_any
      intro last
      exact (raisesOnly_ofFault _).bind_any fun _ => trivial
  | .vector items => by
      rw [nodeValues]
      exact unplaced_nodesValues nrows items
  | .tuple items => by
      rw [nodeValues]
      exact unplaced_nodesValues nrows items
  | .literal value => unplaced_single nrows (.literal value)
  | .call head args kwargs isOperator => unplaced_single nrows (.call head args kwargs isOperator)
  | .identifier name => unplaced_single nrows (.identifier name)
  | .assignment target value => unplaced_single nrows (.assignment target value)
  | .pair left right => unplaced_single nrows (.pair left right)
  | .interpolate inner => unplaced_single nrows (.interpolate inner)
  | .splice items => unplaced_single nrows (.splice items)
  | .foreign value => unplaced_single nrows (.foreign value)

theorem unplaced_nodesValues (nrows : Nat) :
    forall nodes : List Node, LeavesUnplaced (nodesValues nrows nodes)
  | [] => by
      rw [nodesValues]
      trivial
  | node :: rest => by
      rw [nodesValues]
      apply (unplaced_nodeValues nrows node).bind_any
      intro first
      exact (unplaced_nodesValues nrows rest).bind_any fun _ => trivial

end

theorem unplaced_evaluate (nrows : Nat) (nodes : List Node) :
    LeavesUnplaced (evaluate nrows nodes) := by
  apply (Ends.mapM_any ?_).map_any fun _ => trivial
  intro node _
  unfold guarded
  split
  · exact (unplaced_shown node).bind_any fun _ => rfl
  · exact unplaced_nodeValues nrows node

theorem unplaced_checkSigns (nodes : List Node) (marks : List Mark) :
    LeavesUnplaced (checkSigns nodes marks) := by
  apply (raisesOnly_ofFault _).bind_any
  intro mixed
  split
  · exact rfl
  · trivial

theorem unplaced_ofNodes (nodes : List Node) : LeavesUnplaced (ofNodes nodes) := by
  unfold ofNodes
  split
  · exact rfl
  · apply (unplaced_checkAll nodes).bind_any
    intro checked
    apply (unplaced_evaluate 0 _).bind_any
    intro known
    exact (unplaced_checkSigns nodes known).bind_any fun _ => trivial

theorem unplaced_values (positions : Positions) (nrows : Nat) :
    LeavesUnplaced (positions.values nrows) := by
  apply (unplaced_evaluate nrows positions.nodes).bind_any
  intro result
  exact (unplaced_checkSigns positions.nodes result).bind_any fun _ => trivial

end Positions
namespace Dataset

variable {callers : CallerFunctions} {data : Dataset}

/-!
# Assignments
-/

/-- A dataset with the groups of another one that has all of its columns; those that are added
have names of their own. -/
structure Widens (data result : Dataset) : Prop where
  groups : result.groups = data.groups
  header : forall name, name ∈ data.header -> name ∈ result.header
  nodup : data.header.Nodup -> result.header.Nodup

theorem Widens.refl (data : Dataset) : data.Widens data :=
  ⟨rfl, fun _ hname => hname, id⟩

theorem Widens.trans {next result : Dataset} (h : data.Widens next) (hnext : next.Widens result) :
    data.Widens result where
  groups := hnext.groups.trans h.groups
  header := fun name hname => hnext.header name (h.header name hname)
  nodup := fun hnodup => hnext.nodup (h.nodup hnodup)

theorem widens_setColumn (data : Dataset) (name : String) (values : List Value) :
    data.Widens (data.setColumn name values) where
  groups := setColumn_groups ..
  header := fun other hother => by
    rw [setColumn_header]
    exact mem_headerWith_iff.2 (Or.inl hother)
  nodup := fun hnodup => by
    rw [setColumn_header]
    exact headerWith_nodup hnodup name

theorem widens_rows (data : Dataset) (rows : List (List Value)) :
    data.Widens { data with rows := rows } :=
  ⟨rfl, fun _ hname => hname, id⟩

def AreSourced (assigns : List Assign) : Prop :=
  forall assign, assign ∈ assigns -> assign.fragment ≠ ""

theorem attributed_inFragment {other : UserError -> Prop} {good : alpha -> Prop} {assign : Assign}
    (hassign : assign.fragment ≠ "") {outcome : Outcome alpha}
    (h : Ends (Failure.IsFaultOr fun e => e.IsUnplaced ∨ callers.Raise e) good outcome) :
    RaisesAttributed callers other good (Outcome.inFragment assign.fragment outcome) := by
  apply (inFragment_attributed hassign h).imp
  · exact fun _ hfailure => hfailure.imp fun _ he => he.imp id Or.inl
  · exact fun _ hgood => hgood

theorem attributed_groupValues {other : UserError -> Prop} {assign : Assign}
    (hassign : assign.fragment ≠ "") (columns : List (String × List Value)) (rows : List Nat) :
    RaisesAttributed callers other (fun _ => True) (groupValues callers columns assign rows) := by
  apply attributed_inFragment hassign
  apply (Expr.evaluate_raises (frame columns rows) assign.expr).bind_any
  intro value
  unfold spread
  split
  · split
    · trivial
    · exact Or.inl rfl
  · trivial

theorem attributed_computed {other : UserError -> Prop} {assign : Assign}
    (hassign : assign.fragment ≠ "") :
    RaisesAttributed callers other (fun _ => True) (data.computed callers assign) := by
  unfold computed
  apply (raisesOnly_ofFault _).bind_any
  intro groups
  apply Ends.bind_any
  · induction groups with
    | nil => trivial
    | cons group rest ih =>
        rw [placedValues]
        apply (attributed_groupValues hassign data.columns group.rows).bind_any
        intro values
        exact ih.bind_any fun _ => trivial
  · intro placed
    trivial

theorem attributed_transform {other : UserError -> Prop} {assigns : List Assign}
    (hassigns : AreSourced assigns) :
    RaisesAttributed callers other
      (fun result => data.Widens result ∧
        forall assign, assign ∈ assigns -> assign.name ∈ result.header)
      (transform callers assigns data) := by
  induction assigns generalizing data with
  | nil => exact ⟨.refl data, List.forall_mem_nil _⟩
  | cons assign rest ih =>
      rcases List.forall_mem_cons.1 hassigns with ⟨hassign, hrest⟩
      rw [transform]
      apply (attributed_computed hassign).bind_any
      intro values
      apply (ih hrest).weaken
      intro result hresult
      rcases hresult with ⟨hwidens, hnames⟩
      refine ⟨(widens_setColumn data assign.name values).trans hwidens, ?_⟩
      rw [List.forall_mem_cons]
      refine ⟨hwidens.header assign.name ?_, hnames⟩
      rw [setColumn_header]
      exact mem_headerWith_iff.2 (Or.inr rfl)

theorem attributed_subset {other : UserError -> Prop} {conditions : List Assign}
    (hconditions : AreSourced conditions) :
    RaisesAttributed callers other data.Widens (subset callers conditions data) := by
  have hflags {condition : Assign} (hcondition : condition.fragment ≠ "") (values : List Value) :
      RaisesAttributed callers other (fun _ => True) (truthFlags condition values) := by
    induction values with
    | nil => trivial
    | cons value rest ih =>
        rw [truthFlags]
        split
        · exact ih.map_any fun _ => trivial
        · exact Or.inl ⟨condition.fragment, rfl, hcondition⟩
  have hpassing (rows : List Nat) : RaisesAttributed callers other (fun _ => True)
      (passingRows callers data.columns rows conditions) := by
    induction conditions with
    | nil => trivial
    | cons condition rest ih =>
        rcases List.forall_mem_cons.1 hconditions with ⟨hcondition, hrest⟩
        rw [passingRows]
        apply (attributed_groupValues hcondition data.columns rows).bind_any
        intro values
        apply (hflags hcondition values).bind_any
        intro flags
        exact (ih hrest).bind_any fun _ => trivial
  unfold subset
  apply (raisesOnly_ofFault _).bind_any
  intro groups
  apply (Ends.mapM_any fun group _ => hpassing group.rows).bind_any
  intro kept
  exact data.widens_rows _

/-!
# Rows
-/

def MissesPositions (data : Dataset) (positions : Positions) (e : UserError) : Prop :=
  exists groups group, data.partitions = .ok groups ∧ group ∈ groups ∧
    positions.values group.size = .error (.user e)

theorem MissesPositions.isUnplaced {positions : Positions} {e : UserError}
    (h : data.MissesPositions positions e) : e.IsUnplaced := by
  rcases h with ⟨groups, group, _, _, hvalues⟩
  exact (positions.unplaced_values group.size).bad_of_eq hvalues

theorem slice_raises (positions : Positions) :
    RaisesOnly (data.MissesPositions positions) (slice positions data) := by
  unfold slice
  cases hgroups : data.partitions with
  | error f => trivial
  | ok groups =>
      rw [Outcome.ofFault, ok_bind]
      apply Ends.bind_any
      · apply Ends.mapM_any
        intro group hgroup
        unfold pickedRows Positions.offsets
        cases hvalues : positions.values group.size with
        | ok values => trivial
        | error failure =>
            cases failure with
            | fault f => trivial
            | user e => exact ⟨groups, group, hgroups, hgroup, hvalues⟩
      · intro picked
        trivial

def CannotOrder (keys : List SortKey) (e : UserError) : Prop :=
  exists key, key ∈ keys ∧ (unorderable key.column : Outcome Dataset) = .error (.user e)

theorem CannotOrder.isUnplaced {keys : List SortKey} {e : UserError} (h : CannotOrder keys e) :
    e.IsUnplaced := by
  rcases h with ⟨key, _, hfails⟩
  cases hfails
  rfl

theorem sort_raises (keys : List SortKey) :
    Ends (Failure.IsFaultOr (CannotOrder keys)) data.Widens (sort keys data) := by
  have hsortBy (key : SortKey) (rows : List (List Value)) :
      RaisesOnly (CannotOrder [key]) (sortBy data.header key rows) := by
    unfold sortBy
    split
    · apply (raisesOnly_ofFault _).bind_any
      intro keyed
      dsimp only
      split
      · trivial
      · exact ⟨key, List.mem_singleton.2 rfl, rfl⟩
      · trivial
    · trivial
  have hsortRows : RaisesOnly (CannotOrder keys) (sortRows data.header data.rows keys) := by
    induction keys with
    | nil => trivial
    | cons key rest ih =>
        have hmore {some : List SortKey} (h : forall k, k ∈ some -> k ∈ key :: rest)
            (e : UserError) (he : CannotOrder some e) : CannotOrder (key :: rest) e := by
          rcases he with ⟨k, hk, hfails⟩
          exact ⟨k, h k hk, hfails⟩
        rw [sortRows]
        apply Ends.bind_any
        · apply ih.imp
          · exact fun _ hfailure =>
              hfailure.imp (hmore fun k hk => List.mem_cons_of_mem key hk)
          · exact fun _ _ => trivial
        · intro sorted
          apply (hsortBy key sorted).imp
          · exact fun _ hfailure => hfailure.imp (hmore fun k hk => by
              rw [List.mem_singleton.1 hk]
              exact List.mem_cons_self)
          · exact fun _ _ => trivial
  exact hsortRows.map_any fun _ => data.widens_rows _

theorem unique_raises (columns : List String) :
    Ends (Failure.IsFaultOr fun _ => False) data.Widens (unique columns data) := by
  unfold unique
  dsimp only
  split
  · exact (raisesOnly_ofFault _).map_any fun _ => data.widens_rows _
  · trivial

theorem dropMissing_raises (asked : List Value) :
    Ends (Failure.IsFaultOr fun _ => False) data.Widens (dropMissing asked data) :=
  (raisesOnly_ofFault _).map_any fun _ => data.widens_rows _

/-!
# Keys
-/

/-- An error about some of the keys, of which none can be kept since its name is reserved. -/
def LosesKeys (keys : List String) (e : UserError) : Prop :=
  exists (seen : Dataset) (lost : List String), lost ≠ [] ∧
    (forall key, key ∈ lost -> key ∈ keys ∧ isReserved key = true) ∧
    (seen.unknownKeys (lost.map .str) : Outcome Dataset) = .error (.user e)

theorem LosesKeys.isUnplaced {keys : List String} {e : UserError} (h : LosesKeys keys e) :
    e.IsUnplaced := by
  rcases h with ⟨seen, lost, _, _, hfails⟩
  cases hfails
  rfl

theorem LosesKeys.mono {keys more : List String} {e : UserError} (h : LosesKeys keys e)
    (hmore : forall key, key ∈ keys -> key ∈ more) : LosesKeys more e := by
  rcases h with ⟨seen, lost, hlost, hkeys, hfails⟩
  exact ⟨seen, lost, hlost, fun key hkey => ⟨hmore key (hkeys key hkey).1, (hkeys key hkey).2⟩,
    hfails⟩

theorem not_losesKeys_nil (e : UserError) : ¬ LosesKeys [] e := by
  intro h
  rcases h with ⟨seen, lost, hlost, hkeys, _⟩
  cases lost with
  | nil => exact hlost rfl
  | cons key rest => exact List.not_mem_nil (hkeys key List.mem_cons_self).1

theorem groupBy_raises {keys : List String} (hkeys : keys ≠ [])
    (h : forall key, key ∈ keys -> key ∈ data.header ∨ isReserved key = true) :
    RaisesOnly (LosesKeys keys) (data.groupBy keys) := by
  have hsome : keys.isEmpty = false := by
    cases keys with
    | nil => exact absurd rfl hkeys
    | cons key rest => rfl
  unfold groupBy
  rw [hsome, if_neg Bool.false_ne_true]
  split
  · trivial
  · rename_i hlost
    refine ⟨data, keys.filter fun key => !data.header.contains key, hlost, ?_, rfl⟩
    intro key hkey
    rcases List.mem_filter.1 hkey with ⟨hmem, hgone⟩
    have hgone : key ∉ data.header := by simpa using hgone
    exact ⟨hmem, (h key hmem).resolve_left hgone⟩

theorem regroup_raises {keys : List String}
    (h : forall key, key ∈ keys -> key ∈ data.header ∨ isReserved key = true) :
    RaisesOnly (LosesKeys keys) (data.regroup keys) := by
  unfold regroup
  split
  · trivial
  · rename_i hsome
    exact groupBy_raises (fun hnil => hsome (List.isEmpty_iff.2 hnil)) h

/-- A dataset with the groups of another one that has its columns, but perhaps no reserved ones. -/
structure Retains (data result : Dataset) : Prop where
  groups : result.groups = data.groups
  header : forall name, name ∈ data.header -> name ∈ result.header ∨ isReserved name = true

theorem Widens.retains {next result : Dataset} (h : data.Widens next)
    (hnext : next.Retains result) : data.Retains result where
  groups := hnext.groups.trans h.groups
  header := fun name hname => hnext.header name (h.header name hname)

theorem dropReserved_raises (h : forall key, key ∈ data.groups -> key ∈ data.header) :
    Ends (Failure.IsFaultOr (LosesKeys data.groups)) data.Retains
      (Operation.drop isReserved data) := by
  have hkept (name : String) (hname : name ∈ data.header) :
      name ∈ (data.dropColumns isReserved).header ∨ isReserved name = true := by
    cases hreserved : isReserved name with
    | false => exact Or.inl (mem_dropColumns_header hname hreserved)
    | true => exact Or.inr rfl
  unfold Operation.drop
  split
  · have hchecked : RaisesOnly (LosesKeys data.groups) (data.dropColumns isReserved).checked :=
      regroup_raises fun key hkey => hkept key (h key hkey)
    cases hresult : (data.dropColumns isReserved).checked with
    | error failure =>
        rw [hresult] at hchecked
        exact hchecked
    | ok result =>
        rw [(eq_of_checked hresult).1]
        exact ⟨rfl, hkept⟩
  · exact ⟨rfl, fun name hname => Or.inl hname⟩

theorem rename_raises {mapping : List (ColumnRef × String)}
    (hmapping : forall entry, entry ∈ mapping -> exists name, entry.1 = .name name)
    (h : forall key, key ∈ data.groups -> key ∈ data.header) :
    RaisesOnly (fun _ => False) (Operation.renameIn mapping data) := by
  have hpositions (i : Nat) : mapping.lookup (.position i) = none := by
    rw [List.lookup_eq_none_iff]
    intro entry hentry
    rcases hmapping entry hentry with ⟨name, hname⟩
    rw [hname]
    rfl
  unfold Operation.renameIn
  split
  · rename_i hpresent
    rw [renameColumns_eq (List.all_eq_true.1 hpresent), checked_eq_ok]
    · trivial
    · intro key hkey
      rcases List.mem_map.1 hkey with ⟨old, hold, rfl⟩
      rcases List.mem_iff_getElem?.1 (h old hold) with ⟨i, hi⟩
      refine List.mem_map.2 ⟨(old, i), List.mem_zipIdx_iff_getElem?.2 hi, ?_⟩
      rw [ColumnRef.newName, hpositions, Option.or_none]
  · trivial

/-!
# New tables
-/

def MismatchesLengths (e : UserError) : Prop :=
  exists columns, ofColumns columns = .error (.user e)

theorem MismatchesLengths.isUnplaced {e : UserError} (h : MismatchesLengths e) :
    e.IsUnplaced := by
  rcases h with ⟨columns, hfails⟩
  unfold ofColumns at hfails
  dsimp only at hfails
  split at hfails
  · cases hfails
  · cases hfails
  · cases hfails
    rfl

theorem ofColumns_raises (columns : List (String × List Value)) :
    Ends (Failure.IsFaultOr MismatchesLengths)
      (fun result => result.header = columns.map Prod.fst ∧ result.groups = [])
      (ofColumns columns) := by
  cases hcolumns : ofColumns columns with
  | error failure =>
      cases failure with
      | fault f => trivial
      | user e => exact ⟨columns, hcolumns⟩
  | ok result =>
      rcases ofColumns_eq_ok hcolumns with ⟨hheader, _, hgroups⟩
      exact ⟨hheader, hgroups⟩

theorem ofColumns_of_lengths {columns : List (String × List Value)} {n : Nat}
    (h : forall column, column ∈ columns -> column.2.length = n) :
    exists result, ofColumns columns = .ok result := by
  cases columns with
  | nil => exact ⟨_, ofColumns_nil⟩
  | cons first rest => exact ⟨_, ofColumns_eq (List.cons_ne_nil first rest) h⟩

/-- An error about columns of a new table, which are of the same length if some names differ. -/
def RepeatsNames (names : List String) (e : UserError) : Prop :=
  ¬ names.Nodup ∧ MismatchesLengths e

theorem ofColumns_repeats {names : List String} {columns : List (String × List Value)} {n : Nat}
    (h : names.Nodup -> forall column, column ∈ columns -> column.2.length = n) :
    Ends (Failure.IsFaultOr (RepeatsNames names))
      (fun result => result.header = columns.map Prod.fst ∧ result.groups = [])
      (ofColumns columns) := by
  have hends := ofColumns_raises columns
  by_cases hnodup : names.Nodup
  · rcases ofColumns_of_lengths (h hnodup) with ⟨result, hresult⟩
    rw [hresult] at hends ⊢
    exact hends
  · exact hends.imp (fun _ hfailure => hfailure.imp fun _ he => ⟨hnodup, he⟩) fun _ hgood => hgood

theorem attributed_summaries {other : UserError -> Prop} (nrows : Nat) {assigns : List Assign}
    (hassigns : AreSourced assigns) (columns : List (String × List Value)) :
    RaisesAttributed callers other (fun _ => True) (summaries callers nrows columns assigns) := by
  induction assigns generalizing columns with
  | nil => trivial
  | cons assign rest ih =>
      rcases List.forall_mem_cons.1 hassigns with ⟨hassign, hrest⟩
      rw [summaries]
      apply Ends.bind_any
      · apply attributed_inFragment hassign
        apply (Expr.evaluate_raises _ assign.expr).bind_any
        intro value
        unfold summaryValue
        split
        · trivial
        · exact Or.inl rfl
        · trivial
      · intro value
        exact (ih hrest _).bind_any fun _ => trivial

/-- Summaries show their fragments, unless names are repeated and the columns do not match. -/
theorem attributed_summarize {assigns : List Assign} (hassigns : AreSourced assigns) :
    RaisesAttributed callers (RepeatsNames (data.groups ++ assigns.map Assign.name))
      (fun result => result.groups = [] ∧ forall key, key ∈ data.groups -> key ∈ result.header)
      (summarize callers assigns data) := by
  unfold summarize
  cases hgroups : data.partitions with
  | error f => trivial
  | ok groups =>
      have hrows : RaisesAttributed callers
          (RepeatsNames (data.groups ++ assigns.map Assign.name))
          (fun rows => forall entries, entries ∈ rows ->
            entries.map Prod.fst = data.groups ++ assigns.map Assign.name)
          (groups.mapM (groupRow callers data assigns)) := by
        apply Ends.mapM
        intro group hgroup
        cases hrow : groupRow callers data assigns group with
        | ok entries => exact groupRow_names (key_length hgroups hgroup) hrow
        | error failure =>
            have hfound : RaisesAttributed callers
                (RepeatsNames (data.groups ++ assigns.map Assign.name)) (fun _ => True)
                (groupRow callers data assigns group) :=
              (attributed_summaries group.size hassigns _).bind_any fun _ => trivial
            exact hfound.bad_of_eq hrow
      apply hrows.bind
      intro rows hnames
      have hlengths (hnodup : (data.groups ++ assigns.map Assign.name).Nodup)
          (column : String × List Value)
          (hcolumn : column ∈ (data.groups ++ assigns.map Assign.name).eraseDups.map fun name =>
            (name, entriesNamed rows name)) : column.2.length = rows.length := by
        rcases List.mem_map.1 hcolumn with ⟨name, hname, rfl⟩
        rw [length_entriesNamed hnames, List.count_eq_one_of_mem hnodup
          (List.mem_eraseDups.1 hname), Nat.one_mul]
      apply (ofColumns_repeats hlengths).imp
      · exact fun _ hfailure => hfailure.imp fun _ he => Or.inr (Or.inr he)
      · intro result hresult
        refine ⟨hresult.2, ?_⟩
        intro key hkey
        rw [hresult.1, List.map_map]
        exact List.mem_map.2
          ⟨key, List.mem_eraseDups.2 (List.mem_append_left _ hkey), rfl⟩

/-!
# Selections
-/

theorem length_valuesNamed (data : Dataset) (name : String) :
    (data.valuesNamed name).length = data.header.count name * data.nrows := by
  have hcells (row : List Value) : (cellsNamed data.header name row).length =
      data.header.count name := by
    have hnames : (data.header.zip (fitted data.header.length row)).map Prod.fst = data.header :=
      List.map_fst_zip (le_of_eq (fitted_length _ _).symm)
    unfold cellsNamed
    rw [List.length_map, ← List.countP_eq_length_filter, List.count]
    conv_rhs => rw [← hnames]
    rw [List.countP_map]
    rfl
  unfold valuesNamed nrows
  rw [List.length_flatMap]
  simp only [hcells, List.map_const', List.sum_replicate, smul_eq_mul]
  exact Nat.mul_comm _ _

theorem attributed_itemValues {other : UserError -> Prop} {item : SelectionItem}
    (hitem : item.IsSourced) :
    RaisesAttributed callers other
      (fun values => data.header.Nodup -> values.length = data.nrows)
      (itemValues callers data item) := by
  cases item with
  | computed assign =>
      rw [itemValues]
      cases hvalues : data.computed callers assign with
      | ok values => exact fun _ => computed_length hvalues
      | error failure =>
          have hcomputed : RaisesAttributed callers other (fun _ => True)
              (data.computed callers assign) := attributed_computed hitem
          exact hcomputed.bad_of_eq hvalues
  | picked pick =>
      rw [itemValues]
      split
      · rename_i values hvalues
        intro hnodup
        rw [columns_eq_valuesNamed, lookup_map_self] at hvalues
        split at hvalues
        · rename_i hname
          cases hvalues
          rw [length_valuesNamed, List.count_eq_one_of_mem hnodup (List.mem_eraseDups.1 hname),
            Nat.one_mul]
        · cases hvalues
      · trivial

theorem attributed_outputColumns {other : UserError -> Prop} {items : List SelectionItem}
    (hitems : forall item, item ∈ items -> item.IsSourced)
    {columns : List (String × List Value)}
    (hcolumns : data.header.Nodup -> forall column, column ∈ columns ->
      column.2.length = data.nrows) :
    RaisesAttributed callers other
      (fun found => (data.header.Nodup -> forall column, column ∈ found ->
          column.2.length = data.nrows) ∧
        forall name, name ∈ columns.map Prod.fst ∨ name ∈ items.map SelectionItem.name ->
          name ∈ found.map Prod.fst)
      (outputColumns callers data columns items) := by
  induction items generalizing columns with
  | nil =>
      refine ⟨hcolumns, ?_⟩
      intro name hname
      exact hname.resolve_right List.not_mem_nil
  | cons item rest ih =>
      rcases List.forall_mem_cons.1 hitems with ⟨hitem, hrest⟩
      rw [outputColumns]
      apply (attributed_itemValues hitem).bind
      intro values hvalues
      apply (ih hrest ?_).weaken
      · intro found hfound
        refine ⟨hfound.1, ?_⟩
        intro name hname
        apply hfound.2
        rw [putEntry_names, mem_headerWith_iff]
        rcases hname with hname | hname
        · exact Or.inl (Or.inl hname)
        · rcases List.mem_cons.1 hname with rfl | hname
          · exact Or.inl (Or.inr rfl)
          · exact Or.inr hname
      · intro hnodup column hcolumn
        rcases Compile.mem_putEntry hcolumn with hcolumn | rfl
        · exact hcolumns hnodup column hcolumn
        · exact hvalues hnodup

theorem mem_completed_names {items : List SelectionItem} {key : String} (hkey : key ∈ data.groups) :
    key ∈ (data.completed items).map SelectionItem.name := by
  rw [completed_names, List.mem_append]
  by_cases hname : key ∈ items.map SelectionItem.name
  · exact Or.inr hname
  · refine Or.inl (List.mem_filter.2 ⟨hkey, ?_⟩)
    simpa using hname

/-- A selection keeps the groups, and shows the fragments of what it computes, unless columns of
the table are repeated. -/
theorem attributed_select {items : List SelectionItem}
    (hitems : forall item, item ∈ items -> item.IsSourced) :
    RaisesAttributed callers (RepeatsNames data.header)
      (fun result => result.groups = data.groups ∧
        forall key, key ∈ result.groups -> key ∈ result.header)
      (select callers items data) := by
  have hall (item : SelectionItem) (hitem : item ∈ data.completed items) : item.IsSourced := by
    rcases List.mem_append.1 hitem with hkept | hitem
    · rcases List.mem_map.1 hkept with ⟨key, _, rfl⟩
      trivial
    · exact hitems item hitem
  have hgeneral : RaisesAttributed callers (RepeatsNames data.header)
      (fun result => result.groups = data.groups ∧
        forall key, key ∈ result.groups -> key ∈ result.header)
      (select.general callers data (data.completed items)) := by
    unfold select.general
    apply (attributed_outputColumns hall fun _ column hcolumn => by cases hcolumn).bind
    intro columns hcolumns
    apply ((ofColumns_repeats hcolumns.1).imp
      (fun _ hfailure => hfailure.imp fun _ he => Or.inr (Or.inr he)) fun _ hgood => hgood).bind
    intro result hresult
    have hkeys (key : String) (hkey : key ∈ data.groups) : key ∈ result.header := by
      rw [hresult.1]
      exact hcolumns.2 key (Or.inr (mem_completed_names hkey))
    rw [checked_eq_ok hkeys]
    exact ⟨rfl, hkeys⟩
  unfold select
  dsimp only
  split
  · rename_i hempty
    refine ⟨(groups_of_completed_nil hempty).symm, ?_⟩
    intro key hkey
    cases hkey
  · split
    · rename_i picks hpicks
      split
      · unfold project
        split
        · have hkeys (key : String) (hkey : key ∈ data.groups) : key ∈ picks.map Pick.name := by
            rw [picks_names hpicks]
            exact mem_completed_names hkey
          rw [checked_eq_ok hkeys]
          exact ⟨rfl, hkeys⟩
        · trivial
      · exact hgeneral
    · exact hgeneral

end Dataset
end Wrangle
