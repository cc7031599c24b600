import Wrangle.Proofs.Dataset.Lookup
import Wrangle.Proofs.Value.Permuting

/-!
# Summaries that see earlier ones

The summaries of a group are computed one after another.  Each one is stored among the
columns of the group, repeated over its rows, where a later one can read it: it takes
the first of these values.  A group without rows has none of them, and a summary that is
a column itself is taken apart when it is read.
-/

namespace Wrangle
namespace Dataset

variable {callers : CallerFunctions} {nrows : Nat} {columns : List (String × List Value)}
variable {found : List (String × Value)} {first second : List Assign}

/-!
# Stored summaries
-/

def accumulated (nrows : Nat) (columns : List (String × List Value))
    (found : List (String × Value)) : List (String × List Value) :=
  found.foldl (fun columns entry => putEntry columns (entry.1, List.replicate nrows entry.2))
    columns

theorem summaries_append (callers : CallerFunctions) (nrows : Nat)
    (columns : List (String × List Value)) (first second : List Assign) :
    summaries callers nrows columns (first ++ second) =
      summaries callers nrows columns first >>= fun before =>
        (summaries callers nrows (accumulated nrows columns before) second).map (before ++ ·) := by
  induction first generalizing columns with
  | nil =>
      rw [List.nil_append, summaries, ok_bind, accumulated, List.foldl_nil]
      cases summaries callers nrows columns second <;> rfl
  | cons assign rest ih =>
      rw [List.cons_append, summaries, summaries]
      cases Outcome.inFragment assign.fragment (do
          let result <- assign.expr.evaluate callers { columns := columns, nrows := nrows }
          summaryValue assign.name result) with
      | error failure => rfl
      | ok value =>
          rw [ok_bind, ok_bind, ih]
          cases summaries callers nrows
              (putEntry columns (assign.name, List.replicate nrows value)) rest with
          | error failure => rfl
          | ok before =>
              rw [ok_bind, ok_bind, ok_bind]
              show _ = Except.map _ (summaries callers nrows (accumulated nrows
                (putEntry columns (assign.name, List.replicate nrows value)) before) second)
              cases summaries callers nrows (accumulated nrows
                (putEntry columns (assign.name, List.replicate nrows value)) before) second <;> rfl

theorem summaries_concat_iff (hfound : summaries callers nrows columns first = .ok found)
    {assign : Assign} {all : List (String × Value)} :
    summaries callers nrows columns (first ++ [assign]) = .ok all <-> exists value,
      Outcome.inFragment assign.fragment
        (assign.expr.evaluate callers
          { columns := accumulated nrows columns found, nrows := nrows } >>=
            summaryValue assign.name) = .ok value ∧
      all = found ++ [(assign.name, value)] := by
  rw [summaries_append, hfound, ok_bind, map_eq_ok_iff, summaries]
  constructor
  · rintro ⟨others, hothers, rfl⟩
    rcases bind_eq_ok_iff.1 hothers with ⟨value, hvalue, hothers⟩
    cases hothers
    exact ⟨value, hvalue, rfl⟩
  · rintro ⟨value, hvalue, rfl⟩
    exact ⟨_, bind_eq_ok_iff.2 ⟨value, hvalue, rfl⟩, rfl⟩

theorem lookup_accumulated_of_not_mem {name : String} (hname : name ∉ found.map Prod.fst) :
    (accumulated nrows columns found).lookup name = columns.lookup name := by
  induction found generalizing columns with
  | nil => rfl
  | cons entry rest ih =>
      rw [List.map_cons, List.mem_cons, not_or] at hname
      rw [accumulated, List.foldl_cons]
      exact (ih hname.2).trans (lookup_putEntry_of_ne hname.1)

theorem lookup_accumulated (hnames : (found.map Prod.fst).Nodup) {entry : String × Value}
    (hentry : entry ∈ found) :
    (accumulated nrows columns found).lookup entry.1 = some (List.replicate nrows entry.2) := by
  induction found generalizing columns with
  | nil => cases hentry
  | cons other rest ih =>
      rw [List.map_cons, List.nodup_cons] at hnames
      rw [accumulated, List.foldl_cons]
      rcases List.mem_cons.1 hentry with rfl | hentry
      · exact (lookup_accumulated_of_not_mem hnames.1).trans
          (lookup_putEntry_self columns (entry.1, List.replicate nrows entry.2))
      · exact ih hnames.2 hentry

/-!
# Summaries that read an earlier one
-/

def reread (target source : String) (fragment : Option String) : Assign :=
  { name := target, expr := .first (.column source), source := fragment }

theorem evaluate_first_column {name : String} {value : Value}
    (h : columns.lookup name = some (List.replicate nrows value)) :
    (Expr.first (.column name)).evaluate callers { columns := columns, nrows := nrows } =
      .ok (if nrows = 0 then .missing else value) := by
  rw [Expr.evaluate, Expr.evaluate, Frame.column?, h]
  cases nrows with
  | zero => rfl
  | succ n => rfl

theorem summaryValue_eq_iff {name : String} {value single : Value}
    (h : summaryValue name value = .ok single) :
    single = value <-> forall w, value ≠ .column [w] := by
  cases value with
  | column items =>
      rcases items with _ | ⟨w, _ | ⟨_, _⟩⟩
      · cases h
      · cases h
        constructor
        · intro heq
          have hsize := congrArg sizeOf heq
          simp only [Value.column.sizeOf_spec, List.cons.sizeOf_spec, List.nil.sizeOf_spec] at hsize
          omega
        · exact fun hne => absurd rfl (hne single)
      · cases h
  | _ =>
      cases h
      exact ⟨fun _ _ => nofun, fun _ => rfl⟩

theorem recalled_iff {target source : String} {fragment : Option String}
    (h : summaries callers nrows columns (first ++ reread target source fragment :: second) =
      .ok found)
    (hsource : source ∈ first.map Assign.name) (hnames : (found.map Prod.fst).Nodup) :
    exists value single, (source, value) ∈ found ∧ (target, single) ∈ found ∧
      (single = value <-> (nrows = 0 -> value = .missing) ∧ forall w, value ≠ .column [w]) := by
  rw [summaries_append] at h
  rcases bind_eq_ok_iff.1 h with ⟨before, hbefore, h⟩
  rcases map_eq_ok_iff.1 h with ⟨others, hothers, rfl⟩
  rw [summaries] at hothers
  rcases bind_eq_ok_iff.1 hothers with ⟨single, hsingle, hothers⟩
  rcases bind_eq_ok_iff.1 hothers with ⟨after, _, hothers⟩
  cases hothers
  rw [← summaries_names hbefore] at hsource
  rcases List.mem_map.1 hsource with ⟨⟨_, value⟩, hentry, rfl⟩
  have hdistinct : (before.map Prod.fst).Nodup := by
    rw [List.map_append] at hnames
    exact hnames.of_append_left
  rw [inFragment_eq_ok_iff, reread, evaluate_first_column (lookup_accumulated hdistinct hentry),
    ok_bind] at hsingle
  refine ⟨value, single, List.mem_append_left _ hentry,
    List.mem_append_right _ (List.mem_cons_self ..), ?_⟩
  by_cases hrows : nrows = 0
  · rw [if_pos hrows] at hsingle
    cases hsingle
    simp only [hrows, true_implies]
    constructor
    · rintro rfl
      refine ⟨rfl, ?_⟩
      intro w hw
      cases hw
    · exact fun hmissing => hmissing.1.symm
  · rw [if_neg hrows] at hsingle
    rw [summaryValue_eq_iff hsingle]
    simp [hrows]

/-!
# Columns of a table of summaries
-/

theorem firstColumn_ofColumns {table : Dataset} {columns : List (String × List Value)}
    (hnames : (columns.map Prod.fst).Nodup) (h : ofColumns columns = .ok table)
    {column : String × List Value} (hcolumn : column ∈ columns) :
    table.firstColumn column.1 = column.2 := by
  rcases exists_of_ofColumns h with ⟨n, _, hlengths, rfl⟩
  have hlength := hlengths column hcolumn
  rcases List.mem_iff_getElem.1 hcolumn with ⟨j, hj, rfl⟩
  have hplace : (columns.map Prod.fst).idxOf columns[j].1 = j := by
    have hname := hnames.idxOf_getElem j (by simpa using hj)
    rwa [List.getElem_map] at hname
  unfold firstColumn flat
  dsimp only
  rw [hplace, List.map_map]
  apply List.ext_getElem
  · simp [hlength]
  · intro i hi hi'
    simp [rowOf, cellAt, hj, hi']

theorem firstColumn_summarize {data table : Dataset} {assigns : List Assign}
    (h : summarize callers assigns data = .ok table) :
    exists groups rows, data.partitions = .ok groups ∧
      groups.mapM (groupRow callers data assigns) = .ok rows ∧
      forall name, name ∈ data.groups ++ assigns.map Assign.name ->
        name ∈ table.header ∧ table.firstColumn name = entriesNamed rows name := by
  rcases bind_eq_ok_iff.1 h with ⟨groups, hgroups, h⟩
  rcases bind_eq_ok_iff.1 h with ⟨rows, hrows, h⟩
  refine ⟨groups, rows, ofFault_eq_ok_iff.1 hgroups, hrows, ?_⟩
  have hnames : forall names : List String,
      (names.map fun name => (name, entriesNamed rows name)).map Prod.fst = names := by
    intro names
    rw [List.map_map]
    exact List.map_id names
  intro name hname
  have hcolumn : (name, entriesNamed rows name) ∈
      (data.groups ++ assigns.map Assign.name).eraseDups.map fun name =>
        (name, entriesNamed rows name) :=
    List.mem_map.2 ⟨name, List.mem_eraseDups.2 hname, rfl⟩
  constructor
  · rw [(ofColumns_eq_ok h).1, hnames]
    exact List.mem_eraseDups.2 hname
  · refine firstColumn_ofColumns ?_ h hcolumn
    rw [hnames]
    exact eraseDups_nodup _

/-!
# Cells of keys
-/

/-- The cells of a group's key under a name. -/
def keyCellsNamed (data : Dataset) (group : Partition) (name : String) : List Value :=
  ((data.groups.zip group.key).filter fun entry => entry.1 == name).map Prod.snd

variable {data : Dataset} {groups : List Partition} {group : Partition}

theorem keyCellsNamed_of_not_mem {name : String} (hname : name ∉ data.groups) :
    data.keyCellsNamed group name = [] := by
  unfold keyCellsNamed
  rw [List.map_eq_nil_iff, List.filter_eq_nil_iff]
  intro entry hentry heq
  exact hname (beq_iff_eq.1 heq ▸ (List.of_mem_zip hentry).1)

theorem filter_groupRow (hnames : (found.map Prod.fst).Nodup) {entry : String × Value}
    (hentry : entry ∈ found) :
    ((data.groups.zip group.key ++ found).filter fun other => other.1 == entry.1).map Prod.snd =
      data.keyCellsNamed group entry.1 ++ [entry.2] := by
  rw [List.filter_append, List.map_append, filter_name_of_nodup hnames hentry, keyCellsNamed]
  rfl

theorem canBeKey_of_mem_key (hgroups : data.partitions = .ok groups) (hgroup : group ∈ groups)
    {value : Value} (hvalue : value ∈ group.key) : value.canBeKey = true := by
  have hall : forall {key : List Value}, Value.allCanBeKeys key = true -> forall value,
      value ∈ key -> value.canBeKey = true := by
    intro key hkey
    induction key with
    | nil =>
        intro value hvalue
        cases hvalue
    | cons first rest ih =>
        rw [Value.allCanBeKeys, Bool.and_eq_true] at hkey
        exact List.forall_mem_cons.2 ⟨hkey.1, ih hkey.2⟩
  unfold partitions at hgroups
  split at hgroups
  · split at hgroups
    · cases hgroups
    · rename_i keys hkeys
      have hkey := key_mem_of_mem_groupsOf ((Value.sortOn_perm hgroups).mem_iff.1 hgroup)
      have hcan : List.Forall₂ (fun key _ => Value.allCanBeKeys key = true) keys data.rows := by
        refine forall₂_of_mapM_eq_ok hkeys ?_
        intro row _ key hrow
        unfold rowKey at hrow
        split at hrow
        · cases hrow
        · split at hrow
          · rename_i hcan
            cases hrow
            exact hcan
          · cases hrow
      rcases exists_of_forall₂ hcan hkey with ⟨_, _, hkey⟩
      exact hall hkey value hvalue
  · cases hgroups
    rw [List.mem_singleton.1 hgroup] at hvalue
    cases hvalue

/-!
# Sizes of groups
-/

theorem size_eq_zero_iff (hgroups : data.partitions = .ok groups) (hgroup : group ∈ groups) :
    group.size = 0 <-> data.groups = [] ∧ data.rows = [] := by
  unfold partitions at hgroups
  split at hgroups
  · rename_i hgrouped
    split at hgroups
    · cases hgroups
    · rename_i keys hkeys
      have hmem := (Value.sortOn_perm hgroups).mem_iff.1 hgroup
      rcases List.mem_map.1 hmem with ⟨entry, hentry, rfl⟩
      have hown : entry.2 ∈ positionsOf entry.1 entry.2 keys := by
        refine List.mem_map.2 ⟨entry, List.mem_filter.2 ⟨mem_distinctKeys hentry, ?_⟩, rfl⟩
        rw [beq_self_eq_true, Bool.true_or]
      constructor
      · intro hsize
        have hnone : positionsOf entry.1 entry.2 keys = [] := List.length_eq_zero_iff.1 hsize
        rw [hnone] at hown
        cases hown
      · rintro ⟨hflat, _⟩
        rw [isGrouped, hflat] at hgrouped
        cases hgrouped
  · rename_i hflat
    cases hgroups
    rw [List.mem_singleton.1 hgroup]
    have hnone : data.groups = [] := by simpa [isGrouped] using hflat
    simp [Partition.size, nrows, hnone]

end Dataset
end Wrangle
