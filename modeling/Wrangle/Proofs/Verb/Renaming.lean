import Wrangle.Proofs.Dataset.Parts
import Wrangle.Proofs.Verb.Chaining

/-!
# New names

All pairs of a call rename the columns at the same time, so that names can be swapped, and
the rows stay as they are.  Nothing keeps two columns from the same new name.  Then the
names are no longer distinct, and a key stands for the first column that has its new name.
-/

namespace Wrangle

open Dataset Compile

namespace Dataset

/-!
# Mappings
-/

theorem lookup_foldl_putEntry {alpha : Type} (items entries : List (String × alpha))
    (name : String) :
    (items.foldl putEntry entries).lookup name =
      (items.reverse.lookup name).or (entries.lookup name) := by
  induction items generalizing entries with
  | nil => rfl
  | cons item rest ih =>
      rw [List.foldl_cons, ih, List.reverse_cons, List.lookup_append, Option.or_assoc]
      congr 1
      rw [List.lookup_cons]
      by_cases hname : name = item.1
      · rw [hname, lookup_putEntry_self, beq_self_eq_true]
        rfl
      · have hne : (name == item.1) = false := by simpa using hname
        rw [lookup_putEntry_of_ne hname, hne]
        rfl

/-- The new name of a column: that of the last pair with its old name, or its own. -/
def newName (pairs : List (String × String)) (name : String) : String :=
  (pairs.reverse.lookup name).getD name

/-!
# Renamed datasets
-/

/-- The dataset with other names for its columns, also where they are keys. -/
def renamed (rename : String -> String) (data : Dataset) : Dataset where
  header := data.header.map rename
  rows := data.rows
  groups := data.groups.map rename

def firstRenamed (rename : String -> String) (header : List String) (name : String) : String :=
  (header.find? fun other => rename other == rename name).getD name

variable {data : Dataset} {rename : String -> String}

theorem renameColumns_pairs {pairs : List (String × String)}
    (hpairs : forall entry, entry ∈ pairs.foldl putEntry [] -> entry.1 ∈ data.header) :
    data.renameColumns ((pairs.foldl putEntry []).map fun entry => (.name entry.1, entry.2)) =
      data.renamed (newName pairs) := by
  have hname : forall (mapping : List (String × String)) (name : String),
      (mapping.map fun entry => (ColumnRef.name entry.1, entry.2)).lookup (.name name) =
        mapping.lookup name := by
    intro mapping name
    induction mapping with
    | nil => rfl
    | cons entry rest ih =>
        have heq : (ColumnRef.name name == ColumnRef.name entry.1) = (name == entry.1) := by
          rw [Bool.eq_iff_iff, beq_iff_eq, beq_iff_eq]
          exact ⟨ColumnRef.name.inj, congrArg ColumnRef.name⟩
        rw [List.map_cons, List.lookup_cons, List.lookup_cons, ih, heq]
  have hposition : forall (mapping : List (String × String)) (i : Int),
      (mapping.map fun entry => (ColumnRef.name entry.1, entry.2)).lookup (.position i) = none := by
    intro mapping i
    rw [List.lookup_eq_none_iff]
    intro entry hentry
    rcases List.mem_map.1 hentry with ⟨pair, _, rfl⟩
    rfl
  have hpresent : forall entry,
      entry ∈ (pairs.foldl putEntry []).map (fun pair => (ColumnRef.name pair.1, pair.2)) ->
        data.hasColumn entry.1 = true := by
    intro entry hentry
    rcases List.mem_map.1 hentry with ⟨pair, hpair, rfl⟩
    exact List.contains_iff_mem.2 (hpairs pair hpair)
  rw [renameColumns_eq hpresent, newName_of_names (hposition _)]
  unfold renamed newName
  simp only [hname, lookup_foldl_putEntry, List.lookup_nil, Option.or_none]
  congr 1
  show data.header.zipIdx.map ((fun name => (pairs.reverse.lookup name).getD name) ∘ Prod.fst) = _
  rw [← List.map_map, List.zipIdx_map_fst]

theorem rename_firstRenamed (rename : String -> String) (header : List String) (key : String) :
    rename (firstRenamed rename header key) = rename key := by
  unfold firstRenamed
  cases hfound : header.find? fun other => rename other == rename key with
  | none => rfl
  | some first =>
      have hsame := List.find?_some hfound
      exact beq_iff_eq.1 hsame

theorem idxOf_renamed {header : List String} {key : String} (hkey : key ∈ header) :
    (header.map rename).idxOf (rename key) = header.idxOf (firstRenamed rename header key) := by
  induction header with
  | nil => cases hkey
  | cons name rest ih =>
      rw [List.map_cons]
      by_cases hname : rename name = rename key
      · have hfirst : firstRenamed rename (name :: rest) key = name := by
          rw [firstRenamed, List.find?_cons_of_pos (by simpa using hname)]
          rfl
        rw [hfirst, ← hname, List.idxOf_cons_self, List.idxOf_cons_self]
      · have hfirst : firstRenamed rename (name :: rest) key = firstRenamed rename rest key := by
          rw [firstRenamed, List.find?_cons_of_neg (by simpa using hname)]
          rfl
        have hrest : key ∈ rest := by
          rcases List.mem_cons.1 hkey with rfl | hrest
          · exact absurd rfl hname
          · exact hrest
        have hother : name ≠ firstRenamed rename rest key := by
          intro heq
          apply hname
          rw [heq]
          exact rename_firstRenamed rename rest key
        rw [hfirst, List.idxOf_cons_ne _ hname, List.idxOf_cons_ne _ hother, ih hrest]

theorem firstRenamed_of_inj {header : List String} {key : String} (hkey : key ∈ header)
    (hinj : forall name, name ∈ header -> forall other, other ∈ header ->
      rename name = rename other -> name = other) : firstRenamed rename header key = key := by
  have hsame := rename_firstRenamed rename header key
  unfold firstRenamed at hsame ⊢
  cases hfound : header.find? fun other => rename other == rename key with
  | none => rfl
  | some first =>
      rw [hfound] at hsame
      exact hinj first (List.mem_of_find?_eq_some hfound) key hkey hsame

theorem partitions_renamed (hkeys : forall key, key ∈ data.groups -> key ∈ data.header) :
    (data.renamed rename).partitions =
      { data with groups := data.groups.map (firstRenamed rename data.header) }.partitions := by
  have hindices : (data.renamed rename).keyIndices =
      { data with groups := data.groups.map (firstRenamed rename data.header) }.keyIndices := by
    unfold keyIndices renamed
    rw [List.map_map, List.map_map]
    exact List.map_congr_left fun key hkey => idxOf_renamed (hkeys key hkey)
  unfold partitions rowKeys
  rw [hindices]
  cases hgroups : data.groups with
  | nil => simp [isGrouped, renamed, hgroups, nrows]
  | cons key rest => simp [isGrouped, renamed, hgroups]

end Dataset

/-!
# Pairs
-/

namespace Request

/-- The old and the new names of fragments. -/
def pairs (request : Request) : Outcome (List (String × String)) :=
  request.fragments.mapM fun fragment =>
    Outcome.inFragment fragment.source (renamedPair request.scope fragment.node)

theorem renamings_eq (scope : Scope) (mapping : List (String × String))
    (fragments : List ResolvedFragment) :
    renamings scope mapping fragments =
      (fragments.mapM fun fragment =>
        Outcome.inFragment fragment.source (renamedPair scope fragment.node)).map fun pairs =>
          pairs.foldl putEntry mapping := by
  induction fragments generalizing mapping with
  | nil => rfl
  | cons fragment rest ih =>
      rw [renamings, mapM_cons_eq]
      cases Outcome.inFragment fragment.source (renamedPair scope fragment.node) with
      | error failure => rfl
      | ok entry =>
          rw [ok_bind, ok_bind, ih]
          cases rest.mapM fun fragment =>
            Outcome.inFragment fragment.source (renamedPair scope fragment.node) with
          | error failure => rfl
          | ok pairs => rfl

theorem mem_columns_of_renamedPair {scope : Scope} {node : Node} {entry : String × String}
    (h : renamedPair scope node = .ok entry) : entry.1 ∈ scope.columns := by
  have hpair : forall {target : String} {value : Node} {entry : String × String},
      (do
        let names <- selectNames scope value
        let old <- onlyColumn names
        Except.ok (old, target) : Outcome (String × String)) = .ok entry ->
      entry.1 ∈ scope.columns := by
    intro target value entry h
    rcases bind_eq_ok_iff.1 h with ⟨names, hnames, h⟩
    rcases bind_eq_ok_iff.1 h with ⟨old, hold, h⟩
    cases h
    have hgives : Gives (fun names => forall name, name ∈ names -> name ∈ scope.columns)
        (selectNames scope value) := selectNames_inScope value
    rw [hnames] at hgives
    unfold onlyColumn at hold
    split at hold
    · cases hold
      exact hgives old (List.mem_singleton_self old)
    · cases hold
  unfold renamedPair at h
  dsimp only at h
  split at h
  · exact hpair h
  · exact hpair h
  · cases h

variable {request : Request} {pairs : List (String × String)}

theorem mem_columns_of_pairs (h : request.pairs = .ok pairs) {entry : String × String}
    (hentry : entry ∈ pairs) : entry.1 ∈ request.scope.columns := by
  have hall : List.Forall₂ (fun entry _ => entry.1 ∈ request.scope.columns) pairs
      request.fragments :=
    forall₂_of_mapM_eq_ok h fun _ _ _ hpair =>
      mem_columns_of_renamedPair (inFragment_eq_ok_iff.1 hpair)
  rcases exists_of_forall₂ hall hentry with ⟨_, _, hmem⟩
  exact hmem

theorem planRename_eq (request : Request) :
    request.planRename = request.pairs.map fun pairs =>
      [.rename ((pairs.foldl putEntry []).map fun entry => (.name entry.1, entry.2))] := by
  rw [planRename, renamings_eq]
  unfold Request.pairs
  cases request.fragments.mapM fun fragment =>
    Outcome.inFragment fragment.source (renamedPair request.scope fragment.node) with
  | error failure => rfl
  | ok pairs => rfl

end Request

namespace Dataset

variable {data : Dataset} {pairs : List (String × String)}

theorem renameIn_eq (hdata : data.WellFormed)
    (hpairs : forall entry, entry ∈ pairs -> entry.1 ∈ data.header) :
    Operation.renameIn ((pairs.foldl putEntry []).map fun entry => (.name entry.1, entry.2)) data =
      .ok (data.renamed (newName pairs)) := by
  have hput : forall entry, entry ∈ pairs.foldl putEntry [] -> entry.1 ∈ data.header := by
    intro entry hentry
    rcases mem_foldl_putEntry hentry with hentry | hentry
    · cases hentry
    · exact hpairs entry hentry
  unfold Operation.renameIn
  rw [renameColumns_pairs hput, if_pos, checked_eq_ok]
  · intro key hkey
    rcases List.mem_map.1 hkey with ⟨old, hold, rfl⟩
    exact List.mem_map_of_mem (hdata.keys old hold)
  · rw [List.all_eq_true]
    intro entry hentry
    rcases List.mem_map.1 hentry with ⟨pair, hpair, rfl⟩
    exact List.contains_iff_mem.2 (hput pair hpair)

end Dataset

/-!
# Calls
-/

namespace Invocation

variable {call : Invocation} {data result : Dataset} {pairs : List (String × String)}

/-- The old and the new names that the fragments of a call give. -/
def RenamesBy (call : Invocation) (data : Dataset) (pairs : List (String × String)) : Prop :=
  exists request, call.request data = .ok request ∧ request.pairs = .ok pairs

theorem run_rename_eq_ok_iff (hverb : call.verb = .rename) (hdata : data.WellFormed)
    {settings : Settings} :
    (call.run settings data).result = .ok result <->
      exists pairs, call.RenamesBy data pairs ∧ result = data.renamed (newName pairs) := by
  have hplan : forall request, call.verb.plan request = request.planRename := by
    intro request
    rw [hverb]
    rfl
  have happly : forall {request pairs}, call.request data = .ok request ->
      request.pairs = .ok pairs ->
      Operation.applyAll call.env.functions
          [.rename ((pairs.foldl putEntry []).map fun entry => (.name entry.1, entry.2))] data =
        .ok (data.renamed (newName pairs)) := by
    intro request pairs hrequest hpairs
    rw [request_eq] at hrequest
    rcases map_eq_ok_iff.1 hrequest with ⟨found, _, rfl⟩
    rw [Operation.applyAll_single]
    exact renameIn_eq hdata fun entry hentry => Request.mem_columns_of_pairs hpairs hentry
  rw [run_eq_ok_iff]
  constructor
  · rintro ⟨found, ops, hfound, hops, hresult⟩
    have hrequest := request_of_fragments hfound data
    rw [hplan, Request.planRename_eq] at hops
    rcases map_eq_ok_iff.1 hops with ⟨pairs, hpairs, rfl⟩
    rw [happly hrequest hpairs] at hresult
    cases hresult
    exact ⟨pairs, ⟨_, hrequest, hpairs⟩, rfl⟩
  · rintro ⟨pairs, ⟨request, hrequest, hpairs⟩, rfl⟩
    have hall := hrequest
    rw [request_eq] at hall
    rcases map_eq_ok_iff.1 hall with ⟨found, hfound, rfl⟩
    refine ⟨found, _, hfound, ?_, happly hrequest hpairs⟩
    rw [hplan, Request.planRename_eq, hpairs]
    rfl

/-- A successful call changes no row, and gives each column and each key its new name.  The names
are distinct just when no two columns have the same new name.  Then the groups are those from
before; in any case they are those of the first columns that have the new names of the keys. -/
theorem rename_distinct_iff (hverb : call.verb = .rename) (hdata : data.WellFormed)
    {settings : Settings} (hrun : (call.run settings data).result = .ok result) :
    exists pairs, call.RenamesBy data pairs ∧
      result.rows = data.rows ∧
      result.header = data.header.map (newName pairs) ∧
      result.groups = data.groups.map (newName pairs) ∧
      (result.header.Nodup <-> forall name, name ∈ data.header -> forall other,
        other ∈ data.header -> newName pairs name = newName pairs other -> name = other) ∧
      (result.header.Nodup -> result.partitions = data.partitions) ∧
      result.partitions = { data with
        groups := data.groups.map (firstRenamed (newName pairs) data.header) }.partitions := by
  rcases (run_rename_eq_ok_iff hverb hdata).1 hrun with ⟨pairs, hpairs, rfl⟩
  have hnodup : (data.renamed (newName pairs)).header.Nodup <-> forall name,
      name ∈ data.header -> forall other, other ∈ data.header ->
        newName pairs name = newName pairs other -> name = other :=
    List.nodup_map_iff_inj_on hdata.nodup
  have hparts := @partitions_renamed data (newName pairs) hdata.keys
  refine ⟨pairs, hpairs, rfl, rfl, rfl, hnodup, ?_, hparts⟩
  intro hdistinct
  have hsame : data.groups.map (firstRenamed (newName pairs) data.header) = data.groups := by
    apply (List.map_congr_left fun key hkey => ?_).trans (List.map_id _)
    exact firstRenamed_of_inj (hdata.keys key hkey) (hnodup.1 hdistinct)
  rw [hparts, hsame]

/-- Two rows of one group. -/
def oneGroup : Dataset :=
  { header := ["x", "k"], rows := [[.int 1, .int 0], [.int 2, .int 0]], groups := ["k"] }

def renameToKey : Invocation :=
  { copyColumn with verb := .rename, named := [("k", .sym "x")] }

theorem renameToKey_run : (renameToKey.run Settings.initial oneGroup).result =
    .ok { oneGroup with header := ["k", "k"] } :=
  run_eq_ok_iff.2 ⟨_, _, rfl, rfl, rfl⟩

/-- The rows of the groups of a dataset. -/
def groupedRows (data : Dataset) : Option (List (List Nat)) :=
  data.partitions.toOption.map fun groups => groups.map Partition.rows

/-- With two columns of one name, the key is another column than before. -/
theorem rename_distinct_iff_renameToKey :
    (exists pairs, renameToKey.RenamesBy oneGroup pairs ∧
      ¬ forall name, name ∈ oneGroup.header -> forall other, other ∈ oneGroup.header ->
        newName pairs name = newName pairs other -> name = other) ∧
      groupedRows oneGroup = some [[0, 1]] ∧
      groupedRows { oneGroup with header := ["k", "k"] } = some [[0], [1]] := by
  rcases rename_distinct_iff rfl (by decide) renameToKey_run with
    ⟨pairs, hpairs, _, _, _, hnodup, _, _⟩
  refine ⟨⟨pairs, hpairs, ?_⟩, by decide +kernel, by decide +kernel⟩
  rw [← hnodup]
  decide

end Invocation
end Wrangle
