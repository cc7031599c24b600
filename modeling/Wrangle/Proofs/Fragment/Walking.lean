import Mathlib.Data.List.Basic
import Wrangle.Fragment.Node

/-!
# Nodes of trees

The nodes of a list of trees are the nodes of its members.  A splice calls a function just where
one of its items does.
-/

namespace Wrangle
namespace Node

theorem mem_walk_self (tree : Node) : tree ∈ tree.walk := by
  cases tree <;> exact List.mem_cons_self

theorem mem_walkAll_iff {node : Node} {trees : List Node} :
    node ∈ walkAll trees <-> exists tree, tree ∈ trees ∧ node ∈ tree.walk := by
  induction trees with
  | nil => simp [walkAll]
  | cons first others ih => simp [walkAll, ih]

theorem mem_walkNamed_iff {node : Node} {kwargs : List (String × Node)} :
    node ∈ walkNamed kwargs <-> exists entry, entry ∈ kwargs ∧ node ∈ entry.2.walk := by
  induction kwargs with
  | nil => simp [walkNamed]
  | cons first others ih => simp [walkNamed, ih]

theorem mem_walkAll {trees : List Node} {tree node : Node} (ht : tree ∈ trees)
    (h : node ∈ tree.walk) : node ∈ walkAll trees :=
  mem_walkAll_iff.2 ⟨tree, ht, h⟩

theorem mem_walkNamed {kwargs : List (String × Node)} {entry : String × Node} {node : Node}
    (he : entry ∈ kwargs) (h : node ∈ entry.2.walk) : node ∈ walkNamed kwargs :=
  mem_walkNamed_iff.2 ⟨entry, he, h⟩

theorem mentionsBareCall_iff {name : String} {tree : Node} :
    tree.mentionsBareCall name = true <-> apply name [] ∈ tree.walk := by
  rw [mentionsBareCall, List.any_eq_true]
  constructor
  · intro h
    rcases h with ⟨node, hnode, hcall⟩
    unfold isBareCall at hcall
    split at hcall
    · rw [beq_iff_eq.1 hcall] at hnode
      exact hnode
    · cases hcall
  · intro h
    exact ⟨_, h, beq_self_eq_true name⟩

theorem mentionsBareCall_splice_iff {name : String} {items : List Node} :
    (splice items).mentionsBareCall name = true <->
      exists item, item ∈ items ∧ item.mentionsBareCall name = true := by
  simp only [mentionsBareCall_iff, walk, List.mem_cons, mem_walkAll_iff]
  simp [apply]

/-!
# Trees with other literals

The literals of a tree can be exchanged for others.  The nodes of the tree stay where they are, and
its calls stay the same.
-/

mutual

def mapLiterals (f : Value -> Value) : Node -> Node
  | identifier name => identifier name
  | literal value => literal (f value)
  | call head args kwargs isOperator =>
      call head (mapLiteralsAll f args) (mapLiteralsNamed f kwargs) isOperator
  | assignment target value => assignment target (mapLiterals f value)
  | pair left right => pair (mapLiterals f left) (mapLiterals f right)
  | range start stop => range (mapLiterals f start) (mapLiterals f stop)
  | vector items => vector (mapLiteralsAll f items)
  | tuple items => tuple (mapLiteralsAll f items)
  | interpolate inner => interpolate (mapLiterals f inner)
  | splice items => splice (mapLiteralsAll f items)
  | foreign value => foreign value

def mapLiteralsAll (f : Value -> Value) : List Node -> List Node
  | [] => []
  | node :: rest => mapLiterals f node :: mapLiteralsAll f rest

def mapLiteralsNamed (f : Value -> Value) : List (String × Node) -> List (String × Node)
  | [] => []
  | (name, node) :: rest => (name, mapLiterals f node) :: mapLiteralsNamed f rest

end

variable {f : Value -> Value}

theorem mapLiteralsAll_eq (items : List Node) :
    mapLiteralsAll f items = items.map (mapLiterals f) := by
  induction items with
  | nil => rfl
  | cons item rest ih => rw [mapLiteralsAll, ih, List.map_cons]

theorem mapLiteralsNamed_eq (entries : List (String × Node)) :
    mapLiteralsNamed f entries = entries.map fun entry => (entry.1, mapLiterals f entry.2) := by
  induction entries with
  | nil => rfl
  | cons entry rest ih => rw [mapLiteralsNamed, ih, List.map_cons]

@[simp] theorem mapLiteralsNamed_names (entries : List (String × Node)) :
    (mapLiteralsNamed f entries).map Prod.fst = entries.map Prod.fst := by
  rw [mapLiteralsNamed_eq, List.map_map]
  rfl

theorem mapLiteralsNamed_zip (names : List String) (nodes : List Node) :
    mapLiteralsNamed f (names.zip nodes) = names.zip (nodes.map (mapLiterals f)) := by
  rw [mapLiteralsNamed_eq, List.zip_map_right]
  rfl

mutual

theorem mapLiterals_id : forall tree : Node, tree.mapLiterals id = tree
  | call head args kwargs isOperator => by
      rw [mapLiterals, mapLiteralsAll_id, mapLiteralsNamed_id]
  | assignment target value => by rw [mapLiterals, mapLiterals_id]
  | pair left right => by rw [mapLiterals, mapLiterals_id, mapLiterals_id]
  | range start stop => by rw [mapLiterals, mapLiterals_id, mapLiterals_id]
  | vector items => by rw [mapLiterals, mapLiteralsAll_id]
  | tuple items => by rw [mapLiterals, mapLiteralsAll_id]
  | splice items => by rw [mapLiterals, mapLiteralsAll_id]
  | interpolate inner => by rw [mapLiterals, mapLiterals_id]
  | identifier name => rfl
  | literal value => rfl
  | foreign value => rfl

theorem mapLiteralsAll_id : forall items : List Node, mapLiteralsAll id items = items
  | [] => rfl
  | item :: rest => by rw [mapLiteralsAll, mapLiterals_id, mapLiteralsAll_id]

theorem mapLiteralsNamed_id : forall entries : List (String × Node),
    mapLiteralsNamed id entries = entries
  | [] => rfl
  | (name, item) :: rest => by rw [mapLiteralsNamed, mapLiterals_id, mapLiteralsNamed_id]

end

mutual

theorem walk_mapLiterals : forall tree : Node,
    (tree.mapLiterals f).walk = tree.walk.map (mapLiterals f)
  | call head args kwargs isOperator => by
      rw [mapLiterals, walk, walk, walkAll_mapLiterals, walkNamed_mapLiterals, List.map_cons,
        List.map_append, mapLiterals]
  | assignment target value => by
      rw [mapLiterals, walk, walk, walk_mapLiterals, List.map_cons, mapLiterals]
  | pair left right => by
      rw [mapLiterals, walk, walk, walk_mapLiterals, walk_mapLiterals, List.map_cons,
        List.map_append, mapLiterals]
  | range start stop => by
      rw [mapLiterals, walk, walk, walk_mapLiterals, walk_mapLiterals, List.map_cons,
        List.map_append, mapLiterals]
  | vector items => by
      rw [mapLiterals, walk, walk, walkAll_mapLiterals, List.map_cons, mapLiterals]
  | tuple items => by
      rw [mapLiterals, walk, walk, walkAll_mapLiterals, List.map_cons, mapLiterals]
  | splice items => by
      rw [mapLiterals, walk, walk, walkAll_mapLiterals, List.map_cons, mapLiterals]
  | interpolate inner => by
      rw [mapLiterals, walk, walk, walk_mapLiterals, List.map_cons, mapLiterals]
  | identifier name => rfl
  | literal value => rfl
  | foreign value => rfl

theorem walkAll_mapLiterals : forall items : List Node,
    walkAll (mapLiteralsAll f items) = (walkAll items).map (mapLiterals f)
  | [] => rfl
  | item :: rest => by
      rw [mapLiteralsAll, walkAll, walkAll, walk_mapLiterals, walkAll_mapLiterals, List.map_append]

theorem walkNamed_mapLiterals : forall entries : List (String × Node),
    walkNamed (mapLiteralsNamed f entries) = (walkNamed entries).map (mapLiterals f)
  | [] => rfl
  | (name, item) :: rest => by
      rw [mapLiteralsNamed, walkNamed, walkNamed, walk_mapLiterals, walkNamed_mapLiterals,
        List.map_append]

end

theorem isBareCall_mapLiterals (name : String) (node : Node) :
    isBareCall name (node.mapLiterals f) = isBareCall name node := by
  cases node with
  | call head args kwargs isOperator =>
      rw [mapLiterals, mapLiteralsAll_eq, mapLiteralsNamed_eq]
      cases args <;> cases kwargs <;> rfl
  | _ => rfl

@[simp] theorem mentionsBareCall_mapLiterals (name : String) (tree : Node) :
    (tree.mapLiterals f).mentionsBareCall name = tree.mentionsBareCall name := by
  simp only [mentionsBareCall, walk_mapLiterals, List.any_map, Function.comp_def,
    isBareCall_mapLiterals]

end Node
end Wrangle
