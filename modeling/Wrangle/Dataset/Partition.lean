import Wrangle.Dataset.Basic
import Wrangle.Value.Order

/-!
# Groups of rows

The rows of a grouped dataset fall into groups of equal keys, in ascending order
of the keys; a flat dataset is one group.  The rows of a group keep the order of
the dataset.

Any two cells can be told apart by rank: numbers come first, then other values by
kind, and missing values last.
-/

namespace Wrangle

namespace Value

def rank (value : Value) : Value :=
  match value with
  | .missing => .tuple [.int 2, .str "", .int 0]
  | .bool _ | .int _ | .float _ _ | .decimal _ _ => .tuple [.int 0, .str "", value]
  | _ => .tuple [.int 1, .str value.kindName, value]

end Value

/-- The rows of a group, by position, and the key that they have in common. -/
structure Partition where
  key : List Value
  rows : List Nat
  deriving Repr

namespace Partition

def size (group : Partition) : Nat :=
  group.rows.length

def rank (group : Partition) : Value :=
  .tuple (group.key.map Value.rank)

end Partition

namespace Dataset

/-!
# Keys
-/

/-- The cells of a row at the positions of the keys; they have to be there. -/
def keyCells (row : List Value) : List Nat -> Except Fault (List Value)
  | [] => .ok []
  | i :: rest =>
      match row[i]? with
      | none => .error .badIndex
      | some value => (keyCells row rest).map (value :: ·)

/-- The key of a row; only values that cannot change may be part of it. -/
def rowKey (indices : List Nat) (row : List Value) : Except Fault (List Value) :=
  match keyCells row indices with
  | .error f => .error f
  | .ok key => if Value.allCanBeKeys key then .ok key else .error .badType

def keyIndices (data : Dataset) : List Nat :=
  data.groups.map fun key => data.header.idxOf key

def rowKeys (data : Dataset) : Except Fault (List (List Value)) :=
  data.rows.mapM (rowKey data.keyIndices)

/-- The different keys in the order of their first appearance, with their first positions. -/
def distinctKeys (keys : List (List Value)) : List (List Value × Nat) :=
  keys.zipIdx.foldl
    (fun seen entry =>
      if seen.any fun found => Value.sameAll found.1 entry.1 then seen else seen ++ [entry])
    []

/-- The positions at which a key occurs, its own one among them even if it is unlike itself. -/
def positionsOf (key : List Value) (position : Nat) (keys : List (List Value)) : List Nat :=
  (keys.zipIdx.filter fun entry => entry.2 == position || Value.sameAll key entry.1).map Prod.snd

/-!
# Partitions
-/

def groupsOf (keys : List (List Value)) : List Partition :=
  (distinctKeys keys).map fun entry =>
    { key := entry.1, rows := positionsOf entry.1 entry.2 keys }

def partitions (data : Dataset) : Except Fault (List Partition) :=
  if data.isGrouped then
    match data.rowKeys with
    | .error f => .error f
    | .ok keys => Value.sortOn Partition.rank (groupsOf keys)
  else .ok [{ key := [], rows := List.range data.nrows }]

def scattered (nrows : Nat) (placed : List (Nat × Value)) : List Value :=
  (List.range nrows).map fun i => (placed.lookup i).getD .missing

theorem scattered_length (nrows : Nat) (placed : List (Nat × Value)) :
    (scattered nrows placed).length = nrows := by
  simp [scattered]

theorem partitions_of_flat (data : Dataset) (h : data.groups = []) :
    data.partitions = .ok [{ key := [], rows := List.range data.nrows }] := by
  simp [partitions, isGrouped, h]

end Dataset
end Wrangle
