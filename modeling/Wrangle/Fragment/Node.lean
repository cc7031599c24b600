import Wrangle.Value.Basic

/-!
# Syntax trees

The trees that fragments parse to.  A call is written either as a function
applied to arguments or with an operator between or before its operands.

A tree built by hand may hold a plain value where a tree belongs; such a value
is kept as a foreign node.
-/

namespace Wrangle

inductive Node where
  | identifier (name : String)
  | literal (value : Value)
  | call (head : String) (args : List Node) (kwargs : List (String × Node)) (isOperator : Bool)
  | assignment (target : String) (value : Node)
  | pair (left right : Node)
  | range (start stop : Node)
  | vector (items : List Node)
  | tuple (items : List Node)
  | interpolate (inner : Node)
  | splice (items : List Node)
  | foreign (value : Value)
  deriving Repr, BEq

namespace Node

instance : Inhabited Node := ⟨literal .missing⟩

def apply (head : String) (args : List Node) : Node :=
  call head args [] false

def binary (symbol : String) (left right : Node) : Node :=
  call symbol [left, right] [] true

def unary (symbol : String) (operand : Node) : Node :=
  call symbol [operand] [] true

/-!
# Walking

All nodes of a tree, parents before children.
-/

mutual

def walk : Node -> List Node
  | identifier name => [identifier name]
  | literal value => [literal value]
  | call head args kwargs isOperator =>
      call head args kwargs isOperator :: (walkAll args ++ walkNamed kwargs)
  | assignment target value => assignment target value :: walk value
  | pair left right => pair left right :: (walk left ++ walk right)
  | range start stop => range start stop :: (walk start ++ walk stop)
  | vector items => vector items :: walkAll items
  | tuple items => tuple items :: walkAll items
  | interpolate inner => interpolate inner :: walk inner
  | splice items => splice items :: walkAll items
  | foreign value => [foreign value]

def walkAll : List Node -> List Node
  | [] => []
  | node :: rest => walk node ++ walkAll rest

def walkNamed : List (String × Node) -> List Node
  | [] => []
  | (_, node) :: rest => walk node ++ walkNamed rest

end

/-- Whether a node is the call of a function of that name without any argument. -/
def isBareCall (name : String) : Node -> Bool
  | call head [] [] false => head == name
  | _ => false

def mentionsBareCall (name : String) (node : Node) : Bool :=
  node.walk.any (isBareCall name)

def isForeign : Node -> Bool
  | foreign _ => true
  | _ => false

def isProper (node : Node) : Bool :=
  !node.walk.any isForeign

def isAssignment : Node -> Bool
  | assignment _ _ => true
  | _ => false

end Node
end Wrangle
