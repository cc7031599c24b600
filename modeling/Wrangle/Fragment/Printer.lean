import Wrangle.Text.Name
import Wrangle.Value.Render

/-!
# Canonical text of fragments

Every tree has one canonical text; it names the columns that are computed
without a name of their own.  Operands are put into parentheses when they bind
more loosely than their place asks for.
-/

namespace Wrangle

open Text

/-!
# Names and literals
-/

/-- A name as it is, or between backticks when it is no plain name. -/
def nameText (name : String) : String :=
  if isPlainName name then name
  else
    String.ofList
      (backtick :: (replaceChar backtick [backslash, backtick] name.toList ++ [backtick]))

def escapedText (s : String) : String :=
  String.ofList
    (replaceChar doubleQuote [backslash, doubleQuote]
      (replaceChar backslash [backslash, backslash] s.toList))

def literalText : Value -> String
  | .missing => "missing"
  | .bool b => if b then "true" else "false"
  | .str s => "\"" ++ escapedText s ++ "\""
  | value => value.render

/-!
# Binding strength
-/

namespace Strength

def clause : Nat := 1
def invert : Nat := 4
def range : Nat := 6
def negate : Nat := 9
def power : Nat := 10
def atom : Nat := 100

def ofSymbol (symbol : String) : Nat :=
  match symbol with
  | "=>" => clause
  | "|" => 2
  | "&" => 3
  | "!" => invert
  | "==" | "!=" | "<" | "<=" | ">" | ">=" | "in" => 5
  | ":" => range
  | "+" | "-" => 7
  | "*" | "/" | "%" => 8
  | "neg" => negate
  | "^" => power
  | _ => atom

def ofLiteral : Value -> Nat
  | .int n => if n < 0 then negate else atom
  | .float x _ => if x < 0 then negate else atom
  | _ => atom

end Strength

namespace Node

def strength : Node -> Nat
  | call head args _ true =>
      match args with
      | [_] => if head == "-" then Strength.negate else Strength.invert
      | _ => Strength.ofSymbol head
  | pair _ _ => Strength.clause
  | range _ _ => Strength.range
  | literal value => Strength.ofLiteral value
  | _ => Strength.atom

def enclosed (node : Node) (least : Nat) (text : String) : String :=
  if node.strength < least then "(" ++ text ++ ")" else text

def callText (head : String) (args : List String) (kwargs : List String) : String :=
  head ++ "(" ++ joined ", " (args ++ kwargs) ++ ")"

/-!
# Text of trees
-/

mutual

def unparse : Node -> String
  | identifier name => nameText name
  | literal value => literalText value
  | call head [operand] kwargs true =>
      head ++ enclosed operand (strength (call head [operand] kwargs true)) (unparse operand)
  | call head [left, right] kwargs true =>
      let own := strength (call head [left, right] kwargs true)
      let leftLeast := if head == "^" then own + 1 else own
      let rightLeast := if head == "^" then own else own + 1
      enclosed left leftLeast (unparse left) ++ " " ++ head ++ " " ++
        enclosed right rightLeast (unparse right)
  | call head args kwargs _ => callText head (unparseAll args) (unparseNamed kwargs)
  | assignment target value => nameText target ++ " = " ++ unparse value
  | pair left right => enclosed left 2 (unparse left) ++ " => " ++ enclosed right 2 (unparse right)
  | range start stop => enclosed start 7 (unparse start) ++ ":" ++ enclosed stop 7 (unparse stop)
  | vector items => "[" ++ joined ", " (unparseAll items) ++ "]"
  | tuple items => tupleText (unparseAll items)
  | interpolate inner => "!!" ++ enclosed inner Strength.atom (unparse inner)
  | splice items => joined ", " (unparseAll items)
  | foreign value => value.render

def unparseAll : List Node -> List String
  | [] => []
  | node :: rest => unparse node :: unparseAll rest

def unparseNamed : List (String × Node) -> List String
  | [] => []
  | (name, node) :: rest => (name ++ " = " ++ unparse node) :: unparseNamed rest

end

def canonicalText? (node : Node) : Except Fault String :=
  if node.isProper then .ok node.unparse else .error .badType

end Node
end Wrangle
