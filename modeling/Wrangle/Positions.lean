import Wrangle.Fragment.Printer
import Wrangle.Interpolation.Resolution
import Wrangle.Value.Arithmetic

/-!
# Row positions

Rows are picked by positions counted from one, or from the end when they are
negative.  Positions can be computed from the number of rows of a group.  Zero is
ignored, positions past either end are skipped, and the two directions must not
be mixed.  Powers may lead to complex numbers, which fail where they are compared.
-/

namespace Wrangle

/-- The positions of a pick, in the order in which they were written. -/
structure Positions where
  nodes : List Node

namespace Positions

open Number

def rejected (message : String) (hint : Option String) : Outcome alpha :=
  Outcome.reject (UserError.unsupported message hint)

/-- The text of a node between quotes; a plain value that is no node has none. -/
def shown (node : Node) : Outcome String :=
  (Outcome.ofFault node.canonicalText?).map Text.quoted

/-!
# Form
-/

def arithmeticSymbols : List String := ["+", "-", "*", "/", "%", "^"]

def checkLiteral (value : Value) : Outcome Unit := do
  let text <- shown (.literal value)
  match value with
  | .int _ => .ok ()
  | .float x _ =>
      if Binary.isIntegral x then .ok ()
      else rejected ("Slice index " ++ text ++ " is not an integer.") none
  | _ =>
      rejected ("Slice index " ++ text ++ " is not an integer.")
        (some "Use integers, ranges like 1:3, negative positions like -1, or n().")

def refuse (node : Node) : Outcome Unit := do
  let text <- shown node
  rejected (text ++ " cannot be used as a slice index.")
    (some "Slice positions are integers, ranges, n() and arithmetic over them.")

mutual

def check : Node -> Outcome Unit
  | .literal value => checkLiteral value
  | .range start stop => do
      check start
      check stop
  | .vector items => checkAll items
  | .tuple items => checkAll items
  | .call head args kwargs isOperator =>
      if Node.isBareCall countFunction (.call head args kwargs isOperator) then .ok ()
      else if isOperator && arithmeticSymbols.contains head && kwargs.isEmpty then checkAll args
      else refuse (.call head args kwargs isOperator)
  | .identifier name => refuse (.identifier name)
  | .assignment target value => refuse (.assignment target value)
  | .pair left right => refuse (.pair left right)
  | .interpolate inner => refuse (.interpolate inner)
  | .splice items => refuse (.splice items)
  | .foreign value => refuse (.foreign value)

def checkAll : List Node -> Outcome Unit
  | [] => .ok ()
  | node :: rest => do
      check node
      checkAll rest

end

/-!
# Values
-/

def arithmetic (head : String) (a b : Value) : Except Fault Value :=
  match head with
  | "+" => a.add b
  | "-" => a.subtract b
  | "*" => a.multiply b
  | "/" => a.divide b
  | "%" => a.modulo b
  | _ => a.power b

def notSingle (node : Node) : Outcome Value := do
  let text <- shown node
  rejected (text ++ " is not a single slice position.") none

def scalar (nrows : Nat) : Node -> Outcome Value
  | .literal value => .ok value
  | .call head [] kwargs isOperator =>
      if Node.isBareCall countFunction (.call head [] kwargs isOperator) then
        .ok (.int (Int.ofNat nrows))
      else if isOperator then .error (.fault Fault.badIndex)
      else notSingle (.call head [] kwargs isOperator)
  | .call head [operand] kwargs isOperator =>
      if isOperator then do
        let a <- scalar nrows operand
        Outcome.ofFault a.negate
      else notSingle (.call head [operand] kwargs isOperator)
  | .call head (left :: right :: rest) kwargs isOperator =>
      if isOperator then do
        let a <- scalar nrows left
        let b <- scalar nrows right
        Outcome.ofFault (arithmetic head a b)
      else notSingle (.call head (left :: right :: rest) kwargs isOperator)
  | node => notSingle node

/-- What a position comes to: a whole number, or a complex one, which has no place among rows. -/
inductive Mark where
  | whole (n : Int)
  | complex (re im : Float)

namespace Mark

def isZero : Mark -> Bool
  | whole n => n == 0
  | complex re im => re == 0 && im == 0

def isPositive : Mark -> Except Fault Bool
  | whole n => .ok (decide (0 < n))
  | complex _ _ => .error .badType

def isNegative : Mark -> Except Fault Bool
  | whole n => .ok (decide (n < 0))
  | complex _ _ => .error .badType

def whole? : Mark -> Option Int
  | whole n => some n
  | complex _ _ => none

def bound : Mark -> Except Fault Int
  | whole n => .ok n
  | complex _ _ => .error .badType

end Mark

def integral (node : Node) (value : Value) : Outcome Mark :=
  match value with
  | .int n => .ok (.whole n)
  | .float x _ =>
      match (Binary.exact x).bind fun q => if q.den = 1 then some q.num else none with
      | some n => .ok (.whole n)
      | none => do
          let text <- shown node
          rejected
            ("Slice index " ++ text ++ " evaluates to " ++ floatText x ++
              ", which is not an integer.")
            (some "Use % or integer literals to keep positions whole.")
  | .complex re im _ => .ok (.complex re im)
  | _ => .error (.fault Fault.badType)

def position (nrows : Nat) (node : Node) : Outcome Mark := do
  let value <- scalar nrows node
  integral node value

/-- Where positions are counted by the rows of a group, there is room for as many as these. -/
def room (nrows : Nat) (node : Node) : Nat :=
  if node.mentionsBareCall countFunction then nrows else 0

/-- The integers from one to another; for some of them there is always room. -/
def span (assured : Nat) (first last : Int) : Except Fault (List Int) :=
  let size := Value.rangeSize first (last + 1) 1
  if size <= assured then .ok ((List.range size).map fun i => first + Int.ofNat i)
  else Value.spanOf first last

def rangeBetween (assured : Nat) (first last : Mark) : Except Fault (List Int) := do
  let lower <- first.bound
  let upper <- last.bound
  span assured lower upper

mutual

def nodeValues (nrows : Nat) : Node -> Outcome (List Mark)
  | .range start stop => do
      let first <- position nrows start
      let last <- position nrows stop
      let between <- Outcome.ofFault (rangeBetween (room nrows (.range start stop)) first last)
      .ok (between.map Mark.whole)
  | .vector items => nodesValues nrows items
  | .tuple items => nodesValues nrows items
  | node => (position nrows node).map fun mark => [mark]

def nodesValues (nrows : Nat) : List Node -> Outcome (List Mark)
  | [] => .ok []
  | node :: rest => do
      let first <- nodeValues nrows node
      let others <- nodesValues nrows rest
      .ok (first ++ others)

end

def guarded (nrows : Nat) (node : Node) : Outcome (List Mark) :=
  match nodeValues nrows node with
  | .error (.fault (.raised .divisionByZero)) => do
      let text <- shown node
      rejected
        ("Slice index " ++ text ++ " divides by zero for a group of " ++ toString nrows ++
          " rows.")
        none
  | outcome => outcome

def evaluate (nrows : Nat) (nodes : List Node) : Outcome (List Mark) :=
  (nodes.mapM (guarded nrows)).map fun lists => lists.flatten.filter fun mark => !mark.isZero

def renderNodes (nodes : List Node) : String :=
  Text.joined ", " (nodes.map Node.unparse)

/-- Whether there are positions from both ends.  Marks are compared up to the first that decides. -/
def mixesSigns (marks : List Mark) : Except Fault Bool := do
  let forwards <- marks.anyM Mark.isPositive
  if forwards then marks.anyM Mark.isNegative else .ok false

def checkSigns (nodes : List Node) (marks : List Mark) : Outcome Unit := do
  let mixed <- Outcome.ofFault (mixesSigns marks)
  if mixed then
    Outcome.reject
      (UserError.ofKind .mixedSign
        ("slice() positions mix positive and negative values: " ++ renderNodes nodes ++ ".")
        (some "Select from the start (1, 2, ...) or from the end (-1, -2, ...), not both.")
        none)
  else .ok ()

def fixedNodes (nodes : List Node) : List Node :=
  nodes.filter fun node => !node.mentionsBareCall countFunction

def ofNodes (nodes : List Node) : Outcome Positions := do
  if nodes.isEmpty then rejected "slice() needs at least one position." none
  else do
    checkAll nodes
    let known <- evaluate 0 (fixedNodes nodes)
    checkSigns nodes known
    .ok { nodes := nodes }

def values (positions : Positions) (nrows : Nat) : Outcome (List Int) := do
  let marks <- evaluate nrows positions.nodes
  checkSigns positions.nodes marks
  .ok (marks.filterMap Mark.whole?)

def offset? (nrows : Nat) (n : Int) : Option Nat :=
  let place := if 0 < n then n else Int.ofNat nrows + n + 1
  if 1 <= place && place <= Int.ofNat nrows then some (place - 1).toNat else none

def offsets (positions : Positions) (nrows : Nat) : Outcome (List Nat) :=
  (positions.values nrows).map fun ns => ns.filterMap (offset? nrows)

def render (positions : Positions) : String :=
  renderNodes positions.nodes

theorem offset?_lt {nrows k : Nat} {n : Int} (h : offset? nrows n = some k) : k < nrows := by
  simp only [offset?] at h
  generalize (if 0 < n then n else Int.ofNat nrows + n + 1) = place at h
  split at h
  · rename_i inside
    simp only [Bool.and_eq_true, decide_eq_true_eq] at inside
    cases h
    have := inside.right
    simp only [Int.ofNat_eq_natCast] at this
    omega
  · cases h

end Positions
end Wrangle
