import Wrangle.Interpolation.Evaluation
import Wrangle.Value.Settled

/-!
# Resolution of markers

Every marker of a fragment is replaced by the value that it evaluates to, written
as syntax.  Where several arguments may stand, a sequence becomes several
arguments; elsewhere it becomes a list of values of one kind.
-/

namespace Wrangle
namespace Interpolation

/-!
# Values that stand for syntax
-/

def symbol : Value -> Except Fault Value
  | .str name => if name.isEmpty then .error .badType else .ok (.sym name)
  | _ => .error .badType

def quote : Value -> Outcome Value
  | .str source => (parse true source).map fun _ => .quoted source
  | value => Outcome.reject (blankFragment value.printed)

/-!
# Values as syntax
-/

def isScalar : Value -> Bool
  | .missing | .bool _ | .int _ | .float _ _ | .str _ | .date _ | .datetime _ | .time _
  | .decimal _ _ => true
  | _ => false

/-- The tree of a quoted fragment.  Only texts that parse are quoted; any other is a text. -/
def quotedNode (source : String) : Node :=
  match parse true source with
  | .ok tree => tree
  | .error _ => .literal (.str source)

def spliceOne (source : String) (value : Value) : Outcome Node :=
  match value with
  | .quoted text => .ok (quotedNode text)
  | .sym name => .ok (.identifier name)
  | _ =>
      if isScalar value then .ok (.literal value)
      else
        rejected ("Cannot interpolate a value of type " ++ value.kindName ++ ".")
          (some ("Interpolate scalars, sym('col') references, quote('expr') fragments, " ++
            "or lists of those."))
          source

/-- The values of a set in the order of their texts, which all have to be written for it. -/
def setItems (items : List Value) : Except Fault (List Value) :=
  if Value.areWritable items then
    .ok (items.mergeSort fun a b => decide (a.printed <= b.printed))
  else .error .tooManyDigits

def sequenceItems? : Value -> Option (Except Fault (List Value))
  | .list items => some (.ok items)
  | .column items => some (.ok items)
  | .tuple items => some (.ok items)
  | .set items => some (setItems items)
  | .range start stop step => some (Value.checkedRangeItems start stop step)
  | _ => none

def literalKind (value : Value) : String :=
  match value with
  | .bool _ => "bool"
  | .int _ | .float _ _ | .decimal _ _ => "number"
  | .missing => "missing"
  | _ => value.kindName

def itemKind : Node -> String
  | .identifier _ => "column"
  | .literal value => literalKind value
  | _ => "expression"

def itemKinds (items : List Node) : List String :=
  (((items.map itemKind).filter fun kind => kind != "missing").eraseDups).mergeSort
    fun a b => decide (a <= b)

/-- A sequence where a single value belongs has to hold values of one kind. -/
def vectorOf (source : String) (items : List Node) : Outcome Node :=
  let kinds := itemKinds items
  if 1 < kinds.length || kinds.contains "expression" then
    rejected
      "A sequence interpolated where a single value is expected must hold values of one kind."
      (some ("Got kinds: " ++ Text.joined ", " kinds ++ ".")) source
  else .ok (.vector items)

def splice (source : String) (several : Bool) (value : Value) : Outcome Node :=
  match sequenceItems? value with
  | none => spliceOne source value
  | some values => do
      let values <- Outcome.ofFault values
      let items <- values.mapM (spliceOne source)
      if several then .ok (.splice items) else vectorOf source items

/-!
# Trees
-/

def flatten (items : List Node) : List Node :=
  items.flatMap fun item =>
    match item with
    | .splice inner => inner
    | _ => [item]

def singleArgumentHeads : List String := ["across"]

mutual

def resolveNode (env : Environment) (source : String) (several : Bool) : Node -> Outcome Node
  | .interpolate inner => do
      let value <- evaluate env source inner
      splice source several (value.settled (source ++ inner.unparse) [])
  | .identifier name => .ok (.identifier name)
  | .literal value => .ok (.literal value)
  | .call head args kwargs isOperator => do
      let spread := !isOperator && !singleArgumentHeads.contains head
      let args <- resolveAllNodes env source spread args
      let kwargs <- resolveNamed env source kwargs
      .ok (.call head (flatten args) kwargs isOperator)
  | .assignment target value => do
      let value <- resolveNode env source false value
      .ok (.assignment target value)
  | .pair left right => do
      let left <- resolveNode env source false left
      let right <- resolveNode env source false right
      .ok (.pair left right)
  | .range start stop => do
      let start <- resolveNode env source false start
      let stop <- resolveNode env source false stop
      .ok (.range start stop)
  | .vector items => do
      let items <- resolveAllNodes env source true items
      .ok (.vector (flatten items))
  | .tuple items => do
      let items <- resolveAllNodes env source true items
      .ok (.tuple (flatten items))
  | .splice items => do
      let items <- resolveAllNodes env source true items
      .ok (.splice (flatten items))
  | .foreign value => rejected ("Unknown syntax node " ++ value.render ++ ".") none source

def resolveAllNodes (env : Environment) (source : String) (several : Bool) :
    List Node -> Outcome (List Node)
  | [] => .ok []
  | node :: rest => do
      let node <- resolveNode env source several node
      let nodes <- resolveAllNodes env source several rest
      .ok (node :: nodes)

def resolveNamed (env : Environment) (source : String) :
    List (String × Node) -> Outcome (List (String × Node))
  | [] => .ok []
  | (name, node) :: rest => do
      let node <- resolveNode env source false node
      let nodes <- resolveNamed env source rest
      .ok ((name, node) :: nodes)

end

end Interpolation

/-!
# Fragments
-/

/-- A fragment without markers, and the row functions that it mentions. -/
structure ResolvedFragment where
  node : Node
  mentionsCount : Bool
  mentionsRowNumber : Bool
  source : String

def countFunction : String := "n"

def rowNumberFunction : String := "row_number"

namespace Interpolation

/-- Resolve a fragment; one that is a marker as a whole may become several. -/
def resolve (env : Environment) (node : Node) (source : String) :
    Outcome (List ResolvedFragment) := do
  let resolved <- resolveNode env source true node
  let make (item : Node) : ResolvedFragment :=
    { node := item
      mentionsCount := resolved.mentionsBareCall countFunction
      mentionsRowNumber := resolved.mentionsBareCall rowNumberFunction
      source := source }
  match resolved with
  | .splice items => .ok (items.map make)
  | _ => .ok [make resolved]

def resolveAll (env : Environment) (fragments : List (Node × String)) :
    Outcome (List ResolvedFragment) :=
  (fragments.mapM fun fragment => resolve env fragment.1 fragment.2).map List.flatten

end Interpolation
end Wrangle
