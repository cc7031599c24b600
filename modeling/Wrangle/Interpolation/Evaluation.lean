import Wrangle.Fragment.Printer
import Wrangle.Function.Apply

/-!
# Evaluation of markers

What stands after a marker is evaluated with the variables of the caller before
anything is known of columns.  Operators take the values as they are.
-/

namespace Wrangle

/-- The variables of the caller, and the functions that some of them stand for. -/
structure Environment where
  values : List (String × Value)
  functions : CallerFunctions

namespace Environment

def empty : Environment := { values := [], functions := CallerFunctions.empty }

def get? (env : Environment) (name : String) : Option Value :=
  env.values.lookup name

def functionNames (env : Environment) : List String :=
  (env.values.filter fun entry => entry.2.isFunction).map Prod.fst

end Environment

namespace Interpolation

def rejected (message : String) (hint : Option String) (source : String) : Outcome alpha :=
  Outcome.reject (UserError.ofKind .interpolation message hint (some source))

def lookup (env : Environment) (source name : String) : Outcome Value :=
  match env.get? name with
  | some value => .ok value
  | none =>
      match (Ambient.value? name).or (env.functions.host.value? name) with
      | some value => .ok value
      | none =>
          rejected (Text.quoted name ++ " is not defined in the calling environment.")
            (some ("Interpolated names are looked up where the verb is called; " ++
              "pass env=\x7b...\x7d to supply them."))
            source

/-!
# Operators on plain values
-/

def applyOperator (op : BinaryOperator) (a b : Value) : Except Fault Value :=
  match op with
  | .divide => a.divide b
  | .conjunction => .ok (if a.isTruthy then b else a)
  | .disjunction => .ok (if a.isTruthy then a else b)
  | .membership => (a.isIn b).map .bool
  | _ => op.applyCoerced a b

def operatorCall (op : BinaryOperator) (values : List Value) (named : List (String × Value)) :
    Except Fault Value :=
  match values, named with
  | [a, b], [] => applyOperator op a b
  | _, _ => .error .badType

def signCall (head : String) (a : Value) : Except Fault Value :=
  if head == "!" then .ok (.bool (!a.isTruthy)) else a.negate

/-- Report a failed call; errors meant for the user and the end of the program stay as they are. -/
def reported (node : Node) (source : String) (outcome : Outcome Value) : Outcome Value :=
  match outcome with
  | .error (.fault (.raised f)) => do
      let text <- Outcome.ofFault node.canonicalText?
      rejected ("Evaluating " ++ Text.quoted text ++ " failed: " ++ f.kind) none source
  | _ => outcome

/-- Put a named value in the place of an earlier one of the same name, or at the end. -/
def putNamed (named : List (String × Value)) (name : String) (value : Value) :
    List (String × Value) :=
  if named.any fun entry => entry.1 == name then
    named.map fun entry => if entry.1 == name then (name, value) else entry
  else named ++ [(name, value)]

def callValue (env : Environment) (source : String) (node : Node) (head : String)
    (isOperator : Bool) (values : List Value) (named : List (String × Value)) : Outcome Value :=
  if isOperator then
    match values with
    | [a] => Outcome.ofFault (signCall head a)
    | _ =>
        match BinaryOperator.ofSymbol? head with
        | some op => reported node source (Outcome.ofFault (operatorCall op values named))
        | none => .error (.fault Fault.missingKey)
  else do
    match <- lookup env source head with
    | .function f => reported node source (f.apply env.functions values named)
    | _ => rejected (Text.quoted head ++ " is not callable.") none source

def rangeValues (source : String) (start stop : Value) : Outcome Value :=
  match start.asInt?, stop.asInt? with
  | some a, some b =>
      (Outcome.ofFault (Value.spanOf a b)).map fun span => .list (span.map Value.int)
  | _, _ => rejected "Ranges inside an interpolation need integer bounds." none source

def noValue (source : String) (node : Node) : Outcome Value := do
  let text <- Outcome.ofFault node.canonicalText?
  rejected ("Cannot evaluate " ++ Text.quoted text ++ " inside an interpolation.")
    (some "Interpolate a name, a literal, or a call: !!x, !!(x + 1), !!f(x).") source

/-!
# Evaluation
-/

mutual

def evaluate (env : Environment) (source : String) : Node -> Outcome Value
  | .literal value => .ok value
  | .identifier name => lookup env source name
  | .interpolate inner => evaluate env source inner
  | .vector items => (evaluateAll env source items).map .list
  | .tuple items => (evaluateAll env source items).map .tuple
  | .range start stop => do
      let a <- evaluate env source start
      let b <- evaluate env source stop
      rangeValues source a b
  | .call head args kwargs isOperator => do
      let values <- evaluateAll env source args
      let named <- evaluateNamed env source [] kwargs
      callValue env source (.call head args kwargs isOperator) head isOperator values named
  | .assignment target value => noValue source (.assignment target value)
  | .pair left right => noValue source (.pair left right)
  | .splice items => noValue source (.splice items)
  | .foreign value => noValue source (.foreign value)

def evaluateAll (env : Environment) (source : String) : List Node -> Outcome (List Value)
  | [] => .ok []
  | node :: rest => do
      let value <- evaluate env source node
      let values <- evaluateAll env source rest
      .ok (value :: values)

def evaluateNamed (env : Environment) (source : String) (named : List (String × Value)) :
    List (String × Node) -> Outcome (List (String × Value))
  | [] => .ok named
  | (name, node) :: rest => do
      let value <- evaluate env source node
      evaluateNamed env source (putNamed named name value) rest

end

end Interpolation
end Wrangle
