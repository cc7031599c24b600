import Wrangle.Function.Aggregate
import Wrangle.Function.Ambient
import Wrangle.Function.Conversion
import Wrangle.Function.Operator
import Wrangle.Function.Signature
import Wrangle.Function.Window
import Wrangle.Pattern.Match
import Wrangle.Pattern.Parser

/-!
# Application of functions

Functions of the library, operators, ambient functions and functions that the
caller brings along are all applied in the same way.
-/

namespace Wrangle

/-!
# Functions of the caller
-/

structure CallerFunction where
  handlesMissing : Bool
  isRowAligned : Bool
  run : List Value -> List (String × Value) -> Outcome Value

/-- The functions that the caller brings along, by name, and the host that they meet. -/
structure CallerFunctions where
  brought : List (String × CallerFunction)
  host : Host

namespace CallerFunctions

def empty : CallerFunctions := { brought := [], host := Host.empty }

instance : Coe (List (String × CallerFunction)) CallerFunctions :=
  ⟨fun brought => { brought := brought, host := Host.empty }⟩

instance : CoeDep (List alpha) [] CallerFunctions := ⟨empty⟩

def lookup (callers : CallerFunctions) (name : String) : Option CallerFunction :=
  callers.brought.lookup name

/-- What a function from outside does: one that the caller brings along, or one of the host. -/
def Offers (callers : CallerFunctions)
    (run : List Value -> List (String × Value) -> Outcome Value) : Prop :=
  (exists name f, callers.lookup name = some f ∧ f.run = run) ∨
    exists name, callers.host.run name = run

end CallerFunctions

namespace Function

def handlesMissing (callers : CallerFunctions) : Function -> Bool
  | library f => f.handlesMissing
  | binary op => op.handlesMissing
  | caller name => (callers.lookup name).any CallerFunction.handlesMissing
  | _ => false

def isRowAligned (callers : CallerFunctions) : Function -> Bool
  | library f => f.isRowAligned
  | caller name => (callers.lookup name).any CallerFunction.isRowAligned
  | _ => false

end Function

/-!
# The library
-/

def detect (character? : String -> Option Char) (x pattern : Value) : Except Fault Value :=
  match pattern with
  | .str source => do
      let p <- Pattern.ofText source character?
      match x with
      | .str s => .ok (.bool (p.occursIn s))
      | _ => .error .badType
  | _ => .error .badType

def accumulated (call : Caller) (f : Value) : List Value -> Outcome (List Value)
  | [] => .ok []
  | first :: rest => (results first rest).map (first :: ·)
where
  results (current : Value) : List Value -> Outcome (List Value)
    | [] => .ok []
    | value :: rest => do
        match f with
        | .function g => do
            let next <- call g [current, value]
            (results next rest).map (next :: ·)
        | _ => .error (.fault Fault.badType)

namespace LibraryFunction

def applyBound (f : LibraryFunction) (values : List Value) : Except Fault Value :=
  match f, values with
  | isMissing, [x] => .ok (.bool x.isMissing)
  | coalesce, xs => .ok (Aggregate.coalesce xs)
  | skipMissing, [x] => Aggregate.skipMissing x
  | mean, [x] => Aggregate.mean x
  | median, [x] => Aggregate.median x
  | variance, [x] => Aggregate.variance x
  | deviation, [x] => Aggregate.deviation x
  | quantile, [x, p] => Aggregate.quantile x p
  | total, [x] => Aggregate.total x
  | minimum, [x] => Aggregate.minimum x
  | maximum, [x] => Aggregate.maximum x
  | length, [x] => Aggregate.length x
  | first, [x] => Aggregate.first x
  | last, [x] => Aggregate.last x
  | nth, [x, i] => Aggregate.nth x i
  | distinctCount, [x] => Aggregate.distinctCount x
  | combine, xs => .ok (Aggregate.combine xs)
  | replicate, [x, times] => Aggregate.replicate x times
  | lag, [x, k, blank] => Window.lag x k blank
  | lead, [x, k, blank] => Window.lead x k blank
  | cumulativeSum, [x] => Window.cumulativeSum x
  | cumulativeProduct, [x] => Window.cumulativeProduct x
  | minRank, [x] => Window.minRank x
  | denseRank, [x] => Window.denseRank x
  | percentRank, [x] => Window.percentRank x
  | ntile, [x, n] => Window.ntile x n
  | asFloat, [x] => Conversion.asFloat x
  | asInteger, [x] => Conversion.asInteger x
  | asString, [x] => Conversion.asString x
  | isFloat, [x] => .ok (.bool (Conversion.isFloat x))
  | isInteger, [x] => .ok (.bool (Conversion.isInteger x))
  | isString, [x] => .ok (.bool x.isStr)
  | isBool, [x] => .ok (.bool (Conversion.isBool x))
  | squareRoot, [x] => Conversion.squareRoot x
  | exponential, [x] => Conversion.exponential x
  | logarithm, [x, base] => Conversion.logarithm x base
  | logarithmTen, [x] => Conversion.logarithmTen x
  | floor, [x] => x.floor
  | ceiling, [x] => x.ceiling
  | lowercase, [x] => Conversion.lowercase x
  | uppercase, [x] => Conversion.uppercase x
  | strip, [x, chars] => Conversion.strip x chars
  | _, _ => .error .badType

def apply (host : Host) (call : Caller) (f : LibraryFunction) (values : List Value)
    (named : List (String × Value)) : Outcome Value := do
  let bound <- Outcome.ofFault (f.signature.bind values named)
  match f, bound with
  | accumulate, [g, x] => do
      let items <- Outcome.ofFault x.iterate
      (accumulated call g items).map .list
  | detect, [x, pattern] => Outcome.ofFault (Wrangle.detect host.character? x pattern)
  | _, _ => Outcome.ofFault (f.applyBound bound)

end LibraryFunction

/-!
# All functions
-/

namespace Function

def applyBinary (op : BinaryOperator) (values : List Value) (named : List (String × Value)) :
    Except Fault Value := do
  match <- op.signature.bind values named with
  | [a, b] => op.apply a b
  | _ => .error .badType

def applyUnary (op : UnaryOperator) (values : List Value) (named : List (String × Value)) :
    Except Fault Value := do
  match <- op.signature.bind values named with
  | [a] => op.apply a
  | _ => .error .badType

/-- The bound of a span: the first value of a list stands for the list. -/
def spanBound (value : Value) : Except Fault Int := do
  let single :=
    match value.asList? with
    | some items => items.head?.getD .missing
    | none => value
  match <- single.toInteger with
  | .int n => .ok n
  | _ => .error .badType

def applySpan (values : List Value) : Except Fault Value :=
  match values with
  | [start, stop] => do
      let first <- spanBound start
      let last <- spanBound stop
      let span <- Value.spanOf first last
      .ok (.list (span.map Value.int))
  | _ => .error .badType

def applyWithin (callers : CallerFunctions) :
    Nat -> Function -> List Value -> List (String × Value) -> Outcome Value
  | 0, _, _, _ => .error (.fault Fault.aborted)
  | depth + 1, f, values, named =>
      let call : Caller := fun g args => applyWithin callers depth g args []
      match f with
      | library f => f.apply callers.host call values named
      | binary op => Outcome.ofFault (applyBinary op values named)
      | unary op => Outcome.ofFault (applyUnary op values named)
      | span => Outcome.ofFault (applySpan values)
      | ambient name => Ambient.apply callers.host call name values named
      | caller name =>
          match callers.lookup name with
          | some f => f.run values named
          | none => .error (.fault Fault.badType)

def depthLimit : Nat := 1000

def apply (callers : CallerFunctions) (f : Function) (values : List Value)
    (named : List (String × Value)) : Outcome Value :=
  f.applyWithin callers depthLimit values named

end Function

end Wrangle
