import Wrangle.Function.Name
import Wrangle.Outcome
import Wrangle.Value.Basic

/-!
# Signatures

The values of a call are matched with the parameters of a function by position
first and by name afterwards; parameters left over take their default values.
-/

namespace Wrangle

structure Parameter where
  name : String
  fallback : Option Value

/-- The parameters of a function; some functions take any number of further values. -/
structure Signature where
  parameters : List Parameter
  takesMore : Bool
  positionalOnly : Bool

namespace Parameter

def needed (name : String) : Parameter :=
  { name := name, fallback := none }

def optional (name : String) (value : Value) : Parameter :=
  { name := name, fallback := some value }

/-- The value that a call gives to a parameter by name, or the one it has anyway. -/
def fill (named : List (String × Value)) (parameter : Parameter) : Except Fault Value :=
  match named.lookup parameter.name with
  | some value => .ok value
  | none =>
      match parameter.fallback with
      | some value => .ok value
      | none => .error .badType

end Parameter

namespace Signature

def named (parameters : List Parameter) : Signature :=
  { parameters := parameters, takesMore := false, positionalOnly := false }

def positional (parameters : List Parameter) : Signature :=
  { parameters := parameters, takesMore := false, positionalOnly := true }

def variadic : Signature :=
  { parameters := [], takesMore := true, positionalOnly := true }

def unary (name : String) : Signature := named [.needed name]

def binary (first second : String) : Signature := named [.needed first, .needed second]

def accepts (signature : Signature) (given : Nat) (named : List (String × Value)) : Bool :=
  (signature.takesMore || decide (given <= signature.parameters.length)) &&
    (named.isEmpty || !signature.positionalOnly) &&
    named.all fun entry =>
      (signature.parameters.drop given).any fun parameter => parameter.name == entry.1

def bind (signature : Signature) (values : List Value) (named : List (String × Value)) :
    Except Fault (List Value) :=
  if signature.accepts values.length named then
    ((signature.parameters.drop values.length).mapM (Parameter.fill named)).map (values ++ ·)
  else .error .badType

end Signature

/-!
# The library
-/

namespace LibraryFunction

def signature : LibraryFunction -> Signature
  | coalesce | combine => .variadic
  | quantile => .binary "x" "p"
  | nth => .binary "x" "i"
  | replicate => .binary "x" "times"
  | lag | lead =>
      .named [.needed "x", .optional "k" (.int 1), .optional "default" .missing]
  | accumulate => .binary "fn" "x"
  | ntile => .binary "x" "n"
  | detect => .binary "x" "pattern"
  | squareRoot | exponential | logarithmTen | floor | ceiling | lowercase | uppercase =>
      .positional [.needed "x"]
  | strip => .positional [.needed "x", .optional "chars" .missing]
  | logarithm => .named [.needed "x", .optional "base" .missing]
  | _ => .unary "x"

end LibraryFunction

def BinaryOperator.signature : BinaryOperator -> Signature :=
  fun _ => .binary "a" "b"

def UnaryOperator.signature : UnaryOperator -> Signature :=
  fun _ => .unary "a"

end Wrangle
