import Wrangle.Calendar
import Wrangle.Function.Name
import Wrangle.Number.Decimal
import Wrangle.Outcome

/-!
# Origins

An undefined number is not equal to any number, and an object without a value is
equal to no other.  Inside containers and among keys, each of them is still the
same as itself.  Its origin tells whether two of them are one: it was made by a
computation and stands alone, it is a constant of the library, or it has a
number.

A single value that is repeated is numbered by a digest of what it was computed
from, so that all of its copies stay one.
-/

namespace Wrangle

inductive Origin where
  | fresh
  | constant
  | numbered (n : Nat)
  deriving DecidableEq, Repr

namespace Origin

def isShared : Origin -> Origin -> Bool
  | constant, constant => true
  | numbered m, numbered n => m == n
  | _, _ => false

def withNumber (n : Nat) : Origin -> Origin
  | fresh => numbered n
  | origin => origin

end Origin

/-!
# Digests
-/

namespace Digest

def push (digest n : Nat) : Nat :=
  (digest * 1000003 + n + 1) % 2305843009213693951

def pushText (digest : Nat) (s : String) : Nat :=
  s.toList.foldl (fun digest c => push digest c.toNat) digest

def pushOrigin (digest : Nat) : Origin -> Nat
  | .fresh => push digest 0
  | .constant => push digest 1
  | .numbered n => push digest (n + 2)

end Digest

/-!
# Values

The values of cells, of literals and of the caller's variables.  A column is a
list that has one value for each row; it behaves as a list everywhere but where
an expression asks for row-aligned values.

A quoted fragment is kept as its text: what it stands for is the tree that the
text parses to.

An iterator holds the values that it is going to give, and the fault that ends it
early, if there is one.

Numbers that may be undefined and objects without a value have an origin, which
matters only for those that are not equal to themselves.
-/

open Number

inductive Value where
  | missing
  | bool (b : Bool)
  | int (n : Int)
  | float (x : Float) (origin : Origin)
  | complex (re im : Float) (origin : Origin)
  | str (s : String)
  | decimal (d : Decimal) (origin : Origin)
  | date (d : Date)
  | datetime (t : DateTime)
  | time (t : TimeOfDay)
  | duration (d : Duration)
  | list (items : List Value)
  | column (items : List Value)
  | tuple (items : List Value)
  | set (items : List Value)
  | dict (entries : List (Value × Value))
  | range (start stop step : Int)
  | function (f : Function)
  | sym (name : String)
  | quoted (source : String)
  | iterator (kind : String) (items : List Value) (stop : Option Fault) (origin : Origin)
  | other (kind : String) (origin : Origin)
  deriving Repr, BEq

namespace Value

instance : Inhabited Value := ⟨missing⟩

def ofFloat (x : Float) : Value := float x .fresh

def ofDecimal (d : Decimal) : Value := decimal d .fresh

def ofParts (re im : Float) : Value := complex re im .fresh

def undefinedNumber : Value := float Binary.undefined .constant

/-!
# Kinds
-/

def isMissing : Value -> Bool
  | missing => true
  | _ => false

def isStr : Value -> Bool
  | str _ => true
  | _ => false

def isFunction : Value -> Bool
  | function _ => true
  | _ => false

def plainFunctions : List String := [
  "__build_class__", "__import__", "abs", "aiter", "all", "anext", "any", "ascii", "bin",
  "breakpoint", "callable", "chr", "compile", "delattr", "dir", "divmod", "eval", "exec", "format",
  "getattr", "globals", "hasattr", "hash", "hex", "id", "input", "isinstance", "issubclass",
  "iter", "len", "locals", "max", "min", "next", "oct", "open", "ord", "pow", "print", "repr",
  "round", "setattr", "sorted", "sum", "vars"]

/-- The name of the kind of a function; every kind of values is a function as well. -/
def functionKind : Function -> String
  | .library .squareRoot | .library .exponential | .library .logarithmTen
  | .library .floor | .library .ceiling => "builtin_function_or_method"
  | .library .lowercase | .library .uppercase | .library .strip => "method_descriptor"
  | .ambient name =>
      if plainFunctions.contains name then "builtin_function_or_method"
      else if ["copyright", "credits", "license"].contains name then "_Printer"
      else if ["exit", "quit"].contains name then "Quitter"
      else if name = "help" then "_Helper"
      else "type"
  | _ => "function"

def kindName : Value -> String
  | missing => "NoneType"
  | bool _ => "bool"
  | int _ => "int"
  | float _ _ => "float"
  | complex _ _ _ => "complex"
  | str _ => "str"
  | decimal _ _ => "Decimal"
  | date _ => "date"
  | datetime _ => "datetime"
  | time _ => "time"
  | duration _ => "timedelta"
  | list _ => "list"
  | column _ => "ColumnVector"
  | tuple _ => "tuple"
  | set _ => "set"
  | dict _ => "dict"
  | range _ _ _ => "range"
  | function f => functionKind f
  | sym _ => "Sym"
  | quoted _ => "Quoted"
  | iterator kind _ _ _ => kind
  | other kind _ => kind

/-!
# Truth
-/

def rangeSize (start stop step : Int) : Nat :=
  if 0 < step then ((stop - start + step - 1) / step).toNat
  else if step < 0 then ((start - stop - step - 1) / (-step)).toNat
  else 0

/-- Whether a value counts as true: numbers but zero, and containers but the empty ones. -/
def isTruthy : Value -> Bool
  | missing => false
  | bool b => b
  | int n => n != 0
  | float x _ => x != 0
  | complex re im _ => re != 0 || im != 0
  | str s => !s.isEmpty
  | decimal d _ => !d.isZero
  | duration d => d.microseconds != 0
  | list items => !items.isEmpty
  | column items => !items.isEmpty
  | tuple items => !items.isEmpty
  | set items => !items.isEmpty
  | dict entries => !entries.isEmpty
  | range start stop step => rangeSize start stop step != 0
  | _ => true

def isTruthValue : Value -> Bool
  | missing => true
  | bool _ => true
  | _ => false

def asBool? : Value -> Option Bool
  | bool b => some b
  | _ => none

def asInt? : Value -> Option Int
  | int n => some n
  | bool b => some (if b then 1 else 0)
  | _ => none

def asStr? : Value -> Option String
  | str s => some s
  | _ => none

def asList? : Value -> Option (List Value)
  | list items => some items
  | column items => some items
  | _ => none

def asItems? : Value -> Option (List Value)
  | list items => some items
  | column items => some items
  | tuple items => some items
  | _ => none

end Value
end Wrangle
