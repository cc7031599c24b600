import Wrangle.Function.Aggregate
import Wrangle.Function.Iteration
import Wrangle.Function.Signature
import Wrangle.Number.Rounding
import Wrangle.Outcome
import Wrangle.Value.Format
import Wrangle.Value.Placement

/-!
# Kinds of values

Every value is of a kind, and some kinds are special cases of others: a truth
value is an integer, a moment is a day, and everything is an object.
-/

namespace Wrangle
namespace Kind

def ancestors (name : String) : List String :=
  let parents :=
    match name with
    | "bool" => ["int"]
    | "datetime" => ["date"]
    | "ColumnVector" => ["list"]
    | _ => []
  name :: parents ++ ["object"]

def ofValue? (value : Value) : Option String :=
  match value with
  | .function (.ambient name) =>
      if Value.functionKind (.ambient name) = "type" then some name else none
  | _ => none

mutual

/-- Whether one of some kinds is a given one or one of those, asked in order. -/
def matchesAny (given : List String) : Value -> Except Fault Bool
  | .tuple options => matchesOne given options
  | option =>
      match ofValue? option with
      | some name => .ok (given.contains name)
      | none => .error .badType

def matchesOne (given : List String) : List Value -> Except Fault Bool
  | [] => .ok false
  | option :: rest =>
      match matchesAny given option with
      | .ok false => matchesOne given rest
      | answer => answer

end

def isInstance (x options : Value) : Except Fault Value :=
  (matchesAny (ancestors x.kindName) options).map .bool

def isSubkind (x options : Value) : Except Fault Value :=
  match ofValue? x with
  | some name => (matchesAny (ancestors name) options).map .bool
  | none => .error .badType

/-- The code of a value that may be a key, as a signed number. -/
def hash (x : Value) : Except Fault Value :=
  if !x.canBeKey then .error .badType
  else
    let code := (Value.codeOf x).getD 0
    .ok (.int (if 2 * code < Value.codeLimit then code else code - (Value.codeLimit : Int)))

end Kind

/-!
# The host

The host is what runs the program.  It has more at hand than is described here,
and what it has is known only where the program runs.  It may also have ways of
its own with what is described: an iterator that ends the program when its values
are taken is an object of the host, while here it ends the program at once.
-/

/-- What a host has at hand beside what is described here: names, the calls that it answers itself
and what comes of these and of calls that are not described, and the characters that have a name. -/
structure Host where
  value? : String -> Option Value
  answers : String -> List Value -> List (String × Value) -> Bool
  run : String -> List Value -> List (String × Value) -> Outcome Value
  character? : String -> Option Char

def Host.empty : Host where
  value? := fun _ => none
  answers := fun _ _ _ => false
  run := fun _ _ _ => .error (.fault Fault.badType)
  character? := fun _ => none

/-!
# Ambient functions

Besides the library there are functions that are always at hand.  They treat
their arguments as plain values: a missing value is a value like any other, and
a text is never taken for a number.
-/

namespace Ambient

open Number

/-!
# Names
-/

def names : List String := [
  "abs", "aiter", "all", "anext", "any", "ascii", "bin", "bool", "breakpoint", "bytearray",
  "bytes", "callable", "chr", "classmethod", "compile", "complex", "copyright", "credits",
  "delattr", "dict", "dir", "divmod", "enumerate", "eval", "exec", "exit", "filter", "float",
  "format", "frozenset", "getattr", "globals", "hasattr", "hash", "help", "hex", "id", "input",
  "int", "isinstance", "issubclass", "iter", "len", "license", "list", "locals", "map", "max",
  "memoryview", "min", "next", "object", "oct", "open", "ord", "pow", "print", "property", "quit",
  "range", "repr", "reversed", "round", "set", "setattr", "slice", "sorted", "staticmethod", "str",
  "sum", "super", "tuple", "type", "vars", "zip"]

def errorNames : List String := [
  "ArithmeticError", "AssertionError", "AttributeError", "BaseException", "BaseExceptionGroup",
  "BlockingIOError", "BrokenPipeError", "BufferError", "BytesWarning", "ChildProcessError",
  "ConnectionAbortedError", "ConnectionError", "ConnectionRefusedError", "ConnectionResetError",
  "DeprecationWarning", "EOFError", "EncodingWarning", "EnvironmentError", "Exception",
  "ExceptionGroup", "FileExistsError", "FileNotFoundError", "FloatingPointError", "FutureWarning",
  "GeneratorExit", "IOError", "ImportError", "ImportWarning", "IndentationError", "IndexError",
  "InterruptedError", "IsADirectoryError", "KeyError", "KeyboardInterrupt", "LookupError",
  "MemoryError", "ModuleNotFoundError", "NameError", "NotADirectoryError", "NotImplementedError",
  "OSError", "OverflowError", "PendingDeprecationWarning", "PermissionError",
  "ProcessLookupError", "RecursionError", "ReferenceError", "ResourceWarning", "RuntimeError",
  "RuntimeWarning", "StopAsyncIteration", "StopIteration", "SyntaxError", "SyntaxWarning",
  "SystemError", "SystemExit", "TabError", "TimeoutError", "TypeError", "UnboundLocalError",
  "UnicodeDecodeError", "UnicodeEncodeError", "UnicodeError", "UnicodeTranslateError",
  "UnicodeWarning", "UserWarning", "ValueError", "Warning", "ZeroDivisionError"]

def ruledErrors : List String := [
  "AttributeError", "BaseExceptionGroup", "BlockingIOError", "BrokenPipeError",
  "ChildProcessError", "ConnectionAbortedError", "ConnectionError", "ConnectionRefusedError",
  "ConnectionResetError", "EnvironmentError", "ExceptionGroup", "FileExistsError",
  "FileNotFoundError", "IOError", "ImportError", "IndentationError", "InterruptedError",
  "IsADirectoryError", "ModuleNotFoundError", "NameError", "NotADirectoryError", "OSError",
  "PermissionError", "ProcessLookupError", "SyntaxError", "TabError", "TimeoutError",
  "UnboundLocalError", "UnicodeDecodeError", "UnicodeEncodeError", "UnicodeTranslateError"]

def hiddenValue? (name : String) : Option Value :=
  match name with
  | "None" => some .missing
  | "True" => some (.bool true)
  | "False" => some (.bool false)
  | "Ellipsis" => some (.other "ellipsis" .constant)
  | "NotImplemented" => some (.other "NotImplementedType" .constant)
  | "__debug__" => some (.bool true)
  | "__name__" => some (.str "builtins")
  | "__package__" => some (.str "")
  | "__spec__" => some (.other "ModuleSpec" .constant)
  | "__import__" | "__build_class__" | "__loader__" => some (.function (.ambient name))
  | _ => none

def function? (name : String) : Option Function :=
  if names.contains name then some (.ambient name) else none

def value? (name : String) : Option Value :=
  if names.contains name || errorNames.contains name then some (.function (.ambient name))
  else hiddenValue? name

/-!
# Numbers
-/

def basedText (mark : String) (base : Nat) (n : Int) : String :=
  (if n < 0 then "-" else "") ++ mark ++ String.ofList (Nat.toDigits base n.natAbs)

def based (mark : String) (base : Nat) (value : Value) : Except Fault Value :=
  match value.asInt? with
  | some n => .ok (.str (basedText mark base n))
  | none => .error .badType

def placesLimit : Int := Int.pow 2 63

def round (x digits : Value) : Except Fault Value :=
  match digits, digits.asInt? with
  | .missing, _ =>
      match x with
      | .float y _ => Value.integerOf (fun z => (Binary.exact z).map roundRat) y
      | .decimal d _ => Value.integerOfDecimal roundRat d
      | _ =>
          match x.asInt? with
          | some n => .ok (.int n)
          | none => .error .badType
  | _, some places =>
      match x with
      | .float y _ => (roundFloat y places).map Value.ofFloat
      | .decimal d _ =>
          if -placesLimit <= places && places < placesLimit then
            (roundDecimal d places).map Value.ofDecimal
          else .error .overflow
      | _ =>
          match x.asInt? with
          | some n => .ok (.int (roundInt n places))
          | none => .error .badType
  | _, none => .error .badType

def powerRemainder (base exponent modulus : Int) : Except Fault Value :=
  let size := modulus.natAbs
  if size = 0 then .error .badValue
  else
    let start := (base % modulus).toNat
    let root := if 0 <= exponent then some start else inverseMod? start size
    match root with
    | some root =>
        let result := powerMod root size (Nat.log2 exponent.natAbs + 1) exponent.natAbs
        .ok (.int (Int.fmod result modulus))
    | none => .error .badValue

def power (base exponent modulus : Value) : Except Fault Value :=
  match modulus with
  | .missing => base.power exponent
  | _ =>
      match base.asInt?, exponent.asInt?, modulus.asInt? with
      | some b, some e, some m => powerRemainder b e m
      | _, _, _ => .error .badType

def divideWithRest (a b : Value) : Except Fault Value := do
  let quotient <- a.floorDivide b
  let rest <- if a.isStr then .error .badType else a.modulo b
  .ok (.tuple [quotient, rest])

def digitOf (c : Char) : Nat :=
  match Text.digitValue? c with
  | some n => n
  | none => if c.isAlpha then c.toLower.toNat - 87 else 99

def dropMark (base : Nat) (cs : List Char) : List Char :=
  match cs with
  | '0' :: c :: rest =>
      if [(16, 'x'), (8, 'o'), (2, 'b')].contains (base, c.toLower) then
        if rest.head? == some '_' then rest.drop 1 else rest
      else cs
  | _ => cs

/-- The base that a numeral tells by its mark; without one it is ten. -/
def markedBase (cs : List Char) : Nat :=
  match cs with
  | '0' :: c :: _ =>
      match c.toLower with
      | 'x' => 16
      | 'o' => 8
      | 'b' => 2
      | _ => 10
  | _ => 10

/-- Whether a numeral without a mark starts with a zero, but is not zero. -/
def hasIdleZero (cs : List Char) : Bool :=
  cs.head?.any (fun c => digitOf c == 0) &&
    cs.any fun c => c != '_' && digitOf c != 0

/-- Whether a base is a power of two, for which numerals may have any length. -/
def isBinaryBase (base : Nat) : Bool :=
  [2, 4, 8, 16, 32].contains base

def withoutUnderscores? : List Char -> Option (List Char)
  | [] => some []
  | '_' :: _ => none
  | [c] => some [c]
  | [_, '_'] => none
  | c :: '_' :: d :: rest => (withoutUnderscores? (d :: rest)).map (c :: ·)
  | c :: rest => (withoutUnderscores? rest).map (c :: ·)

/-- An integer numeral in a base; for base zero the numeral tells the base. -/
def integerInBase (s : String) (base : Nat) : Except Fault Value :=
  let (negative, cs) := splitSign (Text.stripSpaces s.toList)
  let used := if base = 0 then markedBase cs else base
  match withoutUnderscores? (dropMark used cs) with
  | some digits =>
      if digits.isEmpty || digits.any (fun c => decide (used <= digitOf c)) then .error .badValue
      else if base = 0 && used = 10 && hasIdleZero cs then .error .badValue
      else if !isBinaryBase used && digitLimit < digits.length then .error .tooManyDigits
      else .ok (.int (signed negative (digits.foldl (fun n c => used * n + digitOf c) 0)))
  | none => .error .badValue

def integer (x base : Value) : Except Fault Value :=
  match base with
  | .missing => x.toInteger
  | _ =>
      match base.asInt? with
      | some b =>
          if b != 0 && (b < 2 || 36 < b) then .error .badValue
          else
            match x with
            | .str s => integerInBase s b.toNat
            | _ => .error .badType
      | none => .error .badType

def noPart : Value := .dict []

def complexPart (value : Value) : Except Fault ComplexFloat :=
  match value with
  | .complex re im _ => .ok { re := re, im := im }
  | .str _ => .error .badType
  | _ => value.toFloat.map fun x => { re := x, im := 0 }

/-- A complex number from a text, or from its parts; these may be complex as well. -/
def complexNumber (re im : Value) : Except Fault Value :=
  match re, im with
  | .dict [], .dict [] => .ok (.ofParts 0 0)
  | .str s, .dict [] =>
      match readComplex? s with
      | some (x, y) => .ok (.ofParts x y)
      | none => .error .badValue
  | _, .dict [] => (complexPart re).map fun z => .ofParts z.re z.im
  | _, _ => do
      let z <-
        match re with
        | .dict [] => .ok { re := 0, im := 0 }
        | _ => complexPart re
      let w <- complexPart im
      .ok (.ofParts (z.re - w.im) (w.re + z.im))

/-!
# Texts
-/

def character (value : Value) : Except Fault Value :=
  match value.asInt? with
  | some n =>
      if 0 <= n && n < 0x110000 then .ok (.str (String.ofList [Char.ofNat n.toNat]))
      else if n.natAbs < Nat.pow 2 31 then .error .badValue
      else .error .overflow
  | none => .error .badType

def codeOf (value : Value) : Except Fault Value :=
  match value with
  | .str s =>
      match s.toList with
      | [c] => .ok (.int c.toNat)
      | _ => .error .badType
  | _ => .error .badType

/-!
# Sequences
-/

def range (values : List Value) : Except Fault Value :=
  match values.mapM Value.asInt? with
  | some [stop] => .ok (.range 0 stop 1)
  | some [start, stop] => .ok (.range start stop 1)
  | some [start, stop, step] =>
      if step = 0 then .error .badValue else .ok (.range start stop step)
  | _ => .error .badType

def entriesOf (x : Value) : Except Fault (List (Value × Value)) :=
  match x with
  | .dict entries => .ok entries
  | _ => do
      let items <- x.iterate
      items.mapM fun item => do
        match <- item.iterate with
        | [key, value] => if key.canBeKey then .ok (key, value) else .error .badType
        | _ => .error .badValue

/-- Put an entry in the place of the one with the same key, or at the end. -/
def putEntry (entries : List (Value × Value)) (entry : Value × Value) : List (Value × Value) :=
  if entries.any fun other => entry.1.same other.1 then
    entries.map fun other => if entry.1.same other.1 then (other.1, entry.2) else other
  else entries ++ [entry]

def mapping (x : Value) (named : List (String × Value)) : Except Fault Value := do
  let entries <- entriesOf x
  let more := named.map fun entry => (Value.str entry.1, entry.2)
  .ok (.dict ((entries ++ more).foldl putEntry []))

def object (kind : String) : Value := .other kind .fresh

/-!
# Keys

Sorting and choosing extremes can go by a key that a function gives.
-/

def keyed (call : Caller) (key : Value) (items : List Value) : Outcome (List (Value × Value)) :=
  match key with
  | .missing => .ok (items.map fun item => (item, item))
  | .function f => items.mapM fun item => (call f [item]).map fun k => (k, item)
  | _ => .error (.fault Fault.badType)

def sorted (call : Caller) (x key reverse : Value) : Outcome Value := do
  let items <- Outcome.ofFault x.iterate
  let pairs <- keyed call key items
  match reverse.asInt? with
  | none => .error (.fault Fault.badType)
  | some n =>
      let result <-
        if n = 0 then Outcome.ofFault (Value.sortOn Prod.fst pairs)
        else (Outcome.ofFault (Value.sortOn Prod.fst pairs.reverse)).map List.reverse
      .ok (.list (result.map Prod.snd))

def bestPair (c : Comparison) (best : Value × Value) :
    List (Value × Value) -> Except Fault (Value × Value)
  | [] => .ok best
  | pair :: rest => do
      let better <- pair.1.compareWith c best.1
      bestPair c (if better then pair else best) rest

def extreme (call : Caller) (c : Comparison) (values : List Value)
    (named : List (String × Value)) : Outcome Value := do
  if named.any fun entry => entry.1 != "key" && entry.1 != "default" then
    .error (.fault Fault.badType)
  else do
    let fallback := named.lookup "default"
    let items <-
      match values with
      | [] => .error (.fault Fault.badType)
      | [x] => Outcome.ofFault x.iterate
      | _ => if fallback.isSome then .error (.fault Fault.badType) else .ok values
    let pairs <- keyed call ((named.lookup "key").getD .missing) items
    match pairs, fallback with
    | first :: rest, _ => (Outcome.ofFault (bestPair c first rest)).map Prod.snd
    | [], some value => .ok value
    | [], none => .error (.fault Fault.badValue)

/-!
# Application
-/

def signature? (name : String) : Option Signature :=
  match name with
  | "abs" | "all" | "any" | "ascii" | "bin" | "callable" | "chr" | "hash" | "hex" | "iter" | "len"
  | "oct" | "ord" | "repr" | "reversed" | "type" => some (.positional [.needed "x"])
  | "bool" => some (.positional [.optional "x" (.bool false)])
  | "float" => some (.positional [.optional "x" (.int 0)])
  | "list" | "tuple" | "set" | "frozenset" => some (.positional [.optional "x" (.tuple [])])
  | "str" => some (.named [.optional "object" (.str "")])
  | "divmod" | "isinstance" | "issubclass" => some (.positional [.needed "a", .needed "b"])
  | "format" => some (.positional [.needed "value", .optional "format" (.str "")])
  | "enumerate" => some (.named [.needed "iterable", .optional "start" (.int 0)])
  | "complex" => some (.named [.optional "real" noPart, .optional "imag" noPart])
  | "object" => some (.positional [])
  | "int" => some (.named [.optional "" (.int 0), .optional "base" .missing])
  | "round" => some (.named [.needed "number", .optional "ndigits" .missing])
  | "pow" => some (.named [.needed "base", .needed "exp", .optional "mod" .missing])
  | "sum" => some (.named [.needed "", .optional "start" (.int 0)])
  | "sorted" =>
      some (.named [.needed "", .optional "key" .missing, .optional "reverse" (.bool false)])
  | "exit" | "quit" => some (.named [.optional "code" .missing])
  | "range" | "print" | "next" | "slice" => some .variadic
  | _ => none

def applySimple (name : String) (values : List Value) : Except Fault Value :=
  match name, values with
  | "abs", [x] => x.magnitude
  | "all", [x] => Iteration.allTrue x
  | "any", [x] => Iteration.anyTrue x
  | "ascii", [x] => x.printed?.map fun s => .str (Template.plainText s)
  | "bin", [x] => based "0b" 2 x
  | "hex", [x] => based "0x" 16 x
  | "oct", [x] => based "0o" 8 x
  | "bool", [x] => .ok (.bool x.isTruthy)
  | "callable", [x] => .ok (.bool x.isFunction)
  | "chr", [x] => character x
  | "ord", [x] => codeOf x
  | "complex", [re, im] => complexNumber re im
  | "divmod", [a, b] => divideWithRest a b
  | "enumerate", [x, start] => Iteration.enumerate x start
  | "float", [x] => x.toFloatValue
  | "format", [x, format] => (x.formatted format).map .str
  | "hash", [x] => Kind.hash x
  | "int", [x, base] => integer x base
  | "isinstance", [x, kinds] => Kind.isInstance x kinds
  | "issubclass", [x, kinds] => Kind.isSubkind x kinds
  | "iter", [x] => Iteration.iterator x
  | "len", [x] => Aggregate.length x
  | "list", [x] => x.iterate.map .list
  | "tuple", [x] => x.iterate.map .tuple
  | "set", [x] | "frozenset", [x] => do
      let items <- x.iterate
      Value.toSet items
  | "next", [x] => Iteration.next x none
  | "next", [x, fallback] => Iteration.next x (some fallback)
  | "pow", [base, exponent, modulus] => power base exponent modulus
  | "print", values => (values.mapM Value.text?).map fun _ => .missing
  | "range", values => range values
  | "repr", [x] => x.printed?.map .str
  | "reversed", [x] => Iteration.reversed x
  | "round", [x, digits] => round x digits
  | "str", [x] => x.text?.map .str
  | "slice", [_] | "slice", [_, _] | "slice", [_, _, _] => .ok (object name)
  | "sum", [x, start] => Iteration.sum Value.add x start
  | "type", [x] => .ok (.function (.ambient x.kindName))
  | "object", [] => .ok (object "object")
  | _, _ => .error .badType

def isLeftToHost (name : String) (values : List Value) (named : List (String × Value)) : Bool :=
  match name, values with
  | "iter", [_, _] | "type", [_, _, _] => true
  | "print", _ => !named.isEmpty
  | _, _ => ruledErrors.contains name

/-- Apply a function that is at hand.  Calls that are not described here are left to the host. -/
def apply (host : Host) (call : Caller) (name : String) (values : List Value)
    (named : List (String × Value)) : Outcome Value :=
  if host.answers name values named || isLeftToHost name values named then
    host.run name values named
  else
    match name with
    | "max" => extreme call .greater values named
    | "min" => extreme call .less values named
    | "dict" =>
        match values with
        | [] => Outcome.ofFault (mapping (.tuple []) named)
        | [x] => Outcome.ofFault (mapping x named)
        | _ => .error (.fault Fault.badType)
    | "map" =>
        match values, named with
        | f :: x :: others, [] => Iteration.map call f (x :: others)
        | _, _ => .error (.fault Fault.badType)
    | "filter" =>
        match values, named with
        | [test, x], [] => Iteration.filter call test x
        | _, _ => .error (.fault Fault.badType)
    | "zip" =>
        if named.any fun entry => entry.1 != "strict" then .error (.fault Fault.badType)
        else Outcome.ofFault (Iteration.zip values (named.any fun entry => entry.2.isTruthy))
    | _ =>
        if errorNames.contains name then
          if named.isEmpty then .ok (object (kindText name)) else .error (.fault Fault.badType)
        else
          match signature? name with
          | none => host.run name values named
          | some signature => do
              let bound <- Outcome.ofFault (signature.bind values named)
              match name, bound with
              | "exit", _ | "quit", _ => .error (.fault .exit)
              | "sorted", [x, key, reverse] =>
                  if values.length = 1 then sorted call x key reverse
                  else .error (.fault Fault.badType)
              | _, _ => Outcome.ofFault (applySimple name bound)

end Ambient
end Wrangle
