import Wrangle.Fragment.Parser
import Wrangle.Number.FloatText

/-!
# Text of values

A value has two texts: the one that messages and rendered plans show, in which
strings are quoted, and the one that its conversion to a string gives.
-/

namespace Wrangle

open Text Number

def functionText : String := "<callable>"

def kindText (name : String) : String :=
  if name = "Decimal" then "decimal.Decimal"
  else if ["date", "datetime", "time", "timedelta"].contains name then "datetime." ++ name
  else if name = "IOError" || name = "EnvironmentError" then "OSError"
  else name

/-- The text of a function as a value; one that is known by its address has that of messages. -/
def printedFunction (f : Function) : String :=
  let builtIn (name : String) := "<built-in function " ++ name ++ ">"
  let method (name : String) := "<method " ++ Text.quoted name ++ " of 'str' objects>"
  match f with
  | .library .squareRoot => builtIn "sqrt"
  | .library .exponential => builtIn "exp"
  | .library .logarithmTen => builtIn "log10"
  | .library .floor => builtIn "floor"
  | .library .ceiling => builtIn "ceil"
  | .library .lowercase => method "lower"
  | .library .uppercase => method "upper"
  | .library .strip => method "strip"
  | .ambient name =>
      match Value.functionKind f with
      | "type" => "<class " ++ Text.quoted (kindText name) ++ ">"
      | "builtin_function_or_method" => builtIn name
      | _ => functionText
  | _ => functionText

/-!
# Simple values
-/

namespace Value

/-- The text of a value that holds no others, with functions shown in a given way. -/
def simpleText (functions : Function -> String) : Value -> String
  | missing => "None"
  | bool b => if b then "True" else "False"
  | int n => toString n
  | float x _ => floatText x
  | complex re im _ => complexText re im
  | str s => Text.quoted s
  | decimal d _ => "Decimal('" ++ d.text ++ "')"
  | date d => d.render
  | datetime t => t.render
  | time t => t.render
  | duration d => d.render
  | range start stop step =>
      "range(" ++ toString start ++ ", " ++ toString stop ++
        (if step = 1 then "" else ", " ++ toString step) ++ ")"
  | function f => functions f
  | sym name => "Sym(name=" ++ Text.quoted name ++ ")"
  | iterator kind _ _ _ => "<" ++ kind ++ ">"
  | other kind _ => "<" ++ kind ++ ">"
  | _ => ""

def renderSimple (value : Value) : String :=
  simpleText (fun _ => functionText) value

end Value

/-- Items between brackets; a single item of a tuple is followed by a comma. -/
def tupleText (texts : List String) : String :=
  match texts with
  | [text] => "(" ++ text ++ ",)"
  | texts => "(" ++ joined ", " texts ++ ")"

/-!
# Trees of quoted fragments
-/

namespace Node

def boolText (b : Bool) : String :=
  if b then "True" else "False"

mutual

def describe : Node -> String
  | identifier name => "Identifier(name=" ++ Text.quoted name ++ ")"
  | literal value => "Literal(value=" ++ value.renderSimple ++ ")"
  | call head args kwargs isOperator =>
      "Call(head=" ++ Text.quoted head ++ ", args=" ++ tupleText (describeAll args) ++
        ", kwargs=" ++ tupleText (describeNamed kwargs) ++
        (", " ++ "infix=" ++ boolText isOperator ++ ")")
  | assignment target value =>
      "Assignment(target=" ++ Text.quoted target ++ ", value=" ++ describe value ++ ")"
  | pair left right => "Pair(left=" ++ describe left ++ ", right=" ++ describe right ++ ")"
  | range start stop => "Range(start=" ++ describe start ++ ", stop=" ++ describe stop ++ ")"
  | vector items => "VectorForm(items=" ++ tupleText (describeAll items) ++ ")"
  | tuple items => "TupleForm(items=" ++ tupleText (describeAll items) ++ ")"
  | interpolate inner => "Interpolate(inner=" ++ describe inner ++ ")"
  | splice items => "Splice(items=" ++ tupleText (describeAll items) ++ ")"
  | foreign value => value.renderSimple

def describeAll : List Node -> List String
  | [] => []
  | node :: rest => describe node :: describeAll rest

def describeNamed : List (String × Node) -> List String
  | [] => []
  | (name, node) :: rest =>
      ("(" ++ Text.quoted name ++ ", " ++ describe node ++ ")") :: describeNamed rest

end

end Node

def quotedFragmentText (source : String) : String :=
  let tree :=
    match parse true source with
    | .ok node => node.describe
    | .error _ => ""
  "Quoted(node=" ++ tree ++ ", source=" ++ Text.quoted source ++ ")"

/-!
# All values
-/

namespace Value

mutual

def fullText (functions : Function -> String) : Value -> String
  | list items => "[" ++ joined ", " (fullTexts functions items) ++ "]"
  | column items => "[" ++ joined ", " (fullTexts functions items) ++ "]"
  | tuple items => tupleText (fullTexts functions items)
  | set items =>
      if items.isEmpty then "set()"
      else "\x7b" ++ joined ", " (fullTexts functions items) ++ "\x7d"
  | dict entries => "\x7b" ++ joined ", " (entryTexts functions entries) ++ "\x7d"
  | quoted source => quotedFragmentText source
  | value => value.simpleText functions

def fullTexts (functions : Function -> String) : List Value -> List String
  | [] => []
  | value :: rest => fullText functions value :: fullTexts functions rest

def entryTexts (functions : Function -> String) : List (Value × Value) -> List String
  | [] => []
  | (key, value) :: rest =>
      (fullText functions key ++ ": " ++ fullText functions value) :: entryTexts functions rest

end

def render (value : Value) : String :=
  fullText (fun _ => functionText) value

def printed (value : Value) : String :=
  fullText printedFunction value

mutual

/-- Whether all integers in a value can be written; some have too many digits. -/
def isWritable : Value -> Bool
  | int n => !isTooLong n
  | list items => areWritable items
  | column items => areWritable items
  | tuple items => areWritable items
  | set items => areWritable items
  | dict entries => entriesAreWritable entries
  | range start stop step => !(isTooLong start || isTooLong stop || isTooLong step)
  | _ => true

def areWritable : List Value -> Bool
  | [] => true
  | value :: rest => isWritable value && areWritable rest

def entriesAreWritable : List (Value × Value) -> Bool
  | [] => true
  | (key, value) :: rest => isWritable key && isWritable value && entriesAreWritable rest

end

def text : Value -> String
  | str s => s
  | decimal d _ => d.text
  | date d => d.text
  | datetime t => t.textWith " "
  | time t => t.text
  | duration d => d.text
  | quoted source => source
  | value => value.printed

def render? (value : Value) : Except Fault String :=
  if value.isWritable then .ok value.render else .error .tooManyDigits

/-- The text of a value as it is written out, where that is possible. -/
def printed? (value : Value) : Except Fault String :=
  if value.isWritable then .ok value.printed else .error .tooManyDigits

def text? (value : Value) : Except Fault String :=
  if value.isWritable then .ok value.text else .error .tooManyDigits

end Value

def parseValue (allowAssignment : Bool) : Value -> Outcome Node
  | .str source => parse allowAssignment source
  | value => Outcome.reject (blankFragment value.printed)

end Wrangle
