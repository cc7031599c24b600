import Wrangle.Function.Signature
import Wrangle.Pattern.Match
import Wrangle.Pattern.Parser
import Wrangle.Text.Layout

/-!
# Tests of column names

A selection helper makes a test of column names; the columns whose names pass
are selected.
-/

namespace Wrangle

inductive NameTest where
  | startsWith (part : Value)
  | endsWith (part : Value)
  | matchesPattern (pattern : Pattern)
  | contains (part : Value)
  | everything

namespace SelectionHelper

def signature : SelectionHelper -> Signature
  | startsWith => .unary "prefix"
  | endsWith => .unary "suffix"
  | matchesPattern => .unary "pattern"
  | contains => .unary "text"
  | everything => .named []

def test (helper : SelectionHelper) (values : List Value) (named : List (String × Value))
    (character? : String -> Option Char := fun _ => none) : Except Fault NameTest := do
  match helper, <- helper.signature.bind values named with
  | startsWith, [part] => .ok (.startsWith part)
  | endsWith, [part] => .ok (.endsWith part)
  | matchesPattern, [.str source] => (Pattern.ofText source character?).map .matchesPattern
  | contains, [part] => .ok (.contains part)
  | everything, [] => .ok .everything
  | _, _ => .error .badType

end SelectionHelper

namespace NameTest

/-- Whether one of several parts passes; the parts have to be texts up to that one. -/
def anyPart (passes : String -> Bool) : List Value -> Except Fault Bool
  | [] => .ok false
  | .str part :: rest => if passes part then .ok true else anyPart passes rest
  | _ :: _ => .error .badType

def ofPart (passes : String -> Bool) : Value -> Except Fault Bool
  | .str part => .ok (passes part)
  | .tuple parts => anyPart passes parts
  | _ => .error .badType

def holds (test : NameTest) (name : String) : Except Fault Bool :=
  match test with
  | startsWith part => ofPart (fun p => p.toList.isPrefixOf name.toList) part
  | endsWith part => ofPart (fun p => p.toList.isSuffixOf name.toList) part
  | matchesPattern pattern => .ok (pattern.occursIn name)
  | contains (.str part) => .ok (Text.occursIn part.toList name.toList)
  | contains _ => .error .badType
  | everything => .ok true

end NameTest
end Wrangle
