import Wrangle.Value.Arithmetic

/-!
# Texts that stand for numbers

A text that looks like a number takes part in arithmetic and comparison with
numbers; between two texts nothing is converted.
-/

namespace Wrangle
namespace Value

open Number

def looksNumeric : Value -> Bool
  | int _ => true
  | float _ _ => true
  | str s => (readFloat? (Text.strip s)).isSome
  | _ => false

def toNumber : Value -> Except Fault Value
  | str s =>
      let text := Text.strip s
      match readInt? text with
      | some n => .ok (int n)
      | none =>
          match readFloat? text with
          | some x => .ok (ofFloat x)
          | none => .error .badValue
  | value => .ok value

/-- Convert the text of a pair to a number, if the other value is a number. -/
def coercePair (a b : Value) : Except Fault (Value × Value) :=
  if a.isStr != b.isStr && a.looksNumeric && b.looksNumeric then do
    let x <- a.toNumber
    let y <- b.toNumber
    .ok (x, y)
  else .ok (a, b)

def numbers? (x : Value) : Except Fault (Option (List Value)) := do
  let items <- x.iterate
  if items.any isMissing then .ok none
  else (items.mapM toNumber).map some

end Value
end Wrangle
