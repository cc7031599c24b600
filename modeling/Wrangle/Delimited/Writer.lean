import Wrangle.Delimited.Dialect
import Wrangle.Value.Render

/-!
# Writing delimited text

Each record is written on a line of its own.  A field is quoted where its
characters would be read as something else; a record of a single empty field is
quoted, so that it can be told from an empty line.
-/

namespace Wrangle
namespace Delimited

/-!
# Fields
-/

/-- Whether a character would be read as something else than a part of a field. -/
def isSpecial (dialect : Dialect) (c : Char) : Bool :=
  c == dialect.delimiter || some c == dialect.escape || some c == dialect.quote ||
    c == '\n' || c == '\r' || dialect.terminator.toList.contains c

def isEscaped (dialect : Dialect) (c : Char) : Bool :=
  dialect.quoting == .never ||
    (if some c == dialect.quote then !dialect.doublesQuotes else some c == dialect.escape)

def needsQuotes (dialect : Dialect) (field : List Char) : Bool :=
  field.any fun c => isSpecial dialect c && !isEscaped dialect c

def writeChar (dialect : Dialect) (c : Char) : Except Fault (List Char) :=
  if isSpecial dialect c then
    if isEscaped dialect c then
      match dialect.escape with
      | some e => .ok [e, c]
      | none => .error .malformedRow
    else if some c == dialect.quote then .ok [c, c]
    else .ok [c]
  else .ok [c]

def quoteMark (dialect : Dialect) : List Char :=
  dialect.quote.toList

def writeField (dialect : Dialect) (quoted : Bool) (field : List Char) :
    Except Fault (List Char) := do
  let written <- field.mapM (writeChar dialect)
  let inner := written.flatten
  if quoted || needsQuotes dialect field then
    .ok (quoteMark dialect ++ inner ++ quoteMark dialect)
  else .ok inner

/-!
# Records
-/

def isNumeric : Value -> Bool
  | .bool _ => true
  | .int _ => true
  | .float _ _ => true
  | .complex _ _ _ => true
  | .decimal _ _ => true
  | _ => false

def alwaysQuoted (dialect : Dialect) (value : Value) : Bool :=
  match dialect.quoting with
  | .always => true
  | .exceptNumbers => !isNumeric value
  | _ => false

/-- The text of a cell, if it can be written out; a missing value has none. -/
def fieldText (value : Value) : Except Fault (List Char) :=
  match value with
  | .missing => .ok []
  | _ => value.text?.map String.toList

/-- Whether a field would be lost: there is nothing of it, and blanks between fields are skipped. -/
def isLost (dialect : Dialect) (field : List Char) : Bool :=
  field.isEmpty && dialect.delimiter == ' ' && dialect.skipsBlanks

def writeValue (dialect : Dialect) (value : Value) : Except Fault (List Char) := do
  let field <- fieldText value
  if isLost dialect field then
    if dialect.quoting == .never then .error .malformedRow else writeField dialect true field
  else writeField dialect (alwaysQuoted dialect value) field

def delimited (dialect : Dialect) (fields : List (List Char)) : List Char :=
  [dialect.delimiter].intercalate fields

def writeRecord (dialect : Dialect) (cells : List Value) : Except Fault (List Char) := do
  let fields <- cells.mapM (writeValue dialect)
  let line := delimited dialect fields
  if line.isEmpty && !cells.isEmpty then
    if dialect.quoting == .never then .error .malformedRow
    else .ok (quoteMark dialect ++ quoteMark dialect ++ dialect.terminator.toList)
  else .ok (line ++ dialect.terminator.toList)

def writtenBefore (dialect : Dialect) : List (List Value) -> List Char
  | [] => []
  | cells :: rest =>
      match writeRecord dialect cells with
      | .ok line => line ++ writtenBefore dialect rest
      | .error _ => []

def write (dialect : Dialect) (records : List (List Value)) : Except Fault String :=
  (records.mapM (writeRecord dialect)).map fun lines => String.ofList lines.flatten

end Delimited
end Wrangle
