import Wrangle.Delimited.Dialect
import Wrangle.Number.Numeral

/-!
# Reading delimited text

The text is taken line by line.  A record ends with its line, unless a quoted
field goes on in the next one.  An empty line is a record without fields.
-/

namespace Wrangle
namespace Delimited

/-!
# Lines
-/

/-- Split a text after its line ends; a carriage return and a line feed are one. -/
def linesFrom (line : List Char) : List Char -> List (List Char)
  | [] => if line.isEmpty then [] else [line.reverse]
  | '\r' :: '\n' :: rest => ('\n' :: '\r' :: line).reverse :: linesFrom [] rest
  | c :: rest =>
      if c == '\r' || c == '\n' then (c :: line).reverse :: linesFrom [] rest
      else linesFrom (c :: line) rest

def linesOf (text : List Char) : List (List Char) :=
  linesFrom [] text

/-!
# States
-/

/-- Where the reader is. -/
inductive Place where
  | recordStart
  | fieldStart
  | inField
  | inQuotes
  | afterQuote
  | escaped
  | escapedInQuotes
  | afterEscapedBreak
  | lineEnd
  deriving DecidableEq, Repr

/-- The fields of a record so far, and the field that is being read, both backwards. -/
structure Progress where
  place : Place
  field : List Char
  isNumber : Bool
  fields : List Value

namespace Progress

def start : Progress :=
  { place := .recordStart, field := [], isNumber := false, fields := [] }

def record (progress : Progress) : List Value :=
  progress.fields.reverse

def add (progress : Progress) (c : Char) (place : Place) : Progress :=
  { progress with field := c :: progress.field, place := place }

def move (progress : Progress) (place : Place) : Progress :=
  { progress with place := place }

def fieldLimit : Nat := 131072

/-- End a field, unless it is too long; one that has to be a number is read as such. -/
def save (progress : Progress) (place : Place) : Except Fault Progress :=
  let text := String.ofList progress.field.reverse
  let done (value : Value) : Progress :=
    { place := place, field := [], isNumber := false, fields := value :: progress.fields }
  if fieldLimit < progress.field.length then .error .malformedRow
  else if progress.isNumber then
    match Number.readFloat? text with
    | some x => .ok (done (.ofFloat x))
    | none => .error .badValue
  else .ok (done (.str text))

end Progress

/-!
# Characters
-/

def isBreak (c : Option Char) : Bool :=
  c == some '\r' || c == some '\n' || c == none

def endPlace (c : Option Char) : Place :=
  if c == none then .recordStart else .lineEnd

def opensQuotes (dialect : Dialect) (c : Char) : Bool :=
  some c == dialect.quote && dialect.quoting != .never

def readStart (dialect : Dialect) (progress : Progress) (c : Char) : Except Fault Progress :=
  if opensQuotes dialect c then .ok (progress.move .inQuotes)
  else if some c == dialect.escape then .ok (progress.move .escaped)
  else if c == ' ' && dialect.skipsBlanks then .ok (progress.move .fieldStart)
  else if c == dialect.delimiter then progress.save .fieldStart
  else
    let number := progress.isNumber || dialect.quoting == .exceptNumbers
    .ok { progress.add c .inField with isNumber := number }

/-- Read a character of a field without quotes.  After an escaped line break the field goes on,
and lines do not end it until something else does. -/
def readPlain (dialect : Dialect) (progress : Progress) (c : Char) : Except Fault Progress :=
  if some c == dialect.escape then .ok (progress.move .escaped)
  else if c == dialect.delimiter then progress.save .fieldStart
  else .ok (progress.add c progress.place)

def readQuoted (dialect : Dialect) (progress : Progress) (c : Char) : Progress :=
  if some c == dialect.escape then progress.move .escapedInQuotes
  else if opensQuotes dialect c then
    progress.move (if dialect.doublesQuotes then .afterQuote else .inField)
  else progress.add c .inQuotes

def readAfterQuote (dialect : Dialect) (progress : Progress) (c : Char) :
    Except Fault Progress :=
  if opensQuotes dialect c then .ok (progress.add c .inQuotes)
  else if c == dialect.delimiter then progress.save .fieldStart
  else if dialect.strict then .error .malformedRow
  else .ok (progress.add c .inField)

def step (dialect : Dialect) (progress : Progress) (c : Option Char) : Except Fault Progress :=
  match progress.place, c with
  | .recordStart, none => .ok progress
  | .recordStart, some c =>
      if isBreak (some c) then .ok (progress.move .lineEnd) else readStart dialect progress c
  | .fieldStart, c =>
      if isBreak c then progress.save (endPlace c)
      else readStart dialect progress (c.getD ' ')
  | .inField, c =>
      if isBreak c then progress.save (endPlace c)
      else readPlain dialect progress (c.getD ' ')
  | .afterEscapedBreak, none => .ok progress
  | .afterEscapedBreak, some c =>
      if isBreak (some c) then progress.save (endPlace (some c))
      else readPlain dialect progress c
  | .inQuotes, none => .ok progress
  | .inQuotes, some c => .ok (readQuoted dialect progress c)
  | .afterQuote, none => progress.save .recordStart
  | .afterQuote, some c =>
      if opensQuotes dialect c || c == dialect.delimiter || !isBreak (some c) then
        readAfterQuote dialect progress c
      else progress.save .lineEnd
  | .escaped, none => .ok (progress.add '\n' .inField)
  | .escaped, some c =>
      .ok (progress.add c (if isBreak (some c) then .afterEscapedBreak else .inField))
  | .escapedInQuotes, none => .ok (progress.add '\n' .inQuotes)
  | .escapedInQuotes, some c => .ok (progress.add c .inQuotes)
  | .lineEnd, none => .ok (progress.move .recordStart)
  | .lineEnd, some c => if isBreak (some c) then .ok progress else .error .malformedRow

/-!
# Records
-/

def readLine (dialect : Dialect) (progress : Progress) (line : List Char) :
    Except Fault Progress :=
  (line.map some ++ [none]).foldlM (step dialect) progress

def readEnd (dialect : Dialect) (progress : Progress) : Except Fault (List (List Value)) :=
  if progress.field.isEmpty && progress.place != .inQuotes then .ok []
  else if dialect.strict then .error .malformedRow
  else (progress.save .recordStart).map fun done => [done.record]

def readLines (dialect : Dialect) : Progress -> List (List Char) ->
    Except Fault (List (List Value))
  | progress, [] => readEnd dialect progress
  | progress, line :: rest => do
      let next <- readLine dialect progress line
      if next.place == .recordStart then do
        let others <- readLines dialect Progress.start rest
        .ok (next.record :: others)
      else readLines dialect next rest

def read (dialect : Dialect) (text : String) : Except Fault (List (List Value)) :=
  readLines dialect Progress.start (linesOf text.toList)

end Delimited
end Wrangle
