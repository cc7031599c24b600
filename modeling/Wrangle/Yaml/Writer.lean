import Wrangle.Number.FloatText
import Wrangle.Pattern.Match
import Wrangle.Pattern.Parser
import Wrangle.Text.Layout
import Wrangle.Text.Quoted

/-!
# Documents and their texts

A document holds scalars, sequences, and mappings in order.

A text is written as it stands where nothing else could be read in its place.
Otherwise it is put between single quotes, in which only quotes are doubled, or,
when it has characters that are not written as they are, between double quotes.
Texts that grow past the line width go on in the next line after a blank.
-/

namespace Wrangle

inductive Document where
  | missing
  | bool (b : Bool)
  | int (n : Int)
  | float (x : Float)
  | text (s : String)
  | list (items : List Document)
  | mapping (entries : List (String × Document))
  deriving Repr

namespace Document

instance : Inhabited Document := ⟨missing⟩

end Document

namespace Yaml

open Text

def lineWidth : Nat := 80

/-!
# Texts that would be read as something else
-/

def boolForm : String :=
  "^(?:yes|Yes|YES|no|No|NO|true|True|TRUE|false|False|FALSE|on|On|ON|off|Off|OFF)$"

def floatForm : String :=
  "^(?:[-+]?(?:[0-9][0-9_]*)\\.[0-9_]*(?:[eE][-+][0-9]+)?|\\.[0-9][0-9_]*(?:[eE][-+][0-9]+)?" ++
    "|[-+]?[0-9][0-9_]*(?::[0-5]?[0-9])+\\.[0-9_]*|[-+]?\\.(?:inf|Inf|INF)|\\.(?:nan|NaN|NAN))$"

def intForm : String :=
  "^(?:[-+]?0b[0-1_]+|[-+]?0[0-7_]+|[-+]?(?:0|[1-9][0-9_]*)|[-+]?0x[0-9a-fA-F_]+" ++
    "|[-+]?[1-9][0-9_]*(?::[0-5]?[0-9])+)$"

def timeForm : String :=
  "^(?:[0-9][0-9][0-9][0-9]-[0-9][0-9]-[0-9][0-9]" ++
    "|[0-9][0-9][0-9][0-9]-[0-9][0-9]?-[0-9][0-9]?(?:[Tt]|[ \\t]+)[0-9][0-9]?" ++
    ":[0-9][0-9]:[0-9][0-9](?:\\.[0-9]*)?(?:[ \\t]*(?:Z|[-+][0-9][0-9]?(?::[0-9][0-9])?))?)$"

def markForm : String :=
  "^(?:~|null|Null|NULL||<<|=|!|&|\\*)$"

def hasForm (form s : String) : Bool :=
  match Pattern.ofText form with
  | .ok p => p.occursIn s
  | .error _ => false

def readsAsOther (s : String) : Bool :=
  [boolForm, floatForm, intForm, timeForm, markForm].any fun form => hasForm form s

/-!
# Styles
-/

inductive Style where
  | plain
  | single
  | double
  deriving DecidableEq, Repr

def isBlankMark (c : Char) : Bool :=
  ['\x00', ' ', '\t', '\r', '\n', '\u0085', '\u2028', '\u2029'].contains c

def isOrdinary (c : Char) : Bool :=
  c == '\n' || (' ' <= c && c <= '~')

def startMarks : List Char :=
  ['#', ',', '[', ']', '\x7b', '\x7d', '&', '*', '!', '|', '>', '\x27', '\x22', '%', '@', '\x60']

/-- Whether the start of a text would be read as a mark of the document. -/
def startsWithMark (cs : List Char) : Bool :=
  startsWith cs ['-', '-', '-'] || startsWith cs ['.', '.', '.'] ||
    match cs with
    | [] => false
    | c :: rest =>
        startMarks.contains c ||
          (['?', ':', '-'].contains c && (rest.head?.map isBlankMark).getD true)

/-- Whether a colon before a blank, or a hash sign after one, occurs within a text. -/
def hasInnerMark : List Char -> Bool
  | [] => false
  | [_] => false
  | a :: b :: rest =>
      (b == ':' && (rest.head?.map isBlankMark).getD true) || (b == '#' && isBlankMark a) ||
        hasInnerMark (b :: rest)

def hasPair (a b : Char) : List Char -> Bool
  | [] => false
  | [_] => false
  | c :: d :: rest => (c == a && d == b) || hasPair a b (d :: rest)

def lineBreaks : List Char :=
  ['\n', '\u0085', '\u2028', '\u2029']

def hasLineBreak (cs : List Char) : Bool :=
  cs.any lineBreaks.contains

def isEdge (c : Option Char) : Bool :=
  c == some ' ' || c == some '\n'

/-- The style of a text; as a key of a mapping it stays on one line. -/
def styleOf (isKey : Bool) (s : String) : Style :=
  let cs := s.toList
  let broken := cs.contains '\n'
  let special := !cs.all isOrdinary || hasPair ' ' '\n' cs
  if cs.isEmpty then .single
  else if special || hasPair '\n' ' ' cs || (isKey && broken) then .double
  else if broken || isEdge cs.head? || isEdge cs.getLast? || startsWithMark cs ||
      hasInnerMark cs || readsAsOther s then .single
  else .plain

/-!
# Runs

Plain and single-quoted texts are laid out run by run: words, blanks and line
breaks.
-/

inductive RunKind where
  | word
  | blank
  | lineBreak
  deriving DecidableEq, Repr

def runKind (c : Char) : RunKind :=
  if c == ' ' then .blank else if c == '\n' then .lineBreak else .word

def runsOf (cs : List Char) : List (List Char) :=
  cs.splitBy fun a b => runKind a == runKind b

def newLine (indent : Nat) : String :=
  "\n" ++ spaces indent

def layRuns (folds : Bool) (indent : Nat) (word : List Char -> List Char) :
    Bool -> Nat -> List (List Char) -> String
  | _, _, [] => ""
  | first, column, run :: rest =>
      match run.head?.map runKind with
      | some .blank =>
          if run.length == 1 && decide (lineWidth < column) && folds && !first &&
              !rest.isEmpty then
            newLine indent ++ layRuns folds indent word false indent rest
          else
            String.ofList run ++ layRuns folds indent word false (column + run.length) rest
      | some .lineBreak =>
          "\n" ++ String.ofList run ++ spaces indent ++
            layRuns folds indent word false indent rest
      | _ =>
          let shown := word run
          String.ofList shown ++ layRuns folds indent word false (column + shown.length) rest

def layPlain (folds : Bool) (indent column : Nat) (s : String) : String :=
  layRuns folds indent id true column (runsOf s.toList)

def doubleQuotes (cs : List Char) : List Char :=
  replaceChar '\x27' ['\x27', '\x27'] cs

def laySingle (folds : Bool) (indent column : Nat) (s : String) : String :=
  "'" ++ layRuns folds indent doubleQuotes true (column + 1) (runsOf s.toList) ++ "'"

/-!
# Double quotes
-/

def shortEscapes : List (Char × Char) := [
  ('\x00', '0'), ('\x07', 'a'), ('\x08', 'b'), ('\t', 't'), ('\n', 'n'), ('\x0b', 'v'),
  ('\x0c', 'f'), ('\r', 'r'), ('\x1b', 'e'), ('\x22', '\x22'), ('\\', '\\'), ('\u0085', 'N'),
  ('\u00a0', '_'), ('\u2028', 'L'), ('\u2029', 'P')]

def upperEscape (c : Char) : String :=
  let (letter, digits) := codeDigits c.toNat
  String.ofList (backslash :: letter :: digits.map Char.toUpper)

def escape? (c : Char) : Option String :=
  match shortEscapes.lookup c with
  | some letter => some (String.ofList ['\\', letter])
  | none =>
      if ' ' <= c && c <= '~' then none else some (upperEscape c)

/-- Lay out a text with escapes; `pending` is what has not been written yet.  A line is ended by
a backslash, and a blank at the start of the next line is kept by one. -/
def layEscaped (indent : Nat) : Bool -> Nat -> List Char -> List Char -> String
  | _, _, pending, [] => String.ofList pending
  | first, column, pending, c :: rest =>
      let inside := !first && 1 < rest.length + 1
      match escape? c with
      | some text =>
          let written := String.ofList pending ++ text
          let after := column + written.length
          if inside && decide (lineWidth + 1 < after) then
            let keeps := rest.head? == some ' '
            written ++ "\\" ++ newLine indent ++ (if keeps then "\\" else "") ++
              layEscaped indent false (indent + (if keeps then 1 else 0)) [] rest
          else written ++ layEscaped indent false after [] rest
      | none =>
          if inside && (c == ' ' || pending.isEmpty) &&
              decide (lineWidth < column + pending.length) then
            let keeps := c == ' '
            String.ofList pending ++ "\\" ++ newLine indent ++ (if keeps then "\\" else "") ++
              layEscaped indent false (indent + (if keeps then 1 else 0)) [c] rest
          else layEscaped indent false column (pending ++ [c]) rest

def escapedLine (cs : List Char) : String :=
  joined "" (cs.map fun c => (escape? c).getD (String.ofList [c]))

def layDouble (folds : Bool) (indent column : Nat) (s : String) : String :=
  let inner :=
    if folds then layEscaped indent true (column + 1) [] s.toList else escapedLine s.toList
  "\x22" ++ inner ++ "\x22"

/-!
# Scalars
-/

/-- A text from a column on; the lines after the first one are indented. -/
def textScalar (isKey : Bool) (indent column : Nat) (s : String) : String :=
  match styleOf isKey s with
  | .plain => layPlain (!isKey) indent column s
  | .single => laySingle (!isKey) indent column s
  | .double => layDouble (!isKey) indent column s

def floatScalar (x : Float) : String :=
  if Number.Binary.isUndefined x then ".nan"
  else
    let cs := (Number.floatText x).toList
    match cs with
    | ['i', 'n', 'f'] => ".inf"
    | ['-', 'i', 'n', 'f'] => "-.inf"
    | _ =>
        if cs.contains '.' then String.ofList cs
        else String.ofList (replaceChar 'e' ['.', '0', 'e'] cs)

end Yaml

/-!
# Documents as text

Mappings and sequences are written with one entry on each line.  A sequence that
is the value of an entry is not indented further; empty ones are written in
brackets.
-/

namespace Document

open Text Yaml

def step : Nat := 2

def stacked (indent : Nat) (texts : List String) : String :=
  joined (newLine indent) texts

def isSimpleKey (key : String) : Bool :=
  !key.isEmpty && !hasLineBreak key.toList && key.length + 5 < 128

mutual

def item (indent : Nat) : Document -> String
  | missing => "null"
  | bool b => if b then "true" else "false"
  | int n => toString n
  | float x => floatScalar x
  | text s => textScalar false (indent + step) (indent + step) s
  | list [] => "[]"
  | list (d :: rest) => stacked (indent + step) (items (indent + step) (d :: rest))
  | mapping [] => "\x7b\x7d"
  | mapping (e :: rest) => stacked (indent + step) (entries (indent + step) (e :: rest))

def items (indent : Nat) : List Document -> List String
  | [] => []
  | d :: rest => ("- " ++ item indent d) :: items indent rest

def value (indent column : Nat) : Document -> String
  | text s => " " ++ textScalar false (indent + step) (column + 1) s
  | list (d :: rest) => newLine indent ++ stacked indent (items indent (d :: rest))
  | mapping (e :: rest) =>
      newLine (indent + step) ++ stacked (indent + step) (entries (indent + step) (e :: rest))
  | d => " " ++ item indent d

def entries (indent : Nat) : List (String × Document) -> List String
  | [] => []
  | (key, d) :: rest =>
      (if isSimpleKey key then
        let shown := textScalar true (indent + step) indent key
        shown ++ ":" ++ value indent (indent + shown.length + 1) d
      else
        "? " ++ textScalar false (indent + step) (indent + step) key ++ newLine indent ++
          ": " ++ item indent d) :: entries indent rest

end

def write (document : Document) : String :=
  match document with
  | mapping (e :: rest) => stacked 0 (entries 0 (e :: rest)) ++ "\n"
  | list (d :: rest) => stacked 0 (items 0 (d :: rest)) ++ "\n"
  | d => item 0 d ++ "\n"

end Document
end Wrangle
