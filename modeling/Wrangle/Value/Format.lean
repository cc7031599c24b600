import Wrangle.Number.FixedText
import Wrangle.Outcome
import Wrangle.Value.Template

/-!
# Formats

A format is a short text that says how a value is written: what fills the space
around it and where, how the sign is shown, how wide the text is, how digits are
grouped, how precise a number is, and in which style it is written.
-/

namespace Wrangle

open Number

structure Grouping where
  separator : Char
  size : Nat

structure Format where
  fill : Char
  align : Char
  sign : Option Char
  dropsZeroSign : Bool
  alternate : Bool
  width : Nat
  grouping : Option Grouping
  precision : Option Nat
  style : Option Char

namespace Format

/-!
# Reading
-/

def isAlign (c : Char) : Bool :=
  c == '<' || c == '>' || c == '=' || c == '^'

def takeAlign (cs : List Char) : Option Char × Option Char × List Char :=
  match cs with
  | fill :: align :: rest =>
      if isAlign align then (some fill, some align, rest)
      else if isAlign fill then (none, some fill, align :: rest)
      else (none, none, cs)
  | [align] => if isAlign align then (none, some align, []) else (none, none, cs)
  | [] => (none, none, [])

def takeMark (mark : Char) (cs : List Char) : Bool × List Char :=
  match cs with
  | c :: rest => if c == mark then (true, rest) else (false, cs)
  | [] => (false, [])

def takeSign (cs : List Char) : Option Char × List Char :=
  match cs with
  | c :: rest => if c == ' ' || c == '+' || c == '-' then (some c, rest) else (none, cs)
  | [] => (none, [])

def takeNumber (cs : List Char) : Except Fault (Option Nat × List Char) :=
  let digits := cs.takeWhile Text.isDigit
  let n := Text.digitsValue digits
  if digits.isEmpty then .ok (none, cs)
  else if n < Nat.pow 2 63 then .ok (some n, cs.drop digits.length)
  else .error .badValue

def takeSeparator (cs : List Char) : Except Fault (Option Char × List Char) :=
  match cs with
  | ',' :: '_' :: _ => .error .badValue
  | '_' :: ',' :: _ => .error .badValue
  | ',' :: rest => .ok (some ',', rest)
  | '_' :: rest => .ok (some '_', rest)
  | _ => .ok (none, cs)

def takePrecision (cs : List Char) : Except Fault (Option Nat × List Char) :=
  match cs with
  | '.' :: rest => do
      let (precision, rest) <- takeNumber rest
      if precision.isNone then .error .badValue else .ok (precision, rest)
  | _ => .ok (none, cs)

def groupingFor (separator style : Option Char) : Except Fault (Option Grouping) :=
  match separator, style with
  | none, _ => .ok none
  | some c, none => .ok (some { separator := c, size := 3 })
  | some c, some style =>
      if ['d', 'e', 'f', 'g', 'E', 'G', '%', 'F'].contains style then
        .ok (some { separator := c, size := 3 })
      else if ['b', 'o', 'x', 'X'].contains style && c == '_' then
        .ok (some { separator := c, size := 4 })
      else .error .badValue

/-- Read a format; alignment and style are those of the kind of value unless given. -/
def parse (align : Char) (style : Option Char) (s : String) : Except Fault Format := do
  let (fill, given, cs) := takeAlign s.toList
  let (sign, cs) := takeSign cs
  let (dropsZeroSign, cs) := takeMark 'z' cs
  let (alternate, cs) := takeMark '#' cs
  let (zeros, cs) := if fill.isSome then (false, cs) else takeMark '0' cs
  let zeroAlign := if align == '>' then '=' else align
  let (width, cs) <- takeNumber cs
  let (separator, cs) <- takeSeparator cs
  let (precision, cs) <- takePrecision cs
  let style <-
    match cs with
    | [] => .ok style
    | [c] => .ok (some c)
    | _ => .error .badValue
  let grouping <- groupingFor separator style
  .ok
    { fill := fill.getD (if zeros then '0' else ' ')
      align := given.getD (if zeros then zeroAlign else align)
      sign := sign, dropsZeroSign := dropsZeroSign, alternate := alternate
      width := width.getD 0, grouping := grouping, precision := precision, style := style }

/-!
# Layout
-/

def surround (format : Format) (used : Nat) : List Char × List Char :=
  let missing := format.width - used
  let filled (n : Nat) := List.replicate n format.fill
  if format.align == '<' then ([], filled missing)
  else if format.align == '^' then (filled (missing / 2), filled (missing - missing / 2))
  else (filled missing, [])

def grouped (grouping : Grouping) : Nat -> Nat -> List Char -> List Char
  | 0, _, digits => digits
  | rounds + 1, width, digits =>
      let size := min grouping.size (max (max digits.length width) 1)
      let kept := digits.length - size
      let group := List.replicate (size - digits.length) '0' ++ digits.drop kept
      let width := width - size
      if kept = 0 && width = 0 then group
      else grouped grouping rounds (width - 1) (digits.take kept) ++ grouping.separator :: group

/-- A number from its sign, its mark, its whole digits and what follows them. -/
def number (format : Format) (negative : Bool) (mark digits rest : List Char) : String :=
  let sign := if negative then ['-'] else format.sign.toList.filter fun c => c != '-'
  let others := sign.length + mark.length + rest.length
  let least := if format.fill == '0' && format.align == '=' then format.width - others else 0
  let digits :=
    if digits.isEmpty then []
    else
      match format.grouping with
      | some grouping => grouped grouping (digits.length + least) least digits
      | none => List.replicate (least - digits.length) '0' ++ digits
  let (before, after) := format.surround (others + digits.length)
  String.ofList <|
    if format.align == '=' then sign ++ mark ++ before ++ digits ++ rest
    else before ++ sign ++ mark ++ digits ++ rest ++ after

/-!
# Values
-/

def text (format : Format) (s : String) : Except Fault String :=
  let style := format.style.getD 's'
  if style != 's' || format.align == '=' || format.sign.isSome || format.alternate ||
      format.dropsZeroSign then
    .error .badValue
  else
    let cs :=
      match format.precision with
      | some n => s.toList.take n
      | none => s.toList
    let (before, after) := format.surround cs.length
    .ok (String.ofList (before ++ cs ++ after))

/-- A float without a style, but with a precision: the general style with a point in it. -/
def precise (precision : Nat) (alternate : Bool) (x : Float) : String :=
  let count := max precision 1
  let general := styledText .general precision alternate x
  let lead := (styledText .exponent (count - 1) false x).toList
  let exponent := (Text.digitsValue ((lead.dropWhile fun c => c != 'e').drop 2) : Int)
  let grows := lead.contains '+'
  if !lead.contains 'e' then general
  else if grows && exponent + 1 = count then
    let cs := (styledText .exponent (count - 1) alternate x).toList
    let digits := cs.takeWhile fun c => c != 'e'
    let kept := if alternate then digits else withoutTrailingZeros digits
    String.ofList (kept ++ cs.dropWhile fun c => c != 'e')
  else if general.toList.any fun c => c == '.' || c == 'e' then general
  else general ++ ".0"

/-- A text of a float with a point in it, at the latest before the exponent. -/
def pointed (shown : String) : String :=
  let cs := shown.toList
  if cs.contains '.' || !cs.contains 'e' then shown
  else String.ofList (Text.replaceChar 'e' ['.', 'e'] cs)

/-- The text of a float in the style of a format, with a minus sign in front of it. -/
def floatDigits (format : Format) (x : Float) : Except Fault String :=
  let styled (style : FloatStyle) (y : Float) : String :=
    styledText style (format.precision.getD 6) format.alternate y
  match format.style with
  | none =>
      match format.precision with
      | none => .ok (if format.alternate then pointed (floatText x) else floatText x)
      | some n => .ok (precise n format.alternate x)
  | some 'e' | some 'E' => .ok (styled .exponent x)
  | some 'f' | some 'F' => .ok (styled .places x)
  | some 'g' | some 'G' | some 'n' => .ok (styled .general x)
  | some '%' => .ok (styled .places (x * 100) ++ "%")
  | _ => .error .badValue

def float (format : Format) (x : Float) : Except Fault String :=
  if (format.precision.getD 0) < Nat.pow 2 31 then do
    let shown <- format.floatDigits x
    let upper := format.style.any Char.isUpper
    let cs := Template.upperDigits upper shown.toList
    let unsigned := cs.dropWhile fun c => c == '-'
    let isZero := unsigned.all fun c => !(c.isDigit && c != '0') && c.toLower != 'n'
    let negative := unsigned.length < cs.length && !(format.dropsZeroSign && isZero)
    let digits := unsigned.takeWhile Char.isDigit
    .ok (format.number negative [] digits (unsigned.drop digits.length))
  else .error .badValue

def integer (format : Format) (n : Int) : Except Fault String :=
  let style := format.style.getD 'd'
  let based (base : Nat) : Except Fault String :=
    let digits := Template.upperDigits (style == 'X') (Nat.toDigits base n.natAbs)
    let mark := if format.alternate && base != 10 then ['0', style] else []
    .ok (format.number (decide (n < 0)) mark digits [])
  let character : Except Fault String :=
    if format.sign.isSome || format.alternate then .error .badValue
    else if n < 0 || 0x110000 <= n then .error .overflow
    else .ok (format.number false [] [] [Char.ofNat n.toNat])
  let asFloat : Except Fault String :=
    match Binary.ofInt n with
    | some x => format.float x
    | none => .error .overflow
  if ['e', 'E', 'f', 'F', 'g', 'G', '%'].contains style then asFloat
  else if format.precision.isSome || format.dropsZeroSign then .error .badValue
  else
    match style with
    | 'd' | 'n' => if isTooLong n then .error .tooManyDigits else based 10
    | 'b' => based 2
    | 'o' => based 8
    | 'x' | 'X' => based 16
    | 'c' => character
    | _ => .error .badValue

end Format

/-- The text of a value in a format; an empty format asks for its plain text. -/
def Value.formatted (value format : Value) : Except Fault String :=
  match value, format with
  | _, str "" => value.text?
  | str s, str spec => do
      let format <- Format.parse '<' (some 's') spec
      format.text s
  | float x _, str spec => do
      let format <- Format.parse '>' none spec
      format.float x
  | _, str spec =>
      match value.asInt? with
      | some n => do
          let format <- Format.parse '>' (some 'd') spec
          format.integer n
      | none => .error .badType
  | _, _ => .error .badType

end Wrangle
