import Wrangle.Number.FixedText
import Wrangle.Outcome
import Wrangle.Text.Casing
import Wrangle.Value.Equality
import Wrangle.Value.Render

/-!
# Templates

A template is a text with places for values.  A place starts with a percent sign
and names a conversion; between them may stand a key, flags, a width and a
precision.  Two percent signs stand for one.
-/

namespace Wrangle

open Number

namespace Template

/-!
# Arguments
-/

/-- The values still to be used, and the mapping that keys refer to. -/
structure Arguments where
  pending : List Value
  mapping : Option Value

namespace Arguments

def ofValue (value : Value) : Arguments :=
  match value with
  | .tuple items => { pending := items, mapping := none }
  | .list _ | .column _ | .dict _ | .range _ _ _ => { pending := [value], mapping := some value }
  | _ => { pending := [value], mapping := none }

def next (arguments : Arguments) : Except Fault (Value × Arguments) :=
  match arguments.pending with
  | [] => .error .badType
  | value :: rest => .ok (value, { arguments with pending := rest })

def choose (arguments : Arguments) (key : String) : Except Fault Arguments :=
  match arguments.mapping with
  | some (.dict entries) =>
      match entries.find? fun entry => (Value.str key).same entry.1 with
      | some entry => .ok { arguments with pending := [entry.2] }
      | none => .error .missingKey
  | _ => .error .badType

def finished (arguments : Arguments) : Except Fault Unit :=
  if arguments.pending.isEmpty || arguments.mapping.isSome then .ok () else .error .badType

end Arguments

/-!
# Places
-/

structure Place where
  leftAligned : Bool
  signed : Bool
  blank : Bool
  alternate : Bool
  zeros : Bool
  width : Nat
  precision : Option Nat

namespace Place

def plain : Place :=
  { leftAligned := false, signed := false, blank := false, alternate := false, zeros := false
    width := 0, precision := none }

def withFlag (place : Place) (c : Char) : Place :=
  match c with
  | '-' => { place with leftAligned := true }
  | '+' => { place with signed := true }
  | ' ' => { place with blank := true }
  | '0' => { place with zeros := true }
  | _ => { place with alternate := true }

def withWidth (place : Place) (width : Int) : Place :=
  { place with width := width.natAbs, leftAligned := place.leftAligned || decide (width < 0) }

end Place

/-- The text of a key up to its closing parenthesis, and what follows it. -/
def takeKey : Nat -> List Char -> List Char -> Option (List Char × List Char)
  | _, _, [] => none
  | depth, taken, ')' :: rest =>
      if depth = 0 then some (taken.reverse, rest) else takeKey (depth - 1) (')' :: taken) rest
  | depth, taken, '(' :: rest => takeKey (depth + 1) ('(' :: taken) rest
  | depth, taken, c :: rest => takeKey depth (c :: taken) rest

def isFlag (c : Char) : Bool :=
  c == '-' || c == '+' || c == ' ' || c == '#' || c == '0'

def takeCount (limit : Nat) (arguments : Arguments) (cs : List Char) :
    Except Fault (Option Int × Arguments × List Char) :=
  match cs with
  | '*' :: rest => do
      let (value, arguments) <- arguments.next
      match value.asInt? with
      | some n => if n.natAbs < limit then .ok (some n, arguments, rest) else .error .overflow
      | none => .error .badType
  | _ =>
      let digits := cs.takeWhile Char.isDigit
      if digits.isEmpty then .ok (none, arguments, cs)
      else .ok (some (Int.ofNat (Text.digitsValue digits)), arguments, cs.drop digits.length)

def takePlace (arguments : Arguments) (cs : List Char) :
    Except Fault (Place × Arguments × List Char) := do
  let (arguments, cs) <-
    match cs with
    | '(' :: rest =>
        if arguments.mapping.isNone then .error .badType
        else
          match takeKey 0 [] rest with
          | none => .error .badValue
          | some (key, rest) => do
              let arguments <- arguments.choose (String.ofList key)
              .ok (arguments, rest)
    | _ => .ok (arguments, cs)
  let flags := cs.takeWhile isFlag
  let place := flags.foldl Place.withFlag Place.plain
  let (width, arguments, cs) <- takeCount (Nat.pow 2 63) arguments (cs.drop flags.length)
  let place := place.withWidth (width.getD 0)
  let (place, arguments, cs) <-
    match cs with
    | '.' :: rest => do
        let (precision, arguments, rest) <- takeCount (Nat.pow 2 31) arguments rest
        .ok ({ place with precision := some (precision.getD 0).toNat }, arguments, rest)
    | _ => .ok (place, arguments, cs)
  match cs with
  | 'h' :: rest => .ok (place, arguments, rest)
  | 'l' :: rest => .ok (place, arguments, rest)
  | 'L' :: rest => .ok (place, arguments, rest)
  | _ => .ok (place, arguments, cs)

/-!
# Conversions
-/

def integerFor (exactOnly : Bool) (value : Value) : Except Fault Int :=
  match value.asInt? with
  | some n => .ok n
  | none =>
      if exactOnly then .error .badType
      else
        match value with
        | .float x _ =>
            match Binary.truncate? x with
            | some n => .ok n
            | none => .error (if Binary.isUndefined x then .badValue else .overflow)
        | .decimal d _ =>
            match d.truncate?, d with
            | some n, _ => .ok n
            | none, .undefined _ _ _ => .error .badValue
            | none, _ => .error .overflow
        | _ => .error .badType

def floatFor (value : Value) : Except Fault Float :=
  match value with
  | .float x _ => .ok x
  | .decimal d _ => d.toFloat
  | _ =>
      match value.asInt? with
      | some n =>
          match Binary.ofInt n with
          | some x => .ok x
          | none => .error .overflow
      | none => .error .badType

def upperDigits (upper : Bool) (cs : List Char) : List Char :=
  if upper then cs.map Char.toUpper else cs

def integerParts (place : Place) (conversion : Char) (n : Int) : String × String × List Char :=
  let base := if conversion == 'o' then 8 else if conversion.toLower == 'x' then 16 else 10
  let digits := upperDigits (conversion == 'X') (Nat.toDigits base n.natAbs)
  let padded := List.replicate (place.precision.getD 0 - digits.length) '0' ++ digits
  let mark := if place.alternate && base != 10 then String.ofList ['0', conversion] else ""
  (if n < 0 then "-" else "", mark, padded)

def floatParts (place : Place) (conversion : Char) (x : Float) : String × String × List Char :=
  let style : FloatStyle :=
    match conversion.toLower with
    | 'e' => .exponent
    | 'f' => .places
    | _ => .general
  let cs := (styledText style (place.precision.getD 6) place.alternate x).toList
  let digits := cs.dropWhile fun c => c == '-'
  (if digits.length < cs.length then "-" else "", "", upperDigits conversion.isUpper digits)

/-- Put a number into its place; zeros go between the sign and the digits. -/
def fillNumber (place : Place) (parts : String × String × List Char) : String :=
  let sign :=
    if !parts.1.isEmpty then parts.1
    else if place.signed then "+"
    else if place.blank then " "
    else ""
  let digits := String.ofList parts.2.2
  let head := sign ++ parts.2.1
  let missing := place.width - (head.length + digits.length)
  if place.leftAligned then head ++ digits ++ Text.spaces missing
  else if place.zeros then head ++ String.ofList (List.replicate missing '0') ++ digits
  else Text.spaces missing ++ head ++ digits

def fillText (place : Place) (s : String) : String :=
  let shown :=
    match place.precision with
    | some n => String.ofList (s.toList.take n)
    | none => s
  if place.leftAligned then Text.padRight place.width shown else Text.padLeft place.width shown

def plainText (s : String) : String :=
  String.ofList <| s.toList.flatMap fun c =>
    if c.toNat < 0x80 then [c] else Text.codeEscape c

def characterFor (value : Value) : Except Fault String :=
  match value with
  | .str s => if s.length = 1 then .ok s else .error .badType
  | _ =>
      match value.asInt? with
      | some n =>
          if 0 <= n && n < 0x110000 then .ok (String.ofList [Char.ofNat n.toNat])
          else .error .overflow
      | none => .error .badType

def convert (place : Place) (conversion : Char) (value : Value) : Except Fault String :=
  match conversion with
  | 's' => value.text?.map (fillText place)
  | 'r' => value.printed?.map (fillText place)
  | 'a' => value.printed?.map fun s => fillText place (plainText s)
  | 'c' => (characterFor value).map fun s => fillText { place with precision := none } s
  | 'd' | 'i' | 'u' =>
      match integerFor false value with
      | .error f => .error f
      | .ok n =>
          if isTooLong n then .error .tooManyDigits
          else .ok (fillNumber place (integerParts place 'd' n))
  | 'o' | 'x' | 'X' =>
      (integerFor true value).map fun n => fillNumber place (integerParts place conversion n)
  | 'e' | 'E' | 'f' | 'F' | 'g' | 'G' =>
      (floatFor value).map fun x => fillNumber place (floatParts place conversion x)
  | _ => .error .badValue

/-!
# Filling
-/

def fillFrom : Nat -> Arguments -> List Char -> Except Fault (List Char)
  | 0, arguments, _ => arguments.finished.map fun _ => []
  | rounds + 1, arguments, cs =>
      match cs with
      | [] => arguments.finished.map fun _ => []
      | '%' :: '%' :: rest => (fillFrom rounds arguments rest).map ('%' :: ·)
      | '%' :: rest => do
          let (place, arguments, rest) <- takePlace arguments rest
          match rest with
          | [] => .error .badValue
          | conversion :: rest => do
              let (value, arguments) <- arguments.next
              let shown <- convert place conversion value
              (fillFrom rounds arguments rest).map (shown.toList ++ ·)
      | c :: rest => (fillFrom rounds arguments rest).map (c :: ·)

/-- Fill a template with the items of a tuple, or with a single value. -/
def fill (template : String) (value : Value) : Except Fault String :=
  (fillFrom (template.length + 1) (Arguments.ofValue value) template.toList).map String.ofList

end Template
end Wrangle
