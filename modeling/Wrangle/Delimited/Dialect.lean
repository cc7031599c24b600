import Wrangle.Outcome
import Wrangle.Value.Basic

/-!
# Dialects of delimited text

The characters that separate and quote fields, and when fields are quoted.
-/

namespace Wrangle
namespace Delimited

inductive Quoting where
  | whereNeeded
  | always
  | exceptNumbers
  | never
  deriving DecidableEq, Repr

structure Dialect where
  delimiter : Char
  quote : Option Char
  escape : Option Char
  doublesQuotes : Bool
  skipsBlanks : Bool
  terminator : String
  quoting : Quoting
  strict : Bool
  deriving Repr

namespace Dialect

def commas : Dialect :=
  { delimiter := ','
    quote := some '\x22'
    escape := none
    doublesQuotes := true
    skipsBlanks := false
    terminator := "\r\n"
    quoting := .whereNeeded
    strict := false }

def tabs : Dialect :=
  { commas with delimiter := '\t' }

/-- Fields between commas, all of them quoted, on lines that end with a line feed. -/
def lines : Dialect :=
  { commas with terminator := "\n", quoting := .always }

def named : List (String × Dialect) :=
  [("excel", commas), ("excel-tab", tabs), ("unix", lines)]

/-!
# Options
-/

def charOf : Value -> Except Fault Char
  | .str s =>
      match s.toList with
      | [c] => .ok c
      | _ => .error .badType
  | _ => .error .badType

def charOf? : Value -> Except Fault (Option Char)
  | .missing => .ok none
  | value => (charOf value).map some

def quotingOf : Value -> Except Fault Quoting
  | .int 0 => .ok .whereNeeded
  | .int 1 => .ok .always
  | .int 2 => .ok .exceptNumbers
  | .int 3 => .ok .never
  | .int n => .error (if n.natAbs < Nat.pow 2 31 then .badType else .overflow)
  | _ => .error .badType

/-- The options of a dialect, and how they change one, in the order in which they are looked at. -/
def settings : List (String × (Dialect -> Value -> Except Fault Dialect)) := [
  ("delimiter", fun dialect value =>
    (charOf value).map fun c => { dialect with delimiter := c }),
  ("doublequote", fun dialect value => .ok { dialect with doublesQuotes := value.isTruthy }),
  ("escapechar", fun dialect value =>
    (charOf? value).map fun c => { dialect with escape := c }),
  ("lineterminator", fun dialect value =>
    match value with
    | .str s => .ok { dialect with terminator := s }
    | .missing => .ok dialect
    | _ => .error .badType),
  ("quotechar", fun dialect value => (charOf? value).map fun c => { dialect with quote := c }),
  ("quoting", fun dialect value =>
    (quotingOf value).map fun quoting => { dialect with quoting := quoting }),
  ("skipinitialspace", fun dialect value =>
    .ok { dialect with skipsBlanks := value.isTruthy }),
  ("strict", fun dialect value => .ok { dialect with strict := value.isTruthy })]

/-- Change a dialect as the option of a name says, if it is given. -/
def withSetting (options : List (String × Value)) (dialect : Dialect)
    (setting : String × (Dialect -> Value -> Except Fault Dialect)) : Except Fault Dialect :=
  match options.lookup setting.1 with
  | some value => setting.2 dialect value
  | none => .ok dialect

def isOption (name : String) : Bool :=
  name == "dialect" || settings.any fun setting => setting.1 == name

def baseOf (options : List (String × Value)) : Except Fault Dialect :=
  match options.lookup "dialect" with
  | some (.str name) =>
      match named.lookup name with
      | some dialect => .ok dialect
      | none => .error .malformedRow
  | some _ =>
      let unquoted := options.lookup "quotechar" matches some .missing
      .ok (if unquoted then { commas with quoting := .never } else commas)
  | none => .ok commas

/-- The dialect that options ask for; lines need an end, and quoting a quote character. -/
def ofOptions (options : List (String × Value)) : Except Fault Dialect := do
  if !options.all fun option => isOption option.1 then .error .badType
  let base <- baseOf options
  let dialect <- settings.foldlM (withSetting options) base
  let unending := options.lookup "lineterminator" matches some .missing
  if unending || (dialect.quoting != .never && dialect.quote.isNone) then .error .badType
  else .ok dialect

end Dialect
end Delimited
end Wrangle
