import Wrangle.Outcome
import Wrangle.Value.Equality
import Wrangle.Value.Render

/-!
# Options

The only option so far, `code`, asks for every generated plan to be reported
before it is run.  Options can be set for good, or for a stretch of commands
after which the former values are put back.
-/

namespace Wrangle

/-- The values of the options by their names. -/
structure Options where
  entries : List (String × Value)

namespace Options

def initial : Options := { entries := [("code", .bool false)] }

def plannedNames : List String := ["log"]

def names (options : Options) : List String :=
  options.entries.map Prod.fst

def value? (options : Options) (name : String) : Option Value :=
  options.entries.lookup name

def code (options : Options) : Bool :=
  (options.value? "code").any Value.isTruthy

/-!
# Changes
-/

/-- Entries with another value for a name, which is added if it is not there. -/
def written (name : String) (value : Value) : List (String × Value) -> List (String × Value)
  | [] => [(name, value)]
  | entry :: rest =>
      if entry.1 == name then (name, value) :: rest else entry :: written name value rest

def write (options : Options) (name : String) (value : Value) : Options :=
  { entries := written name value options.entries }

def update (options : Options) (settings : List (String × Value)) : Options :=
  settings.foldl (fun current setting => current.write setting.1 setting.2) options

def former (options : Options) (settings : List (String × Value)) : List (String × Value) :=
  settings.filterMap fun setting =>
    (options.value? setting.1).map fun value => (setting.1, value)

/-!
# Checks
-/

def supportedHint (options : Options) : String :=
  "Supported options: " ++ Text.joined ", " (options.names.mergeSort fun a b => decide (a <= b))

def refuse (message hint : String) : Outcome alpha :=
  Outcome.reject (UserError.ofKind .option message (some hint) none)

/-- Check that an option exists and takes a value; its name is given back. -/
def check (options : Options) (option value : Value) : Outcome String :=
  if !option.canBeSought then .error (.fault Fault.badType)
  else
    let shown := option.render
    match option with
    | .str name =>
        if plannedNames.contains name then
          refuse ("Option " ++ shown ++ " is not implemented yet.") options.supportedHint
        else if !options.names.contains name then
          refuse (shown ++ " is not a valid option.") options.supportedHint
        else
          match value.asBool? with
          | some _ => .ok name
          | none =>
              refuse ("Option " ++ shown ++ " expects a boolean, got " ++ value.render ++ ".")
                ("Example: set_option(" ++ shown ++ ", True)")
    | _ => refuse (shown ++ " is not a valid option.") options.supportedHint

def set (options : Options) (option value : Value) : Outcome Options :=
  (options.check option value).map fun name => options.write name value

/-- The value of an option; one that is not there is refused like a setting of it. -/
def get (options : Options) (option : Value) : Outcome Value :=
  if !option.canBeKey then .error (.fault Fault.badType)
  else
    match option.asStr?.bind options.value? with
    | some value => .ok value
    | none => do
        let _ <- options.check option (.bool false)
        .error (.fault Fault.missingKey)

def setAll (options : Options) (settings : List (String × Value)) : Outcome Options :=
  (settings.mapM fun setting => options.check (.str setting.1) setting.2).map fun _ =>
    options.update settings

/-- Set options for as long as a body runs, which fails or not; then the former values are put
back.  Without settings that pass their checks the body is not run. -/
def within (options : Options) (settings : List (String × Value))
    (body : Options -> alpha × Options) : Outcome alpha × Options :=
  match options.setAll settings with
  | .error failure => (.error failure, options)
  | .ok inside =>
      let (result, after) := body inside
      (.ok result, after.update (options.former settings))

end Options

/-!
# Commands
-/

inductive OptionCommand where
  | set (option value : Value)
  | get (option : Value)
  | within (settings : List (String × Value)) (body : List OptionCommand) (aborts : Bool)

inductive OptionReply where
  | current (code : Bool)
  | value (b : Bool)
  | refused (failure : Failure)
  | context (inner : List OptionReply) (ending : Option Failure) (code : Bool)

namespace OptionCommand

mutual

def run (options : Options) : OptionCommand -> OptionReply × Options
  | set option value =>
      match options.set option value with
      | .ok after => (.current after.code, after)
      | .error failure => (.refused failure, options)
  | get option =>
      match options.get option with
      | .ok value => (.value value.isTruthy, options)
      | .error failure => (.refused failure, options)
  | within settings body aborts =>
      match options.within settings fun inside => runAll inside body with
      | (.error failure, outside) => (.context [] (some failure) outside.code, outside)
      | (.ok replies, outside) =>
          let ending := if aborts then some (.fault Fault.aborted) else none
          (.context replies ending outside.code, outside)

def runAll (options : Options) : List OptionCommand -> List OptionReply × Options
  | [] => ([], options)
  | command :: rest =>
      let (reply, after) := run options command
      let (replies, final) := runAll after rest
      (reply :: replies, final)

end

end OptionCommand
end Wrangle
