import Wrangle.Dataset.Display
import Wrangle.Options
import Wrangle.Verb.Planning

/-!
# Running verbs

Running a verb compiles it to a plan and carries the plan out.  What is reported
on the way is kept beside the result, also when a step fails: the text of the
plan, when the options ask for it, and the notes of the operations.
-/

namespace Wrangle

/-!
# Reports
-/

/-- A result, and the messages on the way to it. -/
structure Report (alpha : Type) where
  messages : List String
  result : Outcome alpha

namespace Report

def silent (result : Outcome alpha) : Report alpha :=
  { messages := [], result := result }

/-- Go on with the result, if there is one; messages come one after another. -/
def next (report : Report alpha) (step : alpha -> Report beta) : Report beta :=
  match report.result with
  | .error failure => { messages := report.messages, result := .error failure }
  | .ok value =>
      let after := step value
      { messages := report.messages ++ after.messages, result := after.result }

@[simp] theorem next_silent_ok (value : alpha) (step : alpha -> Report beta) :
    (silent (.ok value)).next step = step value := by
  simp [silent, next]

end Report

/-- What verbs are run with unless a call says otherwise. -/
structure Settings where
  options : Options
  registry : Registry

namespace Settings

def initial : Settings := { options := Options.initial, registry := Registry.standard }

def planMessage (settings : Settings) (text : String) : List String :=
  if settings.options.code then ["generated plan:\n" ++ text] else []

end Settings

def Plan.execute (plan : Plan) (settings : Settings) (callers : CallerFunctions)
    (data : Dataset) : Report Dataset :=
  match plan.render with
  | .error failure => Report.silent (.error failure)
  | .ok text =>
      { messages := settings.planMessage text ++ plan.notes callers data
        result := plan.run callers data }

namespace Invocation

def run (call : Invocation) (settings : Settings) (data : Dataset) : Report Dataset :=
  match call.plan data with
  | .error failure => Report.silent (.error failure)
  | .ok plan => plan.execute settings call.env.functions data

end Invocation

namespace Verb

def invoke (verb : Verb) (settings : Settings) (env : Environment) (values : List Value)
    (data : Dataset) : Report Dataset :=
  let call : Invocation :=
    { verb := verb, values := values, named := [], env := env, registry := settings.registry }
  call.run settings data

end Verb

/-!
# Counting
-/

namespace Dataset

def markQuoted (name : String) : String :=
  "\x60" ++ name ++ "\x60"

def countFragment (name : String) : Value :=
  .str (markQuoted name ++ " = n()")

def largestFirst (name : String) : Value :=
  .str ("desc(" ++ markQuoted name ++ ")")

def sortedByCount (settings : Settings) (env : Environment) (sorted : Bool) (name : String)
    (data : Dataset) : Report Dataset :=
  if sorted then Verb.arrange.invoke settings env [largestFirst name] data
  else Report.silent (.ok data)

def tally (settings : Settings) (sorted : Bool) (name : String) (data : Dataset) :
    Report Dataset :=
  (Verb.summarize.invoke settings Environment.empty [countFragment name] data).next
    (sortedByCount settings Environment.empty sorted name)

def groupSymbols (data : Dataset) : Outcome (List Value) :=
  data.groups.mapM fun key => Outcome.ofFault (Interpolation.symbol (.str key))

def count (settings : Settings) (env : Environment) (values : List Value) (sorted : Bool)
    (name : String) (data : Dataset) : Report Dataset :=
  let grouped := (Report.silent data.groupSymbols).next fun symbols =>
    Verb.groupBy.invoke settings env (symbols ++ values) data
  let counted := grouped.next fun found =>
    Verb.summarize.invoke settings env [countFragment name]
      (if found.isGrouped then found else data)
  let regrouped := counted.next fun found => Report.silent (found.regroup data.groups)
  regrouped.next (sortedByCount settings env sorted name)

/-!
# Single columns
-/

def columnFromEnd (header : List String) (n : Int) : Outcome String :=
  match header[(n + Int.ofNat header.length).toNat]? with
  | some name =>
      if n + Int.ofNat header.length < 0 then outOfRange else .ok name
  | none => outOfRange
where
  outOfRange : Outcome String :=
    Compile.noColumnAt n ("for " ++ toString header.length ++ " columns")

def columnNamed (settings : Settings) (env : Environment) (data : Dataset) (node : Node) :
    Outcome String :=
  let selected : Outcome String := do
    let names <- Compile.selectNames
      (Scope.ofColumns data.header settings.registry env) node
    Request.onlyColumn names
  match node with
  | .literal (.int n) => if n < 0 then columnFromEnd data.header n else selected
  | _ => selected

def pulledColumn (settings : Settings) (env : Environment) (value : Value) (data : Dataset) :
    Outcome String := do
  let source <- Verb.fragmentOf value
  match <- Interpolation.resolveAll env [source] with
  | [fragment] =>
      Outcome.inFragment fragment.source (data.columnNamed settings env fragment.node)
  | _ => .error (.fault Fault.badValue)

def pull (settings : Settings) (env : Environment) (value : Value) (data : Dataset) :
    Report (List Value) :=
  match data.pulledColumn settings env value with
  | .error failure => Report.silent (.error failure)
  | .ok name =>
      { messages := settings.planMessage ("pull(data, " ++ Text.quoted name ++ ")")
        result := .ok (data.firstColumn name) }

end Dataset
end Wrangle
