import Wrangle.Plan.Call

/-!
# Plans

A plan is the list of operations that one call of a verb comes down to, in the
order in which they are carried out.  Running a plan stops at the first step that
fails.
-/

namespace Wrangle

open Text

/-!
# Steps
-/

/-- A step is an operation, or a call that asks for one. -/
inductive Step where
  | operation (op : Operation)
  | call (c : Call)

namespace Step

instance : Inhabited Step := ⟨operation .ungroup⟩

def asCall : Step -> Call
  | operation op => op.call
  | call c => c

def resolve (data : Dataset) : Step -> Outcome Operation
  | operation op => .ok op
  | call c => c.operation data

def apply (callers : CallerFunctions) (data : Dataset) (step : Step) : Outcome Dataset := do
  let op <- step.resolve data
  op.apply callers data

def notes (data : Dataset) (step : Step) : List String :=
  match step.resolve data with
  | .ok op => op.notes data
  | .error _ => []

end Step

/-!
# Plans
-/

structure Plan where
  verb : String
  steps : List Step

namespace Plan

def empty (verb : String) : Plan := { verb := verb, steps := [] }

def ofOperations (verb : String) (ops : List Operation) : Plan :=
  { verb := verb, steps := ops.map .operation }

def notStep : UserError :=
  UserError.coded "E_PLAN_STEP" "Plan.then expects an EngineCall."
    (some "Example: plan.then(EngineCall('ungroup'))") none

def stepsText : List Step -> Outcome String
  | [] => .ok ""
  | step :: rest => do
      let text <- step.asCall.render
      let others <- stepsText rest
      .ok ("\n  |> " ++ text ++ others)

def render (plan : Plan) : Outcome String :=
  (stepsText plan.steps).map fun text => plan.verb ++ "(data)" ++ text

def calls (plan : Plan) : Outcome (List (String × List (String × Document))) :=
  plan.steps.mapM fun step =>
    (step.asCall.documents).map fun params => (step.asCall.op, params)

def stepDocument (entry : String × List (String × Document)) : Document :=
  .mapping [("op", .text entry.1), ("params", .mapping entry.2)]

def document (plan : Plan) : Outcome Document :=
  plan.calls.map fun entries =>
    .mapping [("tidyverbs", .int 0),
      ("plan", .mapping [("verb", .text plan.verb),
        ("steps", .list (entries.map stepDocument))])]

/-!
# Running
-/

def runSteps (callers : CallerFunctions) : List Step -> Dataset -> Outcome Dataset
  | [], data => .ok data
  | step :: rest, data => do
      let next <- step.apply callers data
      runSteps callers rest next

def run (callers : CallerFunctions) (plan : Plan) (data : Dataset) : Outcome Dataset :=
  runSteps callers plan.steps data

/-- The steps that succeed in a row, each with the dataset that it leads to. -/
def reached (callers : CallerFunctions) : List Step -> Dataset -> List (Step × Dataset)
  | [], _ => []
  | step :: rest, data =>
      match step.apply callers data with
      | .ok next => (step, next) :: reached callers rest next
      | .error _ => []

def notesOf (callers : CallerFunctions) : List Step -> Dataset -> List String
  | [], _ => []
  | step :: rest, data =>
      step.notes data ++
        match step.apply callers data with
        | .ok next => notesOf callers rest next
        | .error _ => []

def notes (callers : CallerFunctions) (plan : Plan) (data : Dataset) : List String :=
  notesOf callers plan.steps data

def previewRows : Nat := 5

/-- What is recorded after a step: its place and operation, and the dataset. -/
structure Checkpoint where
  index : Nat
  op : String
  data : Dataset

def Checkpoint.preview (point : Checkpoint) : List (List Value) :=
  point.data.rows.take previewRows

def checkpoints (callers : CallerFunctions) (plan : Plan) (data : Dataset) : List Checkpoint :=
  (reached callers plan.steps data).zipIdx.map fun entry =>
    { index := entry.2, op := entry.1.1.asCall.op, data := entry.1.2 }

theorem runSteps_append (callers : CallerFunctions) (steps more : List Step) (data : Dataset) :
    runSteps callers (steps ++ more) data =
      (runSteps callers steps data >>= runSteps callers more) := by
  induction steps generalizing data with
  | nil => rfl
  | cons step rest ih =>
      simp only [List.cons_append, runSteps]
      cases step.apply callers data with
      | error failure => rfl
      | ok next => exact ih next

end Plan
end Wrangle
