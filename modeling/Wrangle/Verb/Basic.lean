import Wrangle.Compile.Keys
import Wrangle.Plan.Basic

/-!
# Verbs

The actions on datasets that are described by fragments.
-/

namespace Wrangle

inductive Verb where
  | select
  | transmute
  | rename
  | mutate
  | summarize
  | summarise
  | filter
  | groupBy
  | ungroup
  | slice
  | arrange
  | distinct
  | dropMissing
  deriving DecidableEq, Repr

namespace Verb

def table : List (String × Verb) := [
  ("arrange", arrange), ("distinct", distinct), ("drop_na", dropMissing), ("filter", filter),
  ("group_by", groupBy), ("mutate", mutate), ("rename", rename), ("select", select),
  ("slice", slice), ("summarise", summarise), ("summarize", summarize),
  ("transmute", transmute), ("ungroup", ungroup)]

def name : Verb -> String
  | select => "select"
  | transmute => "transmute"
  | rename => "rename"
  | mutate => "mutate"
  | summarize => "summarize"
  | summarise => "summarise"
  | filter => "filter"
  | groupBy => "group_by"
  | ungroup => "ungroup"
  | slice => "slice"
  | arrange => "arrange"
  | distinct => "distinct"
  | dropMissing => "drop_na"

def ofName? (name : String) : Option Verb :=
  table.lookup name

def ofName (name : String) : Outcome Verb :=
  match ofName? name with
  | some verb => .ok verb
  | none =>
      Outcome.reject
        (UserError.coded "E_UNKNOWN_VERB" ("Unknown verb " ++ Text.quoted name ++ ".")
          (some ("Verbs: " ++ Text.joined ", " (table.map Prod.fst))) none)

def takesNamed : Verb -> Bool
  | select | transmute | rename | mutate | summarize | summarise | groupBy => true
  | _ => false

theorem ofName?_name (verb : Verb) : ofName? verb.name = some verb := by
  cases verb <;> decide

end Verb

/-!
# Arguments
-/

namespace Verb

def fragmentOf (value : Value) : Outcome (Node × String) :=
  match value with
  | .str source => (parse true source).map fun node => (node, source)
  | .quoted source => .ok (Interpolation.quotedNode source, source)
  | .sym name => .ok (.identifier name, name)
  | .missing | .bool _ | .int _ | .float _ _ =>
      .ok (.literal value, (Node.literal value).unparse)
  | _ =>
      Outcome.reject
        (UserError.coded "E_FRAGMENT_TYPE"
          ("Verb arguments must be expression strings, got " ++ value.kindName ++ ".")
          (some ("Example: mutate(data, 'z = x + y') or mutate(data, z='x + y'). " ++
            "Use !!name to refer to variables."))
          (some value.printed))

def namedFragment (entry : String × Value) : Outcome (Node × String) := do
  let (node, source) <- fragmentOf entry.2
  if node.isAssignment then
    Outcome.reject
      (UserError.ofKind .unsupported
        ("Keyword argument " ++ entry.1 ++ "= holds an assignment.")
        (some ("Pass either " ++ entry.1 ++ "='expr' or 'name = expr', not both."))
        (some source))
  else .ok (.assignment entry.1 node, entry.1 ++ " = " ++ source)

def fragmentsOf (values : List Value) (named : List (String × Value)) :
    Outcome (List (Node × String)) := do
  let plain <- values.mapM fragmentOf
  let others <- named.mapM namedFragment
  .ok (plain ++ others)

end Verb

/-!
# Invocations
-/

/-- A verb with its arguments, and what they may refer to. -/
structure Invocation where
  verb : Verb
  values : List Value
  named : List (String × Value)
  env : Environment
  registry : Registry

/-- The fragments of an invocation on a dataset, and what is in scope for them. -/
structure Request where
  data : Dataset
  fragments : List ResolvedFragment
  scope : Scope

namespace Invocation

def request (call : Invocation) (data : Dataset) : Outcome Request := do
  let sources <- Verb.fragmentsOf call.values call.named
  let fragments <- Interpolation.resolveAll call.env sources
  .ok { data := data
        fragments := fragments
        scope := Scope.ofColumns data.header call.registry call.env }

end Invocation
end Wrangle
