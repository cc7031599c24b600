import Wrangle.Verb.Basic

/-!
# Planning

The operations that a verb comes down to.  Columns for the size of groups and the
number of rows are added first when a fragment asks for them, and reserved columns
are dropped in the end.  Operations that would lose the groups are enclosed by
ungrouping and grouping again.
-/

namespace Wrangle
namespace Request

def keys (request : Request) : List String :=
  request.data.groups

/-!
# Reserved columns
-/

def mentionsCount (request : Request) : Bool :=
  request.fragments.any ResolvedFragment.mentionsCount

def mentionsRowNumber (request : Request) : Bool :=
  request.fragments.any ResolvedFragment.mentionsRowNumber

def rowColumns (request : Request) : List Operation :=
  (if request.mentionsCount then [.addRowCount countColumn] else []) ++
    (if request.mentionsRowNumber then [.addRowNumber rowNumberColumn] else [])

def fullScope (request : Request) : Scope :=
  let counted :=
    if request.mentionsCount then request.scope.addColumn countColumn else request.scope
  if request.mentionsRowNumber then counted.addColumn rowNumberColumn else counted

def enclosed (request : Request) (ops : List Operation) : List Operation :=
  request.rowColumns ++ ops ++ [.dropReserved]

def whileFlat (request : Request) (ops : List Operation) : List Operation :=
  if request.keys.isEmpty then ops
  else [.ungroup] ++ ops ++ [.regroup request.keys]

/-!
# Fragments
-/

def extendScope (mode : Mode) (scope : Scope) (names : List String) : Scope :=
  if mode == .aggregate then scope.addSummaries names else scope.addColumns names

/-- The assignments of fragments; each of them sees the columns of those before it. -/
def assigns (mode : Mode) : Scope -> List ResolvedFragment -> Outcome (List Assign)
  | _, [] => .ok []
  | scope, fragment :: rest => do
      let found <- Outcome.inFragment fragment.source (Compile.assigns scope mode fragment.node)
      let others <- assigns mode (extendScope mode scope (found.map Assign.name)) rest
      .ok (found.map (Assign.withSource fragment.source) ++ others)

def onlyNames : Outcome alpha :=
  Outcome.reject
    (UserError.unsupported "Only column names are accepted here, not computed columns."
      (some "Add the column with mutate() first."))

def columnNames (scope : Scope) (names : List String) :
    List ResolvedFragment -> Outcome (List String)
  | [] => .ok names
  | fragment :: rest => do
      let picked <- Outcome.inFragment fragment.source
        (if fragment.node.isAssignment then onlyNames
          else Compile.selectNames scope fragment.node)
      columnNames scope (Compile.ColumnSets.addNew names picked) rest

def notPair : Outcome alpha :=
  Outcome.reject
    (UserError.unsupported "rename() expects new = old pairs."
      (some ("Example: rename(data, 'person = person_id') or " ++
        "rename(data, person='person_id')")))

def onlyColumn (names : List String) : Outcome String :=
  match names with
  | [name] => .ok name
  | _ => .error (.fault Fault.badValue)

def renamedPair (scope : Scope) (node : Node) : Outcome (String × String) :=
  let pair (target : String) (value : Node) : Outcome (String × String) := do
    let names <- Compile.selectNames scope value
    let old <- onlyColumn names
    .ok (old, target)
  match node with
  | .assignment target (.identifier name) => pair target (.identifier name)
  | .assignment target (.literal value) => pair target (.literal value)
  | _ => notPair

def renamings (scope : Scope) (mapping : List (String × String)) :
    List ResolvedFragment -> Outcome (List (String × String))
  | [] => .ok mapping
  | fragment :: rest => do
      let entry <- Outcome.inFragment fragment.source (renamedPair scope fragment.node)
      renamings scope (Dataset.putEntry mapping entry) rest

def condition (scope : Scope) (fragment : ResolvedFragment) : Outcome Assign :=
  Outcome.inFragment fragment.source do
    let e <- Compile.condition scope fragment.node
    .ok { name := fragment.node.unparse, expr := e, source := some fragment.source }

def groupKeys (scope : Scope) (names : List String) :
    List ResolvedFragment -> Outcome (List Assign × List String)
  | [] => .ok ([], names)
  | fragment :: rest => do
      let (found, keys, after) <- Outcome.inFragment fragment.source
        (Compile.groupKeys scope fragment.node)
      let (others, all) <- groupKeys after (Compile.ColumnSets.addNew names keys) rest
      .ok (found.map (Assign.withSource fragment.source) ++ others, all)

def sortKeys (scope : Scope) : List ResolvedFragment -> Outcome (List Assign × List SortKey)
  | [] => .ok ([], [])
  | fragment :: rest => do
      let (found, key, after) <- Outcome.inFragment fragment.source
        (Compile.orderKey scope fragment.node)
      let (others, keys) <- sortKeys after rest
      .ok (found.map (Assign.withSource fragment.source) ++ others, key :: keys)

/-!
# Operations
-/

def transformOf (assigns : List Assign) : List Operation :=
  if assigns.isEmpty then [] else [.transform assigns]

def planSelect (request : Request) : Outcome (List Operation) := do
  let items <- Compile.selection request.fullScope
    (request.fragments.map fun fragment => (fragment.node, some fragment.source))
  .ok (request.enclosed [.select items])

def planRename (request : Request) : Outcome (List Operation) := do
  let mapping <- renamings request.scope [] request.fragments
  .ok [.rename (mapping.map fun entry => (.name entry.1, entry.2))]

def planMutate (request : Request) : Outcome (List Operation) := do
  let found <- assigns .transform request.fullScope request.fragments
  .ok (request.enclosed (transformOf found))

def planSummarize (request : Request) : Outcome (List Operation) := do
  let found <- assigns .aggregate request.fullScope request.fragments
  let outer := request.keys.dropLast
  .ok (request.enclosed [.summarize found] ++
    (if outer.isEmpty then [] else [.regroup outer]))

def planFilter (request : Request) : Outcome (List Operation) := do
  let conditions <- request.fragments.mapM (condition request.fullScope)
  .ok (request.enclosed (if conditions.isEmpty then [] else [.subset conditions]))

def planGroupBy (request : Request) : Outcome (List Operation) := do
  let (found, names) <- groupKeys request.fullScope [] request.fragments
  .ok (request.enclosed (transformOf found) ++
    [if names.isEmpty then .ungroup else .groupBy names])

def planSlice (request : Request) : Outcome (List Operation) := do
  let positions <- Outcome.inFragment
    (Text.joined ", " (request.fragments.map ResolvedFragment.source))
    (Positions.ofNodes (request.fragments.map ResolvedFragment.node))
  .ok [.slice positions]

def planArrange (request : Request) : Outcome (List Operation) := do
  if request.fragments.isEmpty then .ok []
  else
    let (found, keys) <- sortKeys request.fullScope request.fragments
    let sorting := transformOf found ++ [.sort keys]
    .ok (request.rowColumns ++ request.whileFlat (sorting ++ [.dropReserved]))

def planDistinct (request : Request) : Outcome (List Operation) := do
  let names <- columnNames request.fullScope [] request.fragments
  .ok (request.whileFlat (request.enclosed [.unique names]))

def planDropMissing (request : Request) : Outcome (List Operation) := do
  let names <- columnNames request.scope [] request.fragments
  .ok (request.whileFlat [.dropMissing (names.map .str)])

end Request

namespace Verb

def plan (verb : Verb) (request : Request) : Outcome (List Operation) :=
  match verb with
  | select | transmute => request.planSelect
  | rename => request.planRename
  | mutate => request.planMutate
  | summarize | summarise => request.planSummarize
  | filter => request.planFilter
  | groupBy => request.planGroupBy
  | ungroup => .ok [.ungroup]
  | slice => request.planSlice
  | arrange => request.planArrange
  | distinct => request.planDistinct
  | dropMissing => request.planDropMissing

end Verb

namespace Invocation

def operations (call : Invocation) (data : Dataset) : Outcome (List Operation) := do
  let request <- call.request data
  call.verb.plan request

def plan (call : Invocation) (data : Dataset) : Outcome Plan :=
  (call.operations data).map (Plan.ofOperations call.verb.name)

end Invocation
end Wrangle
