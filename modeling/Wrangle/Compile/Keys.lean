import Wrangle.Compile.Assignment

/-!
# Output columns and keys

The columns of a selection, the keys that rows are grouped by, and the keys that
rows are sorted by.
-/

namespace Wrangle
namespace Compile

/-!
# Output columns
-/

namespace Output

def names (items : List SelectionItem) : List String :=
  items.map SelectionItem.name

/-- Put an item in the place of the one with its name, or at the end. -/
def put (items : List SelectionItem) (item : SelectionItem) : List SelectionItem :=
  if (names items).contains item.name then
    items.map fun other => if other.name == item.name then item else other
  else items ++ [item]

def keepNew (items : List SelectionItem) (column : String) : List SelectionItem :=
  if (names items).contains column then items else items ++ [.keep column]

def drop (items : List SelectionItem) (column : String) : List SelectionItem :=
  items.filter fun item => item.name != column

/-- Leave columns out, and put others in, of a selection that may be the first one. -/
def apply (scope : Scope) (isFirst : Bool) (items : List SelectionItem) (sets : ColumnSets) :
    List SelectionItem :=
  let start :=
    if isFirst && !sets.excluded.isEmpty && sets.included.isEmpty then
      scope.visibleColumns.foldl (fun kept column => put kept (.keep column)) items
    else items
  sets.excluded.foldl drop (sets.included.foldl keepNew start)

end Output

def isUnsupported : Failure -> Bool
  | .user e => e.kind == .unsupported
  | .fault _ => false

def computed (scope : Scope) (items : List SelectionItem) (target : String) (value : Node)
    (source : Option String) : Outcome (List SelectionItem) := do
  let e <- expr scope .transform true value
  .ok (Output.put items (.computed { name := target, expr := e, source := source }))

def computedFragment (scope : Scope) (items : List SelectionItem) (node : Node)
    (source : Option String) : Outcome (List SelectionItem) :=
  match node with
  | .call "across" args kwargs false => do
      let found <- across scope .transform args kwargs
      .ok (found.foldl (fun kept assign =>
        Output.put kept (.computed { assign with source := source })) items)
  | _ => do
      let target <- Outcome.ofFault node.canonicalText?
      computed scope items target node source

def selectionStep (scope : Scope) (isFirst : Bool) (items : List SelectionItem) (node : Node)
    (source : Option String) : Outcome (List SelectionItem) :=
  match node with
  | .assignment target (.identifier column) =>
      if scope.columns.contains column then
        .ok (Output.put items (.picked { name := target, source := column }))
      else computed scope items target (.identifier column) source
  | .assignment target value => computed scope items target value source
  | _ =>
      match columnSets scope node with
      | .ok sets => .ok (Output.apply scope isFirst items sets)
      | .error failure =>
          if isUnsupported failure then computedFragment scope items node source
          else .error failure

/-- The fragment that an error is about: its text, or the tree when there is no text. -/
def aboutFragment (node : Node) (source : Option String) (outcome : Outcome alpha) :
    Outcome alpha :=
  match outcome, source with
  | .ok value, _ => .ok value
  | .error (.fault f), _ => .error (.fault f)
  | .error (.user e), some text =>
      if text.isEmpty then .error (.user (e.withFragment node.unparse))
      else .error (.user (e.withFragment text))
  | .error (.user e), none => .error (.user (e.withFragment node.unparse))

def selectionFrom (scope : Scope) (isFirst : Bool) (items : List SelectionItem) :
    List (Node × Option String) -> Outcome (List SelectionItem)
  | [] => .ok items
  | (node, source) :: rest => do
      let next <- aboutFragment node source (selectionStep scope isFirst items node source)
      selectionFrom scope false next rest

def selection (scope : Scope) (fragments : List (Node × Option String)) :
    Outcome (List SelectionItem) :=
  selectionFrom scope true [] fragments

/-!
# Grouping keys
-/

def groupKeys (scope : Scope) : Node -> Outcome (List Assign × List String × Scope)
  | .assignment target value => do
      let e <- expr scope .transform true value
      .ok ([{ name := target, expr := e, source := none }], [target], scope.addColumn target)
  | node => do
      let names <- selectNames scope node
      .ok ([], ColumnSets.addNew [] names, scope)

/-!
# Sorting keys
-/

def stripReversals (reverse : Bool) : Node -> Outcome (Bool × Node)
  | .call "desc" [key] [] false => stripReversals (!reverse) key
  | .call "desc" _ _ false => unsupported "desc() wraps exactly one sort key." none
  | node => .ok (reverse, node)

def columnKey? (scope : Scope) : Node -> Option String
  | .identifier name => if scope.columns.contains name then some name else none
  | .literal (.str name) => if scope.columns.contains name then some name else none
  | _ => none

/-- The sorting key of a fragment; a computed key becomes a reserved column first. -/
def orderKey (scope : Scope) (node : Node) : Outcome (List Assign × SortKey × Scope) := do
  let (reverse, key) <- stripReversals false node
  match columnKey? scope key with
  | some column => .ok ([], { column := column, reverse := reverse }, scope)
  | none => do
      let count := scope.sortKeys + 1
      let name := reservedStart ++ "key" ++ toString count
      let e <- expr scope .transform true key
      .ok ([{ name := name, expr := e, source := none }], { column := name, reverse := reverse },
        { scope with sortKeys := count })

end Compile
end Wrangle
