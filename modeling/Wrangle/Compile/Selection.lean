import Wrangle.Compile.Expression
import Wrangle.Function.NameTest

/-!
# Selections

Selections name columns, leave columns out, or compute new ones.  A selection is
compiled to the columns it includes and the columns it excludes.
-/

namespace Wrangle
namespace Compile

/-!
# Single columns
-/

def knownColumn (scope : Scope) (name : String) : Outcome String :=
  if scope.columns.contains name then .ok name else Outcome.reject (scope.unknownColumn name)

/-- There is no column at a position, which has to be written to say so. -/
def noColumnAt (n : Int) (range : String) : Outcome alpha := do
  let text <- Outcome.ofFault (Value.int n).render?
  Outcome.reject
    (UserError.coded "E_COLUMN_POSITION"
      ("Column position " ++ text ++ " is out of range " ++ range ++ ".") none none)

def columnAtPosition (scope : Scope) (n : Int) : Outcome String :=
  let size := scope.columns.length
  let found := if 1 <= n then scope.columns[(n - 1).toNat]? else none
  match found with
  | some name => .ok name
  | none => noColumnAt n ("(1.." ++ toString size ++ ")")

def columnOf (scope : Scope) : Node -> Outcome String
  | .identifier name => knownColumn scope name
  | .literal (.str name) => knownColumn scope name
  | .literal (.int n) => columnAtPosition scope n
  | node => unusable node "" " does not name a column." none

def columnsBetween (columns : List String) (first last : String) : List String :=
  let low := columns.idxOf first
  let high := columns.idxOf last
  if low <= high then (columns.drop low).take (high - low + 1)
  else ((columns.drop high).take (low - high + 1)).reverse

/-!
# Inclusions and exclusions
-/

structure ColumnSets where
  included : List String
  excluded : List String
  deriving DecidableEq, Repr

namespace ColumnSets

def empty : ColumnSets := { included := [], excluded := [] }

def only (columns : List String) : ColumnSets := { included := columns, excluded := [] }

def swap (sets : ColumnSets) : ColumnSets :=
  { included := sets.excluded, excluded := sets.included }

/-- Put the names that are not there yet at the end of a list. -/
def addNew (names more : List String) : List String :=
  names ++ more.filter fun name => !names.contains name

def union (sets more : ColumnSets) : ColumnSets :=
  { included := addNew sets.included more.included
    excluded := addNew sets.excluded more.excluded }

end ColumnSets

def literalArguments (head : String) : List Node -> Outcome (List Value)
  | [] => .ok []
  | .literal value :: rest => (literalArguments head rest).map (value :: ·)
  | node :: _ => unusable node (head ++ "() expects literal arguments, got ") "." none

def filterColumns (test : NameTest) : List String -> Except Fault (List String)
  | [] => .ok []
  | name :: rest => do
      let passes <- test.holds name
      let others <- filterColumns test rest
      .ok (if passes then name :: others else others)

def helperColumns (scope : Scope) (helper : SelectionHelper) (head : String) (args : List Node) :
    Outcome (List String) := do
  let values <- literalArguments head args
  let test <- Outcome.ofFault (helper.test values [] scope.env.functions.host.character?)
  Outcome.ofFault (filterColumns test scope.visibleColumns)

def noSelection (node : Node) : Outcome ColumnSets :=
  unusable node "" " is not a column selection."
    (some ("Use column names, -name, a:b ranges, starts_with(), ends_with(), " ++
      "matches(), contains()."))

def listHeads : List String := ["c", "Cols"]

mutual

def columnSets (scope : Scope) : Node -> Outcome ColumnSets
  | .call head [operand] kwargs true =>
      if head == "-" || head == "!" then (columnSets scope operand).map ColumnSets.swap
      else noSelection (.call head [operand] kwargs true)
  | .literal (.int n) =>
      if n < 0 then
        (columnAtPosition scope (-n)).map fun name => { included := [], excluded := [name] }
      else (columnAtPosition scope n).map fun name => .only [name]
  | .identifier name => (columnOf scope (.identifier name)).map fun name => .only [name]
  | .literal value => (columnOf scope (.literal value)).map fun name => .only [name]
  | .range start stop => do
      let first <- columnOf scope start
      let last <- columnOf scope stop
      .ok (.only (columnsBetween scope.columns first last))
  | .call head args kwargs false =>
      match SelectionHelper.ofName? head with
      | some helper => (helperColumns scope helper head args).map .only
      | none =>
          if listHeads.contains head then columnSetsOf scope .empty args
          else noSelection (.call head args kwargs false)
  | .vector items => columnSetsOf scope .empty items
  | .tuple items => columnSetsOf scope .empty items
  | node => noSelection node

/-- The sets of all items of a list, added to those of the items before. -/
def columnSetsOf (scope : Scope) (sets : ColumnSets) : List Node -> Outcome ColumnSets
  | [] => .ok sets
  | node :: rest => do
      let more <- columnSets scope node
      columnSetsOf scope (sets.union more) rest

end

/-- The columns of a selection; one that only leaves columns out starts from all of them. -/
def selectNames (scope : Scope) (node : Node) : Outcome (List String) := do
  let sets <- columnSets scope node
  let included :=
    if !sets.excluded.isEmpty && sets.included.isEmpty then scope.visibleColumns
    else sets.included
  .ok (included.filter fun name => !sets.excluded.contains name)

end Compile
end Wrangle
