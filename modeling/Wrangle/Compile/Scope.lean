import Wrangle.Expr.Basic
import Wrangle.Interpolation.Resolution
import Wrangle.Registry
import Wrangle.Text.Similarity

/-!
# Scopes

What is known while a fragment is compiled: the columns, the functions that see
whole columns, the functions of the caller, and which columns are summaries.
-/

namespace Wrangle

/-!
# Reserved names
-/

def reservedStart : String := "__tidyverbs_"

def countColumn : String := reservedStart ++ "n"

def rowNumberColumn : String := reservedStart ++ "row_number"

def isReserved (name : String) : Bool :=
  reservedStart.toList.isPrefixOf name.toList

def rowFunctions : List String := [countFunction, rowNumberFunction]

/-- What a fragment is compiled for. -/
inductive Mode where
  | selection
  | transform
  | aggregate
  | condition
  deriving DecidableEq, Repr

structure Scope where
  columns : List String
  registry : Registry
  env : Environment
  summaries : List String
  sortKeys : Nat

namespace Scope

def ofColumns (columns : List String) (registry : Registry) (env : Environment) : Scope :=
  { columns := columns, registry := registry, env := env, summaries := [], sortKeys := 0 }

def addColumn (scope : Scope) (name : String) : Scope :=
  if scope.columns.contains name then scope
  else { scope with columns := scope.columns ++ [name] }

def addColumns (scope : Scope) (names : List String) : Scope :=
  names.foldl addColumn scope

/-- Make the names of summaries referable; they read back as one value for each group. -/
def addSummaries (scope : Scope) (names : List String) : Scope :=
  let extended := scope.addColumns names
  { extended with summaries := extended.summaries ++ names }

def visibleColumns (scope : Scope) : List String :=
  scope.columns.filter fun name => !isReserved name

/-!
# Suggestions
-/

def suggestion (name : String) (candidates : List String) : String :=
  match Text.closestName? name candidates with
  | some close => "Did you mean " ++ Text.quoted close ++ "?"
  | none =>
      "Available: " ++
        Text.joined ", " (candidates.filter fun candidate => !isReserved candidate)

def unknownColumn (scope : Scope) (name : String) : UserError :=
  UserError.coded "E_UNKNOWN_COLUMN" ("Unknown column " ++ Text.quoted name ++ ".")
    (some (suggestion name scope.columns ++
      " To use a variable instead of a column, interpolate it: !!" ++ name))
    none

/-!
# Functions
-/

/-- Functions are found in the library, among the variables of the caller, and at hand. -/
def function? (scope : Scope) (name : String) : Option Function :=
  match LibraryFunction.ofName? name with
  | some f => some (.library f)
  | none =>
      match scope.env.get? name with
      | some (.function f) => some f
      | _ => Ambient.function? name

def resolveFunction (scope : Scope) (name : String) : Outcome Function :=
  match scope.function? name with
  | some f => .ok f
  | none =>
      Outcome.reject
        (UserError.unsupported ("Unknown function " ++ Text.quoted name ++ ".")
          (some (suggestion name (LibraryFunction.names ++ scope.env.functionNames))))

def isElementWise (scope : Scope) (head : String) (mode : Mode) (top : Bool) : Bool :=
  !scope.registry.contains head && !(mode == .aggregate && top)

/-- What a name that stands alone refers to: a column first, then a function. -/
def name? (scope : Scope) (name : String) : Outcome Expr :=
  if scope.columns.contains name then .ok (.column name)
  else if rowFunctions.contains name then
    Outcome.reject
      (UserError.unsupported
        (Text.quoted name ++ " is a function; call it as " ++ name ++ "().") none)
  else
    match scope.function? name with
    | some f => .ok (.functionRef name f)
    | none =>
        if scope.registry.contains name then
          (scope.resolveFunction name).map (Expr.functionRef name)
        else Outcome.reject (scope.unknownColumn name)

end Scope
end Wrangle
