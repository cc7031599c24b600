import Wrangle.Outcome
import Wrangle.Value.Equality

/-!
# Registries of whole-column functions

A registry holds the names of the functions that are given whole columns; every
other function is applied to one row after another.
-/

namespace Wrangle

structure Registry where
  defaults : List String
  names : List String
  deriving Repr

namespace Registry

def standardNames : List String := [
  ":", "Ref", "Set", "Cols",
  "lag", "lead", "ntile", "repeat", "across", "desc",
  "mean", "std", "var", "median", "quantile",
  "first", "last", "nth", "minimum", "maximum", "sum", "length", "n_distinct",
  "skipmissing", "passmissing", "cumsum", "cumprod", "accumulate",
  "min_rank", "dense_rank", "percent_rank",
  "starts_with", "ends_with", "matches", "contains", "everything", "c"]

def ofNames (names : List String) : Registry :=
  { defaults := names, names := names.eraseDups }

def standard : Registry := ofNames standardNames

def contains (registry : Registry) (name : String) : Bool :=
  registry.names.contains name

def has (registry : Registry) : Value -> Bool
  | .str name => registry.contains name
  | _ => false

def insert (registry : Registry) (name : String) : Registry :=
  if registry.contains name then registry
  else { registry with names := registry.names ++ [name] }

def erase (registry : Registry) (name : String) : Registry :=
  { registry with names := registry.names.filter fun other => other != name }

def reset (registry : Registry) : Registry :=
  { registry with names := registry.defaults.eraseDups }

def size (registry : Registry) : Nat :=
  registry.names.length

def sortedNames (registry : Registry) : List String :=
  registry.names.mergeSort fun a b => decide (a <= b)

def render (registry : Registry) : String :=
  "VectorizationRegistry(" ++ toString registry.size ++ " names)"

/-!
# Values as names

Names that come as values are taken one after another; those before a value that
is no name are kept.
-/

def addAll (registry : Registry) : List Value -> Registry × Except Fault Unit
  | [] => (registry, .ok ())
  | .str name :: rest =>
      if name.isEmpty then (registry, .error .badType) else addAll (registry.insert name) rest
  | _ :: _ => (registry, .error .badType)

def discardAll (registry : Registry) : List Value -> Registry × Except Fault Unit
  | [] => (registry, .ok ())
  | .str name :: rest => discardAll (registry.erase name) rest
  | value :: rest =>
      if value.canBeSought then discardAll registry rest else (registry, .error .badType)

end Registry
end Wrangle
