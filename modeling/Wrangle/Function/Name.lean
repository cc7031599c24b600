/-!
# Names of functions

The functions that a fragment can call are known by name.  This module lists
the names of the library and of the operators; what the functions do is said
elsewhere.
-/

namespace Wrangle

/-!
# Library functions
-/

inductive LibraryFunction where
  | isMissing
  | coalesce
  | skipMissing
  | mean
  | median
  | variance
  | deviation
  | quantile
  | total
  | minimum
  | maximum
  | length
  | first
  | last
  | nth
  | distinctCount
  | combine
  | replicate
  | lag
  | lead
  | cumulativeSum
  | cumulativeProduct
  | accumulate
  | minRank
  | denseRank
  | percentRank
  | ntile
  | asFloat
  | asInteger
  | asString
  | isFloat
  | isInteger
  | isString
  | isBool
  | detect
  | squareRoot
  | exponential
  | logarithm
  | logarithmTen
  | floor
  | ceiling
  | lowercase
  | uppercase
  | strip
  deriving DecidableEq, Repr

namespace LibraryFunction

def table : List (String × LibraryFunction) := [
  ("is_missing", isMissing),
  ("ismissing", isMissing),
  ("coalesce", coalesce),
  ("skipmissing", skipMissing),
  ("mean", mean),
  ("median", median),
  ("var", variance),
  ("std", deviation),
  ("quantile", quantile),
  ("sum", total),
  ("minimum", minimum),
  ("maximum", maximum),
  ("length", length),
  ("first", first),
  ("last", last),
  ("nth", nth),
  ("n_distinct", distinctCount),
  ("c", combine),
  ("repeat", replicate),
  ("lag", lag),
  ("lead", lead),
  ("cumsum", cumulativeSum),
  ("cumprod", cumulativeProduct),
  ("accumulate", accumulate),
  ("min_rank", minRank),
  ("dense_rank", denseRank),
  ("percent_rank", percentRank),
  ("ntile", ntile),
  ("as_float", asFloat),
  ("as_integer", asInteger),
  ("as_string", asString),
  ("is_float", isFloat),
  ("is_integer", isInteger),
  ("is_string", isString),
  ("is_bool", isBool),
  ("str_detect", detect),
  ("sqrt", squareRoot),
  ("exp", exponential),
  ("log", logarithm),
  ("log10", logarithmTen),
  ("floor", floor),
  ("ceil", ceiling),
  ("lowercase", lowercase),
  ("uppercase", uppercase),
  ("strip", strip)]

def ofName? (name : String) : Option LibraryFunction :=
  table.lookup name

def names : List String :=
  table.map Prod.fst

def handlesMissing : LibraryFunction -> Bool
  | isMissing | coalesce | isFloat | isInteger | isString | isBool => true
  | _ => false

def isRowAligned : LibraryFunction -> Bool
  | lag | lead | cumulativeSum | cumulativeProduct | accumulate
  | minRank | denseRank | percentRank | ntile => true
  | _ => false

end LibraryFunction

/-!
# Operators
-/

inductive BinaryOperator where
  | add
  | subtract
  | multiply
  | divide
  | modulo
  | power
  | equal
  | notEqual
  | less
  | lessEqual
  | greater
  | greaterEqual
  | conjunction
  | disjunction
  | membership
  deriving DecidableEq, Repr

namespace BinaryOperator

def table : List (String × BinaryOperator) := [
  ("+", add),
  ("-", subtract),
  ("*", multiply),
  ("/", divide),
  ("%", modulo),
  ("^", power),
  ("==", equal),
  ("!=", notEqual),
  ("<", less),
  ("<=", lessEqual),
  (">", greater),
  (">=", greaterEqual),
  ("&", conjunction),
  ("|", disjunction),
  ("in", membership)]

def ofSymbol? (symbol : String) : Option BinaryOperator :=
  table.lookup symbol

def handlesMissing : BinaryOperator -> Bool
  | conjunction | disjunction => true
  | _ => false

end BinaryOperator

inductive UnaryOperator where
  | negate
  | invert
  deriving DecidableEq, Repr

namespace UnaryOperator

def table : List (String × UnaryOperator) := [
  ("-", negate),
  ("!", invert)]

def ofSymbol? (symbol : String) : Option UnaryOperator :=
  table.lookup symbol

end UnaryOperator

/-!
# Selection helpers
-/

inductive SelectionHelper where
  | startsWith
  | endsWith
  | matchesPattern
  | contains
  | everything
  deriving DecidableEq, Repr

namespace SelectionHelper

def table : List (String × SelectionHelper) := [
  ("starts_with", startsWith),
  ("ends_with", endsWith),
  ("matches", matchesPattern),
  ("contains", contains),
  ("everything", everything)]

def ofName? (name : String) : Option SelectionHelper :=
  table.lookup name

end SelectionHelper

/-!
# Functions as values
-/

/-- A function that a fragment can name or be given; `span` lists the integers of a range. -/
inductive Function where
  | library (f : LibraryFunction)
  | binary (op : BinaryOperator)
  | unary (op : UnaryOperator)
  | span
  | ambient (name : String)
  | caller (name : String)
  deriving DecidableEq, Repr

end Wrangle
