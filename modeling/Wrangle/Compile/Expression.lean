import Wrangle.Compile.Scope
import Wrangle.Fragment.Printer

/-!
# Compilation of expressions

A tree without markers becomes an expression.  Names are looked up among the
columns, functions are settled, and the special forms get their own expressions.
-/

namespace Wrangle
namespace Compile

def unsupported (message : String) (hint : Option String) : Outcome alpha :=
  Outcome.reject (UserError.unsupported message hint)

/-- The text of a node between quotes; a plain value that is no node has none. -/
def shown (node : Node) : Outcome String :=
  (Outcome.ofFault node.canonicalText?).map Text.quoted

/-!
# Arguments of special forms
-/

def lastNamed (named : List (String × alpha)) : List (String × alpha) :=
  named.foldl (fun kept entry =>
    if kept.any fun other => other.1 == entry.1 then
      kept.map fun other => if other.1 == entry.1 then entry else other
    else kept ++ [entry]) []

def placeNamed (label : String) (index : Nat) (args : List alpha) (named : List (String × alpha)) :
    List String -> Outcome (List alpha × List (String × alpha))
  | [] => .ok (args, named)
  | name :: rest =>
      match named.lookup name with
      | none => placeNamed label (index + 1) args named rest
      | some arg =>
          if index < args.length then
            unsupported (label ++ "() got " ++ Text.quoted name ++ " twice.") none
          else
            placeNamed label (index + 1) (args ++ [arg])
              (named.filter fun entry => entry.1 != name) rest

def choiceParameters : List String := ["condition", "yes", "no", "miss"]

def choice (args : List (Outcome Expr)) (named : List (String × Outcome Expr)) :
    Outcome Expr := do
  let (placed, rest) <- placeNamed "if_else" 0 args (lastNamed named) choiceParameters
  let malformed : Outcome Expr :=
    unsupported
      "if_else() takes a condition, a yes value, a no value and an optional missing value."
      (some "Example: if_else(age >= 18, 'adult', 'minor')")
  if !rest.isEmpty then malformed
  else
    match placed with
    | [condition, yes, no] => do
        .ok (.ifElse (<- condition) (<- yes) (<- no) (.literal .missing))
    | [condition, yes, no, miss] => do
        .ok (.ifElse (<- condition) (<- yes) (<- no) (<- miss))
    | _ => malformed

/-!
# Calls
-/

def operatorFunction (head : String) (count : Nat) : Outcome Function :=
  let found :=
    if count = 1 then (UnaryOperator.ofSymbol? head).map .unary
    else (BinaryOperator.ofSymbol? head).map .binary
  match found with
  | some f => .ok f
  | none => .error (.fault Fault.missingKey)

def callOf (scope : Scope) (mode : Mode) (top : Bool) (head : String) (f : Function)
    (args : List Expr) (kwargs : List (String × Expr)) : Expr :=
  if scope.isElementWise head mode top then .broadcast head f args kwargs
  else .apply head f args kwargs

/-- The number of rows of a group, or the number of a row in it. -/
def rowFunction (mode : Mode) (head : String) (bare : Bool) : Outcome Expr :=
  if !bare then unsupported (head ++ "() takes no arguments.") none
  else if head == countFunction then
    .ok (if mode == .aggregate then .groupSize else .column countColumn)
  else .ok (.column rowNumberColumn)

def misplaced? (head : String) : Option UserError :=
  if head == "across" then
    some (UserError.unsupported
      "across() must be the whole argument of mutate() or summarize()."
      (some "Example: summarize(data, 'across((a, b), (mean, std))')"))
  else if head == "desc" then
    some (UserError.unsupported "desc() is only meaningful inside arrange()." none)
  else if (SelectionHelper.ofName? head).isSome then
    some (UserError.unsupported
      (head ++ "() selects columns; use it in select() or across().") none)
  else none

def sequenceNamed : List (String × Outcome Expr) -> Outcome (List (String × Expr))
  | [] => .ok []
  | (name, outcome) :: rest => do
      let e <- outcome
      let others <- sequenceNamed rest
      .ok ((name, e) :: others)

def malformedCase : Outcome alpha :=
  unsupported "case_when() takes one or more condition => value clauses."
    (some "Example: case_when(x > 10 => 'high', x > 5 => 'mid', true => 'low')")

def unusable (node : Node) (before after : String) (hint : Option String) : Outcome alpha := do
  let text <- shown node
  unsupported (before ++ text ++ after) hint

/-!
# Expressions
-/

mutual

def expr (scope : Scope) (mode : Mode) (top : Bool) : Node -> Outcome Expr
  | .identifier name =>
      if mode == .aggregate && scope.summaries.contains name then .ok (.first (.column name))
      else scope.name? name
  | .literal value => .ok (.literal value)
  | .vector items => ((exprs scope mode items).mapM id).map .values
  | .tuple items => ((exprs scope mode items).mapM id).map .values
  | .range start stop => do
      let first <- expr scope mode false start
      let last <- expr scope mode false stop
      .ok (callOf scope mode top ":" .span [first, last] [])
  | .call head args _ true => do
      let f <- operatorFunction head args.length
      let operands <- (exprs scope mode args).mapM id
      .ok (callOf scope mode top head f operands [])
  | .call head args kwargs false =>
      if rowFunctions.contains head then rowFunction mode head (args.isEmpty && kwargs.isEmpty)
      else if head == "if_else" then
        choice (exprs scope mode args) (namedExprs scope mode kwargs)
      else if head == "case_when" then
        if !kwargs.isEmpty || args.isEmpty then malformedCase
        else (clauses scope mode args).map fun found => .caseWhen found.1 found.2
      else
        match misplaced? head with
        | some e => Outcome.reject e
        | none => do
            let f <- scope.resolveFunction head
            let values <- (exprs scope mode args).mapM id
            let named <- sequenceNamed (namedExprs scope mode kwargs)
            .ok (callOf scope mode top head f values named)
  | .pair left right =>
      unusable (.pair left right) "A clause " " is only valid inside case_when()."
        (some "Example: case_when(x > 1 => 'big', true => 'small')")
  | .assignment target value =>
      unusable (.assignment target value) "Assignment "
        " is only allowed at the top of a fragment." (some "Use == to compare values.")
  | .interpolate inner => unusable (.interpolate inner) "Unresolved interpolation in " "." none
  | .splice items => unusable (.splice items) "Unresolved interpolation in " "." none
  | .foreign value => unsupported ("Unsupported expression " ++ value.render ++ ".") none

def exprs (scope : Scope) (mode : Mode) : List Node -> List (Outcome Expr)
  | [] => []
  | node :: rest => expr scope mode false node :: exprs scope mode rest

def namedExprs (scope : Scope) (mode : Mode) :
    List (String × Node) -> List (String × Outcome Expr)
  | [] => []
  | (name, node) :: rest => (name, expr scope mode false node) :: namedExprs scope mode rest

/-- The clauses of a case distinction up to the one that always holds, and that one. -/
def clauses (scope : Scope) (mode : Mode) :
    List Node -> Outcome (List (Expr × Expr) × Option Expr)
  | [] => .ok ([], none)
  | .pair (.literal (.bool true)) value :: _ => do
      let otherwise <- expr scope mode false value
      .ok ([], some otherwise)
  | .pair condition value :: rest => do
      let test <- expr scope mode false condition
      let result <- expr scope mode false value
      let (others, otherwise) <- clauses scope mode rest
      .ok ((test, result) :: others, otherwise)
  | node :: _ => unusable node "case_when() clause " " is not of the form condition => value." none

end

end Compile
end Wrangle
