import Wrangle.Compile.Selection

/-!
# Compilation of fragments

A fragment that computes columns becomes a list of assignments; a fragment that
selects rows becomes a condition.  A computed column without a name is named by
the canonical text of its fragment.
-/

namespace Wrangle
namespace Compile

/-!
# Several columns at once
-/

def acrossParameters : List String := [".cols", "cols", ".fns", "fns"]

def appendNamed (args : List Node) (named : List (String × Node)) :
    List String -> List Node × List (String × Node)
  | [] => (args, named)
  | name :: rest =>
      match named.lookup name with
      | none => appendNamed args named rest
      | some node =>
          appendNamed (args ++ [node]) (named.filter fun entry => entry.1 != name) rest

def functionName : Node -> Outcome String
  | .identifier name => .ok name
  | node => unusable node "across() functions must be given by name, got " "." none

def functionNodes : Node -> List Node
  | .tuple items => items
  | .vector items => items
  | node => [node]

def across (scope : Scope) (mode : Mode) (args : List Node) (kwargs : List (String × Node)) :
    Outcome (List Assign) := do
  match appendNamed args (lastNamed kwargs) acrossParameters with
  | ([columnsNode, functionsNode], []) => do
      let columns <- selectNames scope columnsNode
      let names <- (functionNodes functionsNode).mapM functionName
      let pairs := columns.flatMap fun column => names.map fun name => (column, name)
      pairs.mapM fun pair => do
        let e <- expr scope mode true (.apply pair.2 [.identifier pair.1])
        .ok { name := pair.1 ++ "_" ++ pair.2, expr := e, source := none }
  | _ =>
      unsupported "across() takes the columns and the function(s) to apply."
        (some "Example: across((a, b), (mean, median))")

/-!
# Computed columns
-/

def isAcross : Node -> Bool
  | .call head _ _ _ => head == "across"
  | _ => false

def assigns (scope : Scope) (mode : Mode) : Node -> Outcome (List Assign)
  | .assignment target value =>
      if isAcross value then
        unsupported
          ("across() cannot be assigned to a single column; it names its outputs itself.") none
      else do
        let e <- expr scope mode true value
        .ok [{ name := target, expr := e, source := none }]
  | .call "across" args kwargs false => across scope mode args kwargs
  | node => do
      let name <- Outcome.ofFault node.canonicalText?
      let e <- expr scope mode true node
      .ok [{ name := name, expr := e, source := none }]

/-!
# Conditions
-/

def notCondition (node : Node) (before after : String) (hint : Option String) : Outcome alpha := do
  let text <- shown node
  Outcome.reject (UserError.ofKind .nonBoolean (before ++ text ++ after) hint none)

def arithmeticSymbols : List String := ["+", "-", "*", "/", "%", "^"]

def condition (scope : Scope) (node : Node) : Outcome Expr := do
  match node with
  | .assignment target value => do
      let _ <- shown node
      notCondition node "" " is an assignment, not a condition."
        (some ("Did you mean " ++ target ++ " == " ++ value.unparse ++ "?"))
  | .literal value =>
      if value.isTruthValue then .ok (.literal value)
      else notCondition node "The literal " " is not a condition." none
  | .tuple _ | .vector _ | .range _ _ => notCondition node "" " is not a condition." none
  | .call head _ _ true =>
      if arithmeticSymbols.contains head then
        notCondition node "" " computes a value, not a condition."
          (some "Compare it with something, e.g. (a + b) > 10.")
      else expr scope .condition true node
  | _ => expr scope .condition true node

end Compile
end Wrangle
