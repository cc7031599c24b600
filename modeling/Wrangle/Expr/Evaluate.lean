import Wrangle.Expr.Basic
import Wrangle.Function.Apply
import Wrangle.Interpolation.Evaluation
import Wrangle.Value.Settled

/-!
# Evaluation of expressions

An expression is evaluated on the columns of one group.  An element-wise call
goes through the rows of its columns and repeats everything else; a missing
argument makes a missing result, unless the function asks for missing values.
-/

namespace Wrangle

/-- The columns of one group, and the number of its rows. -/
structure Frame where
  columns : List (String × List Value)
  nrows : Nat

namespace Frame

def column? (frame : Frame) (name : String) : Outcome Value :=
  match frame.columns.lookup name with
  | some items => .ok (.column items)
  | none => .error (.fault Fault.missingKey)

end Frame

namespace Expr

/-!
# Calls
-/

/-- A call; a fault is reported with the values that led to it.  The end of the program is none. -/
def checkedCall (callers : CallerFunctions) (name : String) (f : Function) (values : List Value)
    (named : List (String × Value)) : Outcome Value :=
  match f.apply callers values named with
  | .error (.fault (.raised fault)) => do
      let shown <- Outcome.ofFault (values.mapM Value.render?)
      Outcome.reject
        (UserError.coded "E_EVAL_FAILED"
          (name ++ "(" ++ Text.joined ", " shown ++ ") failed: " ++ fault.kind)
          (some "Check the column types; as_float()/as_integer() convert text columns.") none)
  | outcome => outcome

/-- The call for one row; missing arguments are handed on only where they are asked for. -/
def elementCall (callers : CallerFunctions) (name : String) (f : Function) (values : List Value)
    (named : List (String × Value)) : Outcome Value :=
  if !f.handlesMissing callers &&
      (values.any Value.isMissing || named.any fun entry => entry.2.isMissing) then
    .ok .missing
  else checkedCall callers name f values named

/-!
# Rows
-/

def columnLength? : Value -> Option Nat
  | .column items => some items.length
  | _ => none

/-- The value of a row: columns have one for each, all other values are repeated. -/
def atRow (i : Nat) : Value -> Value
  | .column items => items[i]?.getD .missing
  | value => value

/-- The common length of the columns among some values; none when there is no column. -/
def rowCount (values : List Value) : Outcome (Option Nat) :=
  match (values.filterMap columnLength?).eraseDups with
  | [] => .ok none
  | [n] => .ok (some n)
  | lengths =>
      Outcome.reject
        (UserError.coded "E_LENGTH_MISMATCH"
          ("Element-wise call received columns of different lengths: " ++
            Text.lengthsText lengths ++ ".")
          (some "Whole-column helpers (lag, cumsum, ...) must return one value per row.") none)

/-- Go through the rows of the columns among some values; without one there is a single value,
which may be repeated. -/
def overRows (name : String) (values : List Value) (row : Nat -> Outcome Value) :
    Outcome Value := do
  match <- rowCount values with
  | none => (row 0).map (Value.settled name values)
  | some n => ((List.range n).mapM row).map .column

/-!
# Branches
-/

/-- The kind of a value for the purpose of comparing branches; missing values have none. -/
def branchKind? (value : Value) : Option String :=
  match value with
  | .missing => none
  | .bool _ => some "boolean"
  | .int _ | .float _ _ | .decimal _ _ => some "number"
  | .str _ => some "string"
  | .date _ | .datetime _ | .time _ => some "temporal"
  | _ => some value.kindName

def branchKinds (value : Value) : List String :=
  match value with
  | .column items => items.filterMap branchKind?
  | _ => (branchKind? value).toList

def checkBranches (label : String) (branches : List Value) : Outcome Unit :=
  let kinds := (branches.flatMap branchKinds).eraseDups
  if 1 < kinds.length then
    Outcome.reject
      (UserError.coded "E_BRANCH_TYPE"
        (label ++ " branches have incompatible types: " ++
          Text.joined ", " (kinds.mergeSort fun a b => decide (a <= b)) ++ ".")
        (some ("Make every branch produce the same kind of value, " ++
          "e.g. wrap numbers with as_string()."))
        none)
  else .ok ()

def choose (i : Nat) (condition yes no miss : Value) : Value :=
  let c := atRow i condition
  if c.isMissing then atRow i miss
  else if c.isTruthy then atRow i yes
  else atRow i no

def firstClause (i : Nat) (otherwise : Value) : List (Value × Value) -> Value
  | [] => atRow i otherwise
  | (condition, value) :: rest =>
      if (atRow i condition).isTruthy then atRow i value else firstClause i otherwise rest

/-- The result of a call on whole columns: a list that has a value for each row is a column, and
anything else may be repeated. -/
def columnOrSettled (aligned : Bool) (name : String) (sources : List Value) (result : Value) :
    Value :=
  match result with
  | .list items => if aligned then .column items else result.settled name sources
  | _ => result.settled name sources

def collapse : Value -> Value
  | .column items => items.head?.getD .missing
  | value => value

/-!
# Evaluation
-/

mutual

def evaluate (callers : CallerFunctions) (frame : Frame) : Expr -> Outcome Value
  | column name => frame.column? name
  | literal value => .ok value
  | values items => (evaluateAll callers frame items).map .tuple
  | functionRef _ f => .ok (.function f)
  | broadcast name f args kwargs => do
      let values <- evaluateAll callers frame args
      let named <- evaluateNamed callers frame [] kwargs
      overRows name (values ++ named.map Prod.snd) fun i =>
        elementCall callers name f (values.map (atRow i))
          (named.map fun entry => (entry.1, atRow i entry.2))
  | apply name f args kwargs => do
      let values <- evaluateAll callers frame args
      let named <- evaluateNamed callers frame [] kwargs
      let result <- checkedCall callers name f values named
      .ok (columnOrSettled (f.isRowAligned callers) name (values ++ named.map Prod.snd) result)
  | groupSize => .ok (.int (Int.ofNat frame.nrows))
  | first inner => (evaluate callers frame inner).map collapse
  | ifElse condition yes no miss => do
      let c <- evaluate callers frame condition
      let y <- evaluate callers frame yes
      let n <- evaluate callers frame no
      let m <- evaluate callers frame miss
      checkBranches "if_else" [y, n, m]
      overRows "if_else" [c, y, n, m] fun i => .ok (choose i c y n m)
  | caseWhen clauses otherwise => do
      let conditions <- evaluateFirsts callers frame clauses
      let results <- evaluateSeconds callers frame clauses
      let fallback <-
        match otherwise with
        | some e => evaluate callers frame e
        | none => .ok .missing
      checkBranches "case_when" (results ++ [fallback])
      overRows "case_when" (conditions ++ results ++ [fallback]) fun i =>
        .ok (firstClause i fallback (conditions.zip results))

def evaluateAll (callers : CallerFunctions) (frame : Frame) : List Expr -> Outcome (List Value)
  | [] => .ok []
  | e :: rest => do
      let value <- evaluate callers frame e
      let others <- evaluateAll callers frame rest
      .ok (value :: others)

def evaluateNamed (callers : CallerFunctions) (frame : Frame) (named : List (String × Value)) :
    List (String × Expr) -> Outcome (List (String × Value))
  | [] => .ok named
  | (name, e) :: rest => do
      let value <- evaluate callers frame e
      evaluateNamed callers frame (Interpolation.putNamed named name value) rest

def evaluateFirsts (callers : CallerFunctions) (frame : Frame) :
    List (Expr × Expr) -> Outcome (List Value)
  | [] => .ok []
  | (e, _) :: rest => do
      let value <- evaluate callers frame e
      let others <- evaluateFirsts callers frame rest
      .ok (value :: others)

def evaluateSeconds (callers : CallerFunctions) (frame : Frame) :
    List (Expr × Expr) -> Outcome (List Value)
  | [] => .ok []
  | (_, e) :: rest => do
      let value <- evaluate callers frame e
      let others <- evaluateSeconds callers frame rest
      .ok (value :: others)

end

end Expr
end Wrangle
