import Wrangle.Function.Name
import Wrangle.Value.Render

/-!
# Expressions

An expression computes a column or a single value from the columns of a group.
Its functions have been looked up, and it is settled whether they see whole
columns or one row after another.
-/

namespace Wrangle

open Text

inductive Expr where
  | column (name : String)
  | literal (value : Value)
  | values (items : List Expr)
  | functionRef (name : String) (f : Function)
  | broadcast (name : String) (f : Function) (args : List Expr) (kwargs : List (String × Expr))
  | apply (name : String) (f : Function) (args : List Expr) (kwargs : List (String × Expr))
  | groupSize
  | first (inner : Expr)
  | ifElse (condition yes no miss : Expr)
  | caseWhen (clauses : List (Expr × Expr)) (otherwise : Option Expr)
  deriving Repr

namespace Expr

instance : Inhabited Expr := ⟨groupSize⟩

def isMissingLiteral : Expr -> Bool
  | literal .missing => true
  | _ => false

mutual

def render : Expr -> String
  | column name => "col(" ++ Text.quoted name ++ ")"
  | literal value => value.render
  | values items => "[" ++ joined ", " (renderAll items) ++ "]"
  | functionRef name _ => name
  | broadcast name _ args kwargs =>
      "broadcast(" ++
        joined ", " (Text.quoted name :: (renderAll args ++ renderNamed kwargs)) ++ ")"
  | apply name _ args kwargs =>
      name ++ "(" ++ joined ", " (renderAll args ++ renderNamed kwargs) ++ ")"
  | groupSize => "n()"
  | first inner => "first(" ++ render inner ++ ")"
  | ifElse condition yes no miss =>
      "if_else(" ++
        joined ", " ([render condition, render yes, render no] ++
          (if miss.isMissingLiteral then [] else [render miss])) ++ ")"
  | caseWhen clauses none => "case_when(" ++ joined ", " (renderClauses clauses) ++ ")"
  | caseWhen clauses (some value) =>
      "case_when(" ++ joined ", " (renderClauses clauses ++ ["True => " ++ render value]) ++ ")"

def renderAll : List Expr -> List String
  | [] => []
  | e :: rest => render e :: renderAll rest

def renderNamed : List (String × Expr) -> List String
  | [] => []
  | (name, e) :: rest => (name ++ "=" ++ render e) :: renderNamed rest

def renderClauses : List (Expr × Expr) -> List String
  | [] => []
  | (condition, value) :: rest =>
      (render condition ++ " => " ++ render value) :: renderClauses rest

end

end Expr

/-!
# What expressions are used for
-/

/-- An expression computed into a named column, and the fragment it comes from. -/
structure Assign where
  name : String
  expr : Expr
  source : Option String
  deriving Repr

/-- A column kept under a name of its own or a new one. -/
structure Pick where
  name : String
  source : String
  deriving DecidableEq, Repr

/-- An output column of a selection. -/
inductive SelectionItem where
  | computed (assign : Assign)
  | picked (pick : Pick)
  deriving Repr

namespace SelectionItem

def name : SelectionItem -> String
  | computed assign => assign.name
  | picked pick => pick.name

def keep (column : String) : SelectionItem :=
  picked { name := column, source := column }

end SelectionItem

structure SortKey where
  column : String
  reverse : Bool
  deriving DecidableEq, Repr

namespace Assign

def withSource (source : String) (assign : Assign) : Assign :=
  { assign with source := some source }

def fragment (assign : Assign) : String :=
  match assign.source with
  | some source => if source.isEmpty then assign.name else source
  | none => assign.name

end Assign
end Wrangle
