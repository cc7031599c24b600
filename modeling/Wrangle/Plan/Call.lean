import Wrangle.Plan.Operation
import Wrangle.Yaml.Writer

/-!
# Calls of operations

An operation can be asked for by name, with named parameters.  A call has a text
and a document whatever its parameters are; it stands for an operation when they
are what the operation needs.
-/

namespace Wrangle

open Text

/-!
# Parameters
-/

inductive Param where
  | value (v : Value)
  | expr (e : Expr)
  | assign (a : Assign)
  | pick (p : Pick)
  | sortKey (k : SortKey)
  | positions (p : Positions)
  | list (items : List Param)

namespace Param

instance : Inhabited Param := ⟨value .missing⟩

def texts (items : List String) : Param :=
  list (items.map fun s => value (.str s))

def ofItem : SelectionItem -> Param
  | .computed a => .assign a
  | .picked p => .pick p

def pickText (p : Pick) : String :=
  if p.name == p.source then Text.quoted p.source
  else Text.quoted p.source ++ " => " ++ Text.quoted p.name

def sortKeyText (k : SortKey) : String :=
  if k.reverse then "desc(" ++ Text.quoted k.column ++ ")" else Text.quoted k.column

def bracketed (texts : List String) : String :=
  "[" ++ joined ", " texts ++ "]"

mutual

def valueText : Value -> String
  | .list items => bracketed (valueTexts items)
  | .column items => bracketed (valueTexts items)
  | .tuple items => bracketed (valueTexts items)
  | v => v.printed

def valueTexts : List Value -> List String
  | [] => []
  | v :: rest => valueText v :: valueTexts rest

end

mutual

def render : Param -> String
  | value v => valueText v
  | expr e => e.render
  | assign a => Text.quoted a.name ++ " => " ++ a.expr.render
  | pick p => pickText p
  | sortKey k => sortKeyText k
  | positions p => p.render
  | list items => bracketed (renderAll items)

def renderAll : List Param -> List String
  | [] => []
  | p :: rest => render p :: renderAll rest

end

mutual

/-- A plain value in a document: scalars and lists as they are, all else by its text. -/
def valueDocument : Value -> Document
  | .list items => .list (valueDocuments items)
  | .column items => .list (valueDocuments items)
  | .tuple items => .list (valueDocuments items)
  | .missing => .missing
  | .bool b => .bool b
  | .int n => .int n
  | .float x _ => .float x
  | .str s => .text s
  | v => .text v.printed

def valueDocuments : List Value -> List Document
  | [] => []
  | v :: rest => valueDocument v :: valueDocuments rest

end

mutual

def document : Param -> Document
  | value v => valueDocument v
  | list items => .list (documents items)
  | param => .text param.render

def documents : List Param -> List Document
  | [] => []
  | p :: rest => document p :: documents rest

end

def items? : Param -> Option (List Param)
  | list items => some items
  | value v => (v.asList?).map fun values => values.map value
  | _ => none

end Param

/-!
# Calls
-/

structure Call where
  op : String
  params : List (String × Param)

def Operation.call : Operation -> Call
  | addRowCount column => ⟨"add_row_count", [("column", .value (.str column))]⟩
  | addRowNumber column => ⟨"add_row_number", [("column", .value (.str column))]⟩
  | transform assigns => ⟨"transform", [("assignments", .list (assigns.map .assign))]⟩
  | select items => ⟨"select", [("items", .list (items.map Param.ofItem))]⟩
  | rename mapping =>
      ⟨"rename", [("mapping",
        .value (.dict (mapping.map fun entry => (entry.1.value, .str entry.2))))]⟩
  | dropReserved => ⟨"drop_pattern", [("pattern", .value (.str ("^" ++ reservedStart)))]⟩
  | dropPattern pattern => ⟨"drop_pattern", [("pattern", .value (.str pattern))]⟩
  | summarize assigns => ⟨"summarize", [("assignments", .list (assigns.map .assign))]⟩
  | subset conditions => ⟨"subset", [("predicates", .list (conditions.map .assign))]⟩
  | slice positions => ⟨"slice", [("indices", .positions positions)]⟩
  | sort keys => ⟨"sort", [("keys", .list (keys.map .sortKey))]⟩
  | unique columns => ⟨"unique", [("columns", .texts columns)]⟩
  | dropMissing asked => ⟨"drop_missing", [("columns", .list (asked.map .value))]⟩
  | groupBy keys => ⟨"group_by", [("keys", .texts keys)]⟩
  | ungroup => ⟨"ungroup", []⟩
  | regroup keys => ⟨"regroup", [("keys", .texts keys)]⟩

namespace Call

def operationNames : List String := [
  "add_row_count", "add_row_number", "drop_missing", "drop_pattern", "group_by", "regroup",
  "rename", "select", "slice", "sort", "subset", "summarize", "transform", "ungroup", "unique"]

def unknownOperation (op : String) : UserError :=
  UserError.coded "E_PLAN_OP" ("Engine op '" ++ op ++ "' is not implemented.")
    (some ("Supported ops: " ++ joined ", " operationNames)) none

def known (call : Call) (result : alpha) : Outcome alpha :=
  if operationNames.contains call.op then .ok result
  else Outcome.reject (unknownOperation call.op)

def render (call : Call) : Outcome String :=
  call.known
    (call.op ++ "(" ++
      joined ", " (call.params.map fun param => param.1 ++ "=" ++ param.2.render) ++ ")")

def documents (call : Call) : Outcome (List (String × Document)) :=
  call.known (call.params.map fun param => (param.1, param.2.document))

/-!
# From calls to operations
-/

def needed (call : Call) (key kind shown : String) : Outcome alpha :=
  Outcome.reject
    (UserError.coded "E_PLAN_OP"
      (call.op ++ " requires params." ++ key ++ " as a " ++ kind ++ ".")
      (some ("Example: EngineCall('" ++ call.op ++ "', \x7b'" ++ key ++ "': " ++ shown ++
        "\x7d)"))
      none)

def param? (call : Call) (key : String) : Option Param :=
  call.params.lookup key

def textParam (call : Call) (key shown : String) : Outcome String :=
  match call.param? key with
  | some (.value (.str s)) => .ok s
  | _ => call.needed key "str" shown

def listParam (call : Call) (key shown : String) : Outcome (List Param) :=
  match (call.param? key).bind Param.items? with
  | some items => .ok items
  | none => call.needed key "list" shown

def lacking : Outcome alpha := .error (.fault Fault.missingAttribute)

def assignOf : Param -> Outcome Assign
  | .assign a => .ok a
  | _ => lacking

def itemOf : Param -> Outcome SelectionItem
  | .assign a => .ok (.computed a)
  | .pick p => .ok (.picked p)
  | _ => lacking

def sortKeyOf : Param -> Outcome SortKey
  | .sortKey k => .ok k
  | _ => lacking

def textOf? : Param -> Option String
  | .value (.str s) => some s
  | _ => none

def keyValue : Param -> Value
  | .value v => v
  | param => .other param.render .constant

def keysOf (data : Dataset) (params : List Param) : Outcome (List String) :=
  let texts := params.filterMap textOf?
  if texts.length == params.length then .ok texts
  else
    data.unknownKeys
      ((params.map keyValue).filter fun key =>
        match key with
        | .str s => !data.header.contains s
        | _ => true)

def renamePair (entry : Value × Value) : Outcome (ColumnRef × String) :=
  match ColumnRef.ofValue? entry.1 with
  | some column => .ok (column, entry.2.text)
  | none => .error (.fault Fault.unknownField)

def columnParams (call : Call) : Outcome (List Param) :=
  match call.param? "columns" with
  | none => .ok []
  | some (.list items) => .ok items
  | some (.value v) =>
      if v.isTruthy then Outcome.ofFault (v.iterate.map fun items => items.map .value)
      else .ok []
  | some _ => .error (.fault Fault.badType)

/-- A column by its name; what is no text is not in the header. -/
def columnName (param : Param) : Outcome String :=
  match textOf? param with
  | some name => .ok name
  | none => .error (.fault Fault.badValue)

def operation (data : Dataset) (call : Call) : Outcome Operation :=
  match call.op with
  | "add_row_count" => (call.textParam "column" "'__tidyverbs_n'").map .addRowCount
  | "add_row_number" =>
      (call.textParam "column" "'__tidyverbs_row_number'").map .addRowNumber
  | "transform" => do
      let items <- call.listParam "assignments" "[Assign('x', Col('a'))]"
      (items.mapM assignOf).map .transform
  | "select" => do
      let items <- call.listParam "items" "[Pick('a', 'a')]"
      (items.mapM itemOf).map .select
  | "rename" =>
      match call.param? "mapping" with
      | some (.value (.dict entries)) => (entries.mapM renamePair).map .rename
      | _ => call.needed "mapping" "dict" "\x7b'old': 'new'\x7d"
  | "drop_pattern" => (call.textParam "pattern" "'^__tidyverbs_'").map .dropPattern
  | "summarize" => do
      let items <- call.listParam "assignments" "[Assign('m', Apply('mean', ...))]"
      (items.mapM assignOf).map .summarize
  | "subset" => do
      let items <- call.listParam "predicates" "[Assign('x > 1', ...)]"
      (items.mapM assignOf).map .subset
  | "slice" =>
      match call.param? "indices" with
      | some (.positions positions) => .ok (.slice positions)
      | _ => call.needed "indices" "SliceIndices" "SliceIndices([Literal(1)])"
  | "sort" => do
      let items <- call.listParam "keys" "[SortKey('a', reverse=True)]"
      (items.mapM sortKeyOf).map .sort
  | "unique" => do
      let items <- call.columnParams
      (items.mapM columnName).map .unique
  | "drop_missing" =>
      if data.rows.isEmpty then .ok (.dropMissing [])
      else (call.columnParams).map fun items => .dropMissing (items.map keyValue)
  | "group_by" => do
      let items <- call.listParam "keys" "['a', 'b']"
      (keysOf data items).map .groupBy
  | "ungroup" => .ok .ungroup
  | "regroup" => do
      let items <- call.listParam "keys" "['a']"
      (keysOf data items).map .regroup
  | op => Outcome.reject (unknownOperation op)

end Call
end Wrangle
