import Wrangle.Compile.Scope
import Wrangle.Dataset.Arrangement
import Wrangle.Dataset.Computation
import Wrangle.Pattern.Match
import Wrangle.Pattern.Parser

/-!
# Operations

The steps that every call of a verb comes down to.  An operation takes a dataset
to a dataset; most of them keep its groups.
-/

namespace Wrangle

inductive Operation where
  | addRowCount (column : String)
  | addRowNumber (column : String)
  | transform (assigns : List Assign)
  | select (items : List SelectionItem)
  | rename (mapping : List (ColumnRef × String))
  | dropReserved
  | dropPattern (pattern : String)
  | summarize (assigns : List Assign)
  | subset (conditions : List Assign)
  | slice (positions : Positions)
  | sort (keys : List SortKey)
  | unique (columns : List String)
  | dropMissing (asked : List Value)
  | groupBy (keys : List String)
  | ungroup
  | regroup (keys : List String)

namespace Operation

instance : Inhabited Operation := ⟨ungroup⟩

/-- Leave out the columns whose names pass a test; without any the rows stay as they are. -/
def drop (test : String -> Bool) (data : Dataset) : Outcome Dataset :=
  if data.header.any test then (data.dropColumns test).checked else .ok data

def dropMatching (pattern : String) (data : Dataset) : Outcome Dataset := do
  let parsed <- Outcome.ofFault (Pattern.ofText pattern)
  drop parsed.occursIn data

def renameIn (mapping : List (ColumnRef × String)) (data : Dataset) : Outcome Dataset :=
  if mapping.all fun entry => data.hasColumn entry.1 then
    (data.renameColumns mapping).checked
  else .error (.fault Fault.unknownField)

def apply (callers : CallerFunctions) (data : Dataset) : Operation -> Outcome Dataset
  | addRowCount column => do
      let groups <- Outcome.ofFault data.partitions
      .ok (data.setColumn column (Dataset.groupSizes groups data.nrows))
  | addRowNumber column => do
      let groups <- Outcome.ofFault data.partitions
      .ok (data.setColumn column (Dataset.rowNumbers groups data.nrows))
  | transform assigns => Dataset.transform callers assigns data
  | select items => Dataset.select callers items data
  | rename mapping => renameIn mapping data
  | dropReserved => drop isReserved data
  | dropPattern pattern => dropMatching pattern data
  | summarize assigns => Dataset.summarize callers assigns data
  | subset conditions => Dataset.subset callers conditions data
  | slice positions => Dataset.slice positions data
  | sort keys => Dataset.sort keys data
  | unique columns => Dataset.unique columns data
  | dropMissing asked => Dataset.dropMissing asked data
  | groupBy keys => data.groupBy keys
  | ungroup => .ok data.ungroup
  | regroup keys => data.regroup keys

def notes (data : Dataset) : Operation -> List String
  | select items =>
      match data.missingKeys items with
      | [] => []
      | keys => ["adding missing grouping columns: " ++ Text.joined ", " keys]
  | _ => []

end Operation
end Wrangle
