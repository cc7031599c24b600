import Wrangle.Proofs.Compile.Raising
import Wrangle.Proofs.Interpolation.Resolved

/-!
# Faults of selections

The columns of a selection are found, or there is an error about it.  Besides, the tests that
selection helpers make of their arguments are unguarded: their faults get out as they are,
from wherever the helper stands in the selection.
-/

namespace Wrangle
namespace Compile

open Interpolation Node

variable {scope : Scope} {f : HostFault}

def listedItems : Node -> List Node
  | .vector items => items
  | .tuple items => items
  | .call head args _ false =>
      if listHeads.contains head then args else []
  | _ => []

def testedColumns (scope : Scope) (helper : SelectionHelper) (values : List Value) :
    Except Fault (List String) :=
  helper.test values [] scope.env.functions.host.character? >>= fun test =>
    filterColumns test scope.visibleColumns

/-- A fault that ends a selection: that of a helper's test, where all items before it are fine. -/
inductive Breaks (scope : Scope) : HostFault -> Node -> Prop where
  | helper {head : String} {helper : SelectionHelper} {values : List Value}
      {kwargs : List (String × Node)} {f : Fault} :
      SelectionHelper.ofName? head = some helper -> testedColumns scope helper values = .error f ->
        Breaks scope (.raised f) (.call head (values.map .literal) kwargs false)
  | operand {f : HostFault} {head : String} {operand : Node} {kwargs : List (String × Node)} :
      head = "-" ∨ head = "!" -> Breaks scope f operand ->
        Breaks scope f (.call head [operand] kwargs true)
  | item {f : HostFault} {tree item : Node} {front back : List Node} :
      listedItems tree = front ++ item :: back ->
        (forall other, other ∈ front -> exists sets, columnSets scope other = .ok sets) ->
          Breaks scope f item -> Breaks scope f tree

/-!
# What a helper tests
-/

/-- How the compilation of a selection may fail: with an error about it, with a fault that breaks
it, or with a position that is too long to be written. -/
def Broken (scope : Scope) (tree : Node) : Failure -> Prop
  | .user _ => True
  | .fault f => f = Fault.tooManyDigits ∨ Breaks scope f tree

def IsGuarded : Failure -> Prop
  | .user _ => True
  | .fault f => f = Fault.tooManyDigits

theorem IsGuarded.broken {failure : Failure} (h : IsGuarded failure) (tree : Node) :
    Broken scope tree failure := by
  cases failure with
  | user e => trivial
  | fault f => exact Or.inl h

end Compile
end Wrangle
