import Wrangle.Proofs.Compile.Breaking
import Wrangle.Proofs.Compile.Visibility
import Wrangle.Proofs.Verb.Renaming
import Wrangle.Proofs.Verb.Sourcing
import Wrangle.Verb.Running

/-!
# One column

To pull a column out of a dataset and to rename columns takes fragments that denote one column
each, and nothing asks whether they do.  A selection of several columns or none ends with a
fault, and so do a sequence in the place of the fragment that is pulled, a test of a helper that
fails, and the markers from which faults get out.  All else is an error for the user.
-/

namespace Wrangle

open Compile Dataset Interpolation

/-!
# Single items
-/

namespace Verb

/-- The tree of an argument consists of nodes, and faults get out of its markers alone. -/
structure IsReadable (tree : Node) : Prop where
  sealed : IsSealedTree tree
  proper : tree.isProper = true

end Verb

namespace Interpolation

variable {env : Environment}

theorem resolveAll_single (tree : Node) (source : String) :
    resolveAll env [(tree, source)] = resolve env tree source := by
  unfold resolveAll
  rw [List.mapM_cons, List.mapM_nil]
  cases resolve env tree source with
  | error failure => rfl
  | ok found => exact congrArg Except.ok (List.append_nil found)

end Interpolation

/-!
# Columns that are pulled
-/

namespace Dataset

variable {data : Dataset} {settings : Settings} {env : Environment} {f : HostFault}

end Dataset

/-!
# Columns that are renamed
-/

namespace Compile

variable {scope : Scope}

end Compile

namespace Request

variable {scope : Scope} {node : Node} {pair : String × String} {f : HostFault}

end Request

namespace Dataset

variable {data : Dataset} {registry : Registry} {env : Environment} {node : Node} {f : HostFault}

end Dataset

namespace Invocation

variable {call : Invocation} {data result : Dataset} {settings : Settings}
  {sources : List (Node × String)} {found : List ResolvedFragment} {f : HostFault}

end Invocation

/-!
# Columns that are denoted
-/

end Wrangle
