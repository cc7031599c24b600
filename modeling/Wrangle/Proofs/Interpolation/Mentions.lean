import Wrangle.Proofs.Compile.Building
import Wrangle.Proofs.Fragment.Walking

/-!
# Row functions of resolved fragments

A fragment is resolved to a tree, or to the items of a splice, which then stand side by side.
Whether a row function is called is looked up before they are taken apart: a fragment tells what
its own tree calls, and what fragments ask for, the tree of one of them calls.
-/

namespace Wrangle

open Compile

namespace Node

/-- The trees that a resolved tree stands for: the items of a splice, or the tree itself. -/
def siblings : Node -> List Node
  | splice items => items
  | tree => [tree]

theorem mentionsBareCall_siblings {name : String} {tree : Node} :
    tree.mentionsBareCall name = true <->
      exists item, item ∈ tree.siblings ∧ item.mentionsBareCall name = true := by
  cases tree with
  | splice items => exact mentionsBareCall_splice_iff
  | _ => simp [siblings]

end Node

/-- One of the trees that a fragment stands for, with what all of them call. -/
def ResolvedFragment.sibling (source : String) (tree item : Node) : ResolvedFragment where
  node := item
  mentionsCount := tree.mentionsBareCall countFunction
  mentionsRowNumber := tree.mentionsBareCall rowNumberFunction
  source := source

structure ResolvedFragment.Tells (fragment : ResolvedFragment) : Prop where
  count : fragment.node.mentionsBareCall countFunction = true -> fragment.mentionsCount = true
  rowNumber : fragment.node.mentionsBareCall rowNumberFunction = true ->
    fragment.mentionsRowNumber = true

/-- Fragments that ask for a row function only if the tree of one of them calls it. -/
structure AreFrugal (fragments : List ResolvedFragment) : Prop where
  count : forall fragment, fragment ∈ fragments -> fragment.mentionsCount = true ->
    exists other, other ∈ fragments ∧ other.node.mentionsBareCall countFunction = true
  rowNumber : forall fragment, fragment ∈ fragments -> fragment.mentionsRowNumber = true ->
    exists other, other ∈ fragments ∧ other.node.mentionsBareCall rowNumberFunction = true

namespace Interpolation

theorem resolve_eq_map (env : Environment) (node : Node) (source : String) :
    resolve env node source = (resolveNode env source true node).map fun tree =>
      tree.siblings.map (ResolvedFragment.sibling source tree) := by
  unfold resolve
  cases resolveNode env source true node with
  | error failure => rfl
  | ok tree => cases tree <;> rfl

theorem resolve_tells (env : Environment) (node : Node) (source : String) :
    Gives (fun fragments => forall fragment, fragment ∈ fragments -> fragment.Tells)
      (resolve env node source) := by
  rw [resolve_eq_map]
  apply Ends.map_any (gives_any _)
  intro tree fragment hfragment
  rcases List.mem_map.1 hfragment with ⟨item, hitem, rfl⟩
  constructor
  · exact fun hcall => Node.mentionsBareCall_siblings.2 ⟨item, hitem, hcall⟩
  · exact fun hcall => Node.mentionsBareCall_siblings.2 ⟨item, hitem, hcall⟩

theorem resolveAll_tells (env : Environment) (fragments : List (Node × String)) :
    Gives (fun resolved => forall fragment, fragment ∈ resolved -> fragment.Tells)
      (resolveAll env fragments) := by
  apply Ends.map (Ends.mapM fun fragment _ => resolve_tells env fragment.1 fragment.2)
  intro lists hlists fragment hfragment
  rcases List.mem_flatten.1 hfragment with ⟨list, hlist, hfragment⟩
  exact hlists list hlist fragment hfragment

theorem exists_sibling {source name : String} {tree : Node}
    (h : tree.mentionsBareCall name = true) :
    exists other, other ∈ tree.siblings.map (ResolvedFragment.sibling source tree) ∧
      other.node.mentionsBareCall name = true := by
  rcases Node.mentionsBareCall_siblings.1 h with ⟨item, hitem, hcall⟩
  exact ⟨_, List.mem_map_of_mem hitem, hcall⟩

theorem resolve_frugal (env : Environment) (node : Node) (source : String) :
    Gives AreFrugal (resolve env node source) := by
  rw [resolve_eq_map]
  apply Ends.map_any (gives_any _)
  intro tree
  constructor
  · intro fragment hfragment hflag
    rcases List.mem_map.1 hfragment with ⟨item, _, rfl⟩
    exact exists_sibling hflag
  · intro fragment hfragment hflag
    rcases List.mem_map.1 hfragment with ⟨item, _, rfl⟩
    exact exists_sibling hflag

theorem resolveAll_frugal (env : Environment) (fragments : List (Node × String)) :
    Gives AreFrugal (resolveAll env fragments) := by
  apply Ends.map (Ends.mapM fun fragment _ => resolve_frugal env fragment.1 fragment.2)
  intro lists hlists
  constructor
  · intro fragment hfragment hflag
    rcases List.mem_flatten.1 hfragment with ⟨list, hlist, hfragment⟩
    rcases (hlists list hlist).count fragment hfragment hflag with ⟨other, hother, hmentions⟩
    exact ⟨other, List.mem_flatten.2 ⟨list, hlist, hother⟩, hmentions⟩
  · intro fragment hfragment hflag
    rcases List.mem_flatten.1 hfragment with ⟨list, hlist, hfragment⟩
    rcases (hlists list hlist).rowNumber fragment hfragment hflag with ⟨other, hother, hmentions⟩
    exact ⟨other, List.mem_flatten.2 ⟨list, hlist, hother⟩, hmentions⟩

/-- Fragments ask for a row function just where the tree of one of them calls it. -/
theorem resolveAll_asks {env : Environment} {fragments : List (Node × String)}
    {found : List ResolvedFragment} (h : resolveAll env fragments = .ok found) :
    (found.any ResolvedFragment.mentionsCount = true <->
      exists fragment, fragment ∈ found ∧ .apply countFunction [] ∈ fragment.node.walk) ∧
    (found.any ResolvedFragment.mentionsRowNumber = true <->
      exists fragment, fragment ∈ found ∧ .apply rowNumberFunction [] ∈ fragment.node.walk) := by
  have htells := resolveAll_tells env fragments
  have hfrugal := resolveAll_frugal env fragments
  rw [h] at htells hfrugal
  simp only [List.any_eq_true, ← Node.mentionsBareCall_iff]
  constructor
  · constructor
    · rintro ⟨fragment, hfragment, hflag⟩
      exact hfrugal.count fragment hfragment hflag
    · rintro ⟨fragment, hfragment, hcall⟩
      exact ⟨fragment, hfragment, (htells fragment hfragment).count hcall⟩
  · constructor
    · rintro ⟨fragment, hfragment, hflag⟩
      exact hfrugal.rowNumber fragment hfragment hflag
    · rintro ⟨fragment, hfragment, hcall⟩
      exact ⟨fragment, hfragment, (htells fragment hfragment).rowNumber hcall⟩

end Interpolation
end Wrangle
