import Wrangle.Proofs.Verb.Naming

/-!
# Sorting keys

The keys that rows are arranged by are columns or computed, each of them under some calls
that reverse the order.  A computed key compiles to an assignment to a reserved column.
Written as assignments to columns of their own, the same trees compile to the same
expressions.
-/

namespace Wrangle

open Dataset
open Compile (expr orderKey columnKey? stripReversals)

/-!
# Keys
-/

namespace Node

def reversed : Nat -> Node -> Node
  | 0, node => node
  | n + 1, node => .call "desc" [reversed n node] [] false

def isReversal : Node -> Bool
  | .call "desc" [_] [] false => true
  | _ => false

theorem exists_reversed (node : Node) :
    exists n tree, isReversal tree = false ∧ node = reversed n tree := by
  fun_cases isReversal node with
  | case1 inner =>
      rcases exists_reversed inner with ⟨n, tree, htree, hinner⟩
      exact ⟨n + 1, tree, htree, by rw [reversed, ← hinner]⟩
  | case2 =>
      rename_i hother
      refine ⟨0, node, ?_, rfl⟩
      unfold isReversal
      split
      · exact absurd rfl (hother _)
      · rfl

end Node

def areOdd (reversals : Nat) : Bool :=
  reversals % 2 == 1

/-- A key that is the name of a column, as such or as a string. -/
structure ColumnTerm where
  column : String
  quoted : Bool
  reversals : Nat

namespace ColumnTerm

def bare (term : ColumnTerm) : Node :=
  if term.quoted then .literal (.str term.column) else .identifier term.column

def node (term : ColumnTerm) : Node :=
  term.bare.reversed term.reversals

def sortKey (term : ColumnTerm) : SortKey :=
  { column := term.column, reverse := areOdd term.reversals }

end ColumnTerm

/-- A key by a column, or by a tree; the name is that of a column to put the values of the tree
in. -/
inductive KeyTerm where
  | column (term : ColumnTerm)
  | computed (tree : Node) (reversals : Nat) (name : String)

namespace KeyTerm

def written : KeyTerm -> Node
  | column term => term.node
  | computed tree reversals _ => tree.reversed reversals

def replaced : KeyTerm -> ColumnTerm
  | column term => term
  | computed _ reversals name => { column := name, quoted := false, reversals := reversals }

def tree? : KeyTerm -> Option Node
  | column _ => none
  | computed tree _ _ => some tree

def name? : KeyTerm -> Option String
  | column _ => none
  | computed _ _ name => some name

def assignment? : KeyTerm -> Option Node
  | column _ => none
  | computed tree _ name => some (.assignment name tree)

end KeyTerm

/-!
# Reversals
-/

namespace Compile

variable {scope : Scope} {node : Node}

theorem stripReversals_reversed (node : Node) (n : Nat) (reverse : Bool) :
    stripReversals reverse (node.reversed n) = stripReversals (reverse ^^ areOdd n) node := by
  induction n generalizing reverse with
  | zero => simp [Node.reversed, areOdd]
  | succ n ih =>
      have hodd : areOdd (n + 1) = !areOdd n := by
        unfold areOdd
        rcases Nat.mod_two_eq_zero_or_one n with hn | hn
        · simp [Nat.add_mod, hn]
        · simp [Nat.add_mod, hn]
      rw [Node.reversed, stripReversals, ih, hodd]
      cases reverse <;> cases areOdd n <;> rfl

theorem orderKey_column {term : ColumnTerm} (h : term.column ∈ scope.columns) :
    orderKey scope term.node = .ok ([], term.sortKey, scope) := by
  have hbare : stripReversals (areOdd term.reversals) term.bare =
      .ok (areOdd term.reversals, term.bare) := by
    unfold ColumnTerm.bare
    split <;> rfl
  have hkey : columnKey? scope term.bare = some term.column := by
    unfold ColumnTerm.bare
    split
    · simp [columnKey?, h]
    · simp [columnKey?, h]
  rw [orderKey, ColumnTerm.node, stripReversals_reversed, Bool.false_xor, hbare, ok_bind]
  dsimp only
  rw [hkey]
  rfl

def keyColumn (count : Nat) : String :=
  reservedStart ++ "key" ++ toString count

theorem expr_of_stripReversals (h : node.isReversal = false) {reverse : Bool} {failure : Failure}
    (hstrip : stripReversals reverse node = .error failure) :
    exists other, expr scope .transform true node = .error other := by
  unfold stripReversals at hstrip
  split at hstrip
  · cases h
  · exact ⟨_, rfl⟩
  · cases hstrip

theorem stripReversals_eq (h : node.isReversal = false) {reverse : Bool} {found : Bool × Node}
    (hstrip : stripReversals reverse node = .ok found) : found = (reverse, node) := by
  unfold stripReversals at hstrip
  split at hstrip
  · cases h
  · cases hstrip
  · exact (Except.ok.inj hstrip).symm

theorem orderKey_computed (h : node.isReversal = false) (hkey : columnKey? scope node = none)
    (n : Nat) :
    Agrees (orderKey scope (node.reversed n))
      ((expr scope .transform true node).map fun e =>
        ([{ name := keyColumn (scope.sortKeys + 1), expr := e, source := none }],
          { column := keyColumn (scope.sortKeys + 1), reverse := areOdd n },
          { scope with sortKeys := scope.sortKeys + 1 })) := by
  rw [orderKey, stripReversals_reversed, Bool.false_xor]
  cases hstrip : stripReversals (areOdd n) node with
  | error failure =>
      rcases expr_of_stripReversals h hstrip with ⟨other, hother⟩
      rw [hother]
      exact Eq.refl none
  | ok found =>
      rw [stripReversals_eq h hstrip, ok_bind]
      dsimp only
      rw [hkey]
      exact .rfl

end Compile

/-!
# Compiled keys
-/

open Compile (keyColumn)

namespace KeyTerm

/-- The keys that some terms compile to, when there were some computed ones before. -/
def arranged (count : Nat) : List KeyTerm -> List SortKey
  | [] => []
  | column term :: rest => term.sortKey :: arranged count rest
  | computed _ reversals _ :: rest =>
      { column := keyColumn (count + 1), reverse := areOdd reversals } :: arranged (count + 1) rest

def keyColumns (count : Nat) : List KeyTerm -> List String
  | [] => []
  | column _ :: rest => keyColumns count rest
  | computed _ _ _ :: rest => keyColumn (count + 1) :: keyColumns (count + 1) rest

def Settles (scope : Scope) : KeyTerm -> Prop
  | column term => term.column ∈ scope.columns
  | computed tree _ _ => tree.isReversal = false ∧ columnKey? scope tree = none

end KeyTerm

namespace Request

variable {scope : Scope} {keys : List KeyTerm} {found : List ResolvedFragment}

theorem map_withSource_name (source : String) (assigns : List Assign) :
    (assigns.map (Assign.withSource source)).map Assign.name = assigns.map Assign.name := by
  rw [List.map_map]
  rfl

theorem map_withSource_expr (source : String) (assigns : List Assign) :
    (assigns.map (Assign.withSource source)).map Assign.expr = assigns.map Assign.expr := by
  rw [List.map_map]
  rfl

def compiledKeys (scope : Scope) (found : List ResolvedFragment) :
    Outcome (List String × List Expr × List SortKey) :=
  (sortKeys scope found).map fun compiled =>
    (compiled.1.map Assign.name, compiled.1.map Assign.expr, compiled.2)

theorem compiledKeys_cons (scope : Scope) (fragment : ResolvedFragment)
    (rest : List ResolvedFragment) :
    Agrees (compiledKeys scope (fragment :: rest))
      (orderKey scope fragment.node >>= fun first =>
        (compiledKeys first.2.2 rest).map fun others =>
          (first.1.map Assign.name ++ others.1, first.1.map Assign.expr ++ others.2.1,
            first.2.1 :: others.2.2)) := by
  unfold compiledKeys
  rw [sortKeys]
  cases orderKey scope fragment.node with
  | error failure => cases failure <;> exact Eq.refl none
  | ok first =>
      rcases first with ⟨assigns, key, after⟩
      show Agrees (Except.map _ (sortKeys after rest >>= _)) (Except.map _ (Except.map _ _))
      cases sortKeys after rest with
      | error failure => exact Eq.refl none
      | ok others =>
          show some _ = some _
          dsimp only
          rw [List.map_append, List.map_append, map_withSource_name, map_withSource_expr]

theorem compiledKeys_agrees (hfound : found.map ResolvedFragment.node = keys.map KeyTerm.written)
    (hkeys : forall key, key ∈ keys -> key.Settles scope) (count : Nat) :
    Agrees (compiledKeys (scope.showing scope.columns count) found)
      (((keys.filterMap KeyTerm.tree?).mapM (expr scope .transform true)).map fun es =>
        (KeyTerm.keyColumns count keys, es, KeyTerm.arranged count keys)) := by
  induction keys generalizing found count with
  | nil =>
      rw [List.map_eq_nil_iff.1 hfound]
      exact .rfl
  | cons key keys ih =>
      rcases List.map_eq_cons_iff.1 hfound with ⟨fragment, others, rfl, hnode, hothers⟩
      rcases List.forall_mem_cons.1 hkeys with ⟨hkey, hrest⟩
      apply (compiledKeys_cons _ _ _).trans
      rw [hnode]
      cases key with
      | column term =>
          have hterm : orderKey (scope.showing scope.columns count) term.node =
              .ok ([], term.sortKey, scope.showing scope.columns count) :=
            Compile.orderKey_column hkey
          rw [KeyTerm.written, hterm, ok_bind]
          apply (ih hothers hrest count).map.trans
          show Agrees _ (Except.map _ ((keys.filterMap KeyTerm.tree?).mapM _))
          cases (keys.filterMap KeyTerm.tree?).mapM (expr scope .transform true) with
          | error failure => exact .rfl
          | ok es => exact .rfl
      | computed tree reversals name =>
          have hnext := ih hothers hrest (count + 1)
          have hcolumn : columnKey? (scope.showing scope.columns count) tree = none := hkey.2
          have htree : Agrees (expr scope .transform true tree)
              (expr (scope.showing scope.columns count) .transform true tree) :=
            Compile.expr_agrees tree fun _ _ => rfl
          apply ((Compile.orderKey_computed hkey.1 hcolumn reversals).bind fun _ _ => .rfl).trans
          rw [List.filterMap_cons_some (rfl : KeyTerm.tree? _ = some tree), mapM_cons_eq]
          rcases htree.both with ⟨e, he, hother⟩ | ⟨_, _, he, hother⟩
          · rw [he, hother, ok_bind]
            apply hnext.map.trans
            cases (keys.filterMap KeyTerm.tree?).mapM (expr scope .transform true) with
            | error failure => exact .rfl
            | ok es => exact .rfl
          · rw [he, hother]
            exact Eq.refl none

/-!
# The same trees as assignments
-/

def compiledAssigns (scope : Scope) (found : List ResolvedFragment) :
    Outcome (List String × List Expr) :=
  (assigns .transform scope found).map fun compiled =>
    (compiled.map Assign.name, compiled.map Assign.expr)

theorem compiledAssigns_cons (scope : Scope) (fragment : ResolvedFragment)
    (rest : List ResolvedFragment) :
    Agrees (compiledAssigns scope (fragment :: rest))
      (Compile.assigns scope .transform fragment.node >>= fun first =>
        (compiledAssigns (extendScope .transform scope (first.map Assign.name)) rest).map
          fun others =>
            (first.map Assign.name ++ others.1, first.map Assign.expr ++ others.2)) := by
  unfold compiledAssigns
  rw [assigns]
  cases Compile.assigns scope .transform fragment.node with
  | error failure => cases failure <;> exact Eq.refl none
  | ok first =>
      show Agrees (Except.map _ (assigns .transform _ rest >>= _))
        (Except.map _ (Except.map _ (assigns .transform _ rest)))
      cases assigns .transform (extendScope .transform scope (first.map Assign.name)) rest with
      | error failure => exact Eq.refl none
      | ok others =>
          show some _ = some _
          dsimp only
          rw [List.map_append, List.map_append, map_withSource_name, map_withSource_expr]

theorem compiledAssigns_agrees {columns : List String}
    (hfound : found.map ResolvedFragment.node = keys.filterMap KeyTerm.assignment?)
    (hsees : forall tree, tree ∈ keys.filterMap KeyTerm.tree? ->
      Compile.SeesAlike scope columns tree.walk)
    (hapart : forall name, name ∈ keys.filterMap KeyTerm.name? -> forall tree,
      tree ∈ keys.filterMap KeyTerm.tree? -> .identifier name ∉ tree.walk) (count : Nat) :
    Agrees (compiledAssigns (scope.showing columns count) found)
      (((keys.filterMap KeyTerm.tree?).mapM (expr scope .transform true)).map fun es =>
        (keys.filterMap KeyTerm.name?, es)) := by
  induction keys generalizing found columns with
  | nil =>
      rw [List.map_eq_nil_iff.1 hfound]
      exact .rfl
  | cons key keys ih =>
      cases key with
      | column term => exact ih hfound hsees hapart
      | computed tree reversals name =>
          rcases List.map_eq_cons_iff.1 hfound with ⟨fragment, others, rfl, hnode, hothers⟩
          rcases List.forall_mem_cons.1 hsees with ⟨htree, hrest⟩
          have htree : Agrees (expr scope .transform true tree)
              (expr (scope.showing columns count) .transform true tree) :=
            Compile.expr_agrees tree htree
          -- the new column is named by none of the trees that follow
          have hnext : forall other, other ∈ keys.filterMap KeyTerm.tree? ->
              Compile.SeesAlike scope (headerWith columns name) other.walk := by
            intro other hother found hmem
            have hne : found ≠ name := by
              rintro rfl
              exact hapart found List.mem_cons_self other (List.mem_cons_of_mem _ hother) hmem
            rw [← hrest other hother found hmem, Bool.eq_iff_iff, List.contains_iff_mem,
              List.contains_iff_mem, mem_headerWith_iff]
            exact ⟨fun h => h.resolve_right hne, .inl⟩
          have hscope : extendScope .transform (scope.showing columns count) [name] =
              scope.showing (headerWith columns name) count :=
            Scope.addColumns_eq (scope.showing columns count) [name]
          have hthen := ih hothers hnext fun found hmem other hother =>
            hapart found (List.mem_cons_of_mem _ hmem) other (List.mem_cons_of_mem _ hother)
          have hassigns : Agrees (Compile.assigns (scope.showing columns count) .transform
              (.assignment name tree)) _ := Compile.assignment_agrees name tree
          apply (compiledAssigns_cons _ _ _).trans
          rw [hnode, List.filterMap_cons_some (rfl : KeyTerm.tree? _ = some tree), mapM_cons_eq]
          rcases htree.both with ⟨e, he, hother⟩ | ⟨_, _, he, hother⟩
          · rw [hother] at hassigns
            rw [he, hassigns.symm.eq_ok rfl, ok_bind]
            show Agrees (Except.map _ (compiledAssigns
              (extendScope .transform (scope.showing columns count) [name]) others)) _
            rw [hscope]
            apply hthen.map.trans
            cases (keys.filterMap KeyTerm.tree?).mapM (expr scope .transform true) with
            | error failure => exact .rfl
            | ok es => exact .rfl
          · rw [hother] at hassigns
            rcases hassigns.both with ⟨_, _, himpossible⟩ | ⟨_, _, hleft, _⟩
            · cases himpossible
            · rw [he, hleft]
              exact Eq.refl none

end Request

/-!
# Reserved columns for keys
-/

theorem keyColumn_injective {m n : Nat} (h : keyColumn m = keyColumn n) : m = n := by
  have hlists := congrArg String.toList h
  simp only [keyColumn, String.toList_append] at hlists
  exact Nat.repr_inj.1 (String.toList_injective (List.append_cancel_left hlists))

theorem isReserved_keyColumn (count : Nat) : isReserved (keyColumn count) = true := by
  rw [keyColumn, String.append_assoc]
  exact Compile.isReserved_append _

theorem keyColumn_ne (count : Nat) :
    keyColumn count ≠ countColumn ∧ keyColumn count ≠ rowNumberColumn := by
  constructor
  · intro h
    have hlists := congrArg String.toList h
    simp [keyColumn, countColumn] at hlists
  · intro h
    have hlists := congrArg String.toList h
    simp [keyColumn, rowNumberColumn] at hlists

namespace KeyTerm

variable {keys : List KeyTerm}

theorem mem_keyColumns {count : Nat} {name : String} (h : name ∈ keyColumns count keys) :
    exists n, count < n ∧ name = keyColumn n := by
  induction keys generalizing count with
  | nil => cases h
  | cons key keys ih =>
      cases key with
      | column term => exact ih h
      | computed tree reversals other =>
          rcases List.mem_cons.1 h with rfl | h
          · exact ⟨count + 1, count.lt_succ_self, rfl⟩
          · rcases ih h with ⟨n, hn, hname⟩
            exact ⟨n, by omega, hname⟩

theorem keyColumns_nodup (count : Nat) (keys : List KeyTerm) : (keyColumns count keys).Nodup := by
  induction keys generalizing count with
  | nil => exact List.nodup_nil
  | cons key keys ih =>
      cases key with
      | column term => exact ih count
      | computed tree reversals name =>
          refine List.nodup_cons.2 ⟨?_, ih (count + 1)⟩
          intro hmem
          rcases mem_keyColumns hmem with ⟨n, hn, hname⟩
          have heq := keyColumn_injective hname
          omega

theorem keyColumns_length (count : Nat) (keys : List KeyTerm) :
    (keyColumns count keys).length = (keys.filterMap tree?).length := by
  induction keys generalizing count with
  | nil => rfl
  | cons key keys ih =>
      cases key with
      | column term => exact ih count
      | computed tree reversals name => exact congrArg Nat.succ (ih (count + 1))

theorem names_length (keys : List KeyTerm) :
    (keys.filterMap name?).length = (keys.filterMap tree?).length := by
  induction keys with
  | nil => rfl
  | cons key keys ih =>
      cases key with
      | column term => exact ih
      | computed tree reversals name => exact congrArg Nat.succ ih

end KeyTerm

/-!
# What keys ask for
-/

namespace Node

theorem mem_walk_reversed {inner node : Node} (h : inner ∈ node.walk) (n : Nat) :
    inner ∈ (node.reversed n).walk := by
  induction n with
  | zero => exact h
  | succ n ih =>
      rw [reversed, walk, walkAll]
      exact List.mem_cons_of_mem _ (List.mem_append_left _ (List.mem_append_left _ ih))

theorem mentionsBareCall_reversed (name : String) (n : Nat) (node : Node) :
    (node.reversed n).mentionsBareCall name = node.mentionsBareCall name := by
  induction n with
  | zero => rfl
  | succ n ih =>
      rw [← ih]
      simp [mentionsBareCall, reversed, walk, walkAll, walkNamed, isBareCall]

end Node

namespace ColumnTerm

theorem mentionsBareCall_node (name : String) (term : ColumnTerm) :
    term.node.mentionsBareCall name = false := by
  rw [node, Node.mentionsBareCall_reversed]
  unfold bare
  split <;> rfl

end ColumnTerm

namespace KeyTerm

variable {keys : List KeyTerm} {name : String}

theorem written_asks_iff :
    (exists node, node ∈ keys.map written ∧ node.mentionsBareCall name = true) <->
      exists tree, tree ∈ keys.filterMap tree? ∧ tree.mentionsBareCall name = true := by
  constructor
  · rintro ⟨node, hnode, hcall⟩
    rcases List.mem_map.1 hnode with ⟨key, hkey, rfl⟩
    cases key with
    | column term =>
        rw [written, ColumnTerm.mentionsBareCall_node] at hcall
        cases hcall
    | computed tree reversals other =>
        rw [written, Node.mentionsBareCall_reversed] at hcall
        exact ⟨tree, List.mem_filterMap.2 ⟨_, hkey, rfl⟩, hcall⟩
  · rintro ⟨tree, htree, hcall⟩
    rcases List.mem_filterMap.1 htree with ⟨key, hkey, hsome⟩
    cases key with
    | column term => cases hsome
    | computed tree reversals other =>
        cases hsome
        refine ⟨_, List.mem_map_of_mem hkey, ?_⟩
        rw [written, Node.mentionsBareCall_reversed, hcall]

theorem assigned_asks_iff :
    (exists node, node ∈ keys.filterMap assignment? ∧ node.mentionsBareCall name = true) <->
      exists tree, tree ∈ keys.filterMap tree? ∧ tree.mentionsBareCall name = true := by
  have hassigned : forall (target : String) (tree : Node),
      (Node.assignment target tree).mentionsBareCall name = tree.mentionsBareCall name :=
    fun _ _ => rfl
  constructor
  · rintro ⟨node, hnode, hcall⟩
    rcases List.mem_filterMap.1 hnode with ⟨key, hkey, hsome⟩
    cases key with
    | column term => cases hsome
    | computed tree reversals other =>
        cases hsome
        rw [hassigned] at hcall
        exact ⟨tree, List.mem_filterMap.2 ⟨_, hkey, rfl⟩, hcall⟩
  · rintro ⟨tree, htree, hcall⟩
    rcases List.mem_filterMap.1 htree with ⟨key, hkey, hsome⟩
    cases key with
    | column term => cases hsome
    | computed tree reversals other =>
        cases hsome
        exact ⟨_, List.mem_filterMap.2 ⟨_, hkey, rfl⟩, (hassigned other _).trans hcall⟩

end KeyTerm
end Wrangle
