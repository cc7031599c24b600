import Wrangle.Proofs.Compile.Scoping
import Wrangle.Proofs.Fragment.RoundTrip
import Wrangle.Verb.Basic

/-!
# Literals of fragments

The literals of a fragment are plain values: a text names no others, and a marker is
replaced by a literal only where its value is one of them.
-/

namespace Wrangle

open Compile Interpolation

namespace Node

def isPlain : Node -> Bool
  | literal value => isScalar value
  | _ => true

def ArePlain (nodes : List Node) : Prop :=
  forall node, node ∈ nodes -> node.isPlain = true

@[simp] theorem arePlain_nil : ArePlain [] :=
  fun _ hnode => by cases hnode

@[simp] theorem arePlain_cons {node : Node} {rest : List Node} :
    ArePlain (node :: rest) <-> node.isPlain = true ∧ ArePlain rest :=
  List.forall_mem_cons

@[simp] theorem arePlain_append {nodes more : List Node} :
    ArePlain (nodes ++ more) <-> ArePlain nodes ∧ ArePlain more :=
  List.forall_mem_append

theorem arePlain_identifier (name : String) : ArePlain (identifier name).walk := by
  simp [walk, isPlain]

theorem arePlain_literal {value : Value} (h : isScalar value = true) :
    ArePlain (literal value).walk := by
  simp [walk, isPlain, h]

theorem arePlain_walkAll_iff {items : List Node} :
    ArePlain (walkAll items) <-> forall item, item ∈ items -> ArePlain item.walk := by
  induction items with
  | nil => simp [walkAll]
  | cons item rest ih => rw [walkAll, arePlain_append, ih, List.forall_mem_cons]

end Node

open Node

/-!
# Texts
-/

namespace Grammar

/-- All nodes of what a part of a fragment is read as. -/
def Phrase.nodes : Phrase -> List Node
  | .node _ tree => tree.walk
  | .items trees => walkAll trees
  | .arguments args kwargs => walkAll args ++ walkNamed kwargs
  | .named kwargs => walkNamed kwargs

theorem arePlain_join {sign : Token} {level : Level} {build : Node -> Node -> Node}
    (h : join? sign = some (level, build)) {a b : Node} (ha : ArePlain a.walk)
    (hb : ArePlain b.walk) : ArePlain (build a b).walk := by
  rcases joins_of_join h with ⟨_, rfl⟩ | ⟨_, rfl⟩ | ⟨rfl, _⟩
  · simp [Node.walk, isPlain, ha, hb]
  · simp [Node.walk, isPlain, ha, hb]
  · simp [Node.binary, Node.walk, walkAll, walkNamed, isPlain, ha, hb]

theorem arePlain_leaf {token : Token} {tree : Node} (h : leaf? token = some tree) :
    ArePlain tree.walk := by
  cases token with
  | identifier name =>
      cases h
      exact arePlain_identifier name
  | quotedName name =>
      cases h
      exact arePlain_identifier name
  | keyword k => cases k <;> cases h <;> exact arePlain_literal rfl
  | decimal x =>
      cases h
      exact arePlain_literal rfl
  | integer n =>
      cases h
      exact arePlain_literal rfl
  | text s =>
      cases h
      exact arePlain_literal rfl
  | _ => cases h

theorem arePlain_of_derives {toks : List Token} {phrase : Phrase} (h : Derives toks phrase) :
    ArePlain phrase.nodes := by
  induction h with
  | tighter _ _ ih => exact ih
  | joined hsign _ _ iha ihb => exact arePlain_join hsign iha ihb
  | leaf hleaf => exact arePlain_leaf hleaf
  | negativeInt _ _ => exact arePlain_literal rfl
  | negativeFloat _ _ => exact arePlain_literal rfl
  | positive _ ih => exact ih
  | enclosed _ ih => exact ih
  | onlyNamed _ ih => simpa [Phrase.nodes, walkAll] using ih
  | _ =>
      simp_all [Phrase.nodes, Node.walk, walkAll, walkNamed, Node.unary, isPlain]

end Grammar

theorem arePlain_of_parse {allowAssignment : Bool} {source : String} {tree : Node}
    (h : parse allowAssignment source = .ok tree) : ArePlain tree.walk := by
  rcases Grammar.parse_eq_ok_iff.1 h with ⟨_, ts, hts, hread⟩
  have hfragment := Grammar.fragment_sound (Grammar.tokenize_endsOnce hts) hread
  generalize ts.map Located.token = toks at hfragment
  cases hfragment with
  | expression hd => exact Grammar.arePlain_of_derives hd
  | assignment _ _ hd =>
      rw [Node.walk, arePlain_cons]
      exact ⟨rfl, Grammar.arePlain_of_derives hd⟩

/-!
# Markers
-/

namespace Interpolation

abbrev GivesPlain (outcome : Outcome Node) : Prop :=
  Gives (fun node => ArePlain node.walk) outcome

abbrev GivesAllPlain (outcome : Outcome (List Node)) : Prop :=
  Gives (fun nodes => ArePlain (walkAll nodes)) outcome

theorem parse_plain (allowAssignment : Bool) (source : String) :
    GivesPlain (parse allowAssignment source) := by
  cases h : parse allowAssignment source with
  | error failure => trivial
  | ok tree => exact arePlain_of_parse h

theorem quotedNode_plain (source : String) : ArePlain (quotedNode source).walk := by
  unfold quotedNode
  split
  · exact arePlain_of_parse (by assumption)
  · exact arePlain_literal rfl

theorem spliceOne_plain (source : String) (value : Value) :
    GivesPlain (spliceOne source value) := by
  unfold spliceOne
  split
  · exact quotedNode_plain _
  · exact arePlain_identifier _
  · split
    · rename_i hscalar
      exact arePlain_literal hscalar
    · trivial

theorem vectorOf_plain (source : String) {items : List Node} (h : ArePlain (walkAll items)) :
    GivesPlain (vectorOf source items) := by
  unfold vectorOf
  dsimp only
  split
  · trivial
  · show ArePlain _
    rw [Node.walk, arePlain_cons]
    exact ⟨rfl, h⟩

theorem splice_plain (source : String) (several : Bool) (value : Value) :
    GivesPlain (splice source several value) := by
  unfold splice
  split
  · exact spliceOne_plain source value
  · apply Ends.bind_any (gives_any _)
    intro values
    apply Ends.bind (Ends.mapM fun value _ => spliceOne_plain source value)
    intro items hitems
    rw [← arePlain_walkAll_iff] at hitems
    split
    · show ArePlain _
      rw [Node.walk, arePlain_cons]
      exact ⟨rfl, hitems⟩
    · exact vectorOf_plain source hitems

theorem flatten_plain {items : List Node} (h : ArePlain (walkAll items)) :
    ArePlain (walkAll (flatten items)) := by
  rw [arePlain_walkAll_iff] at h ⊢
  intro node hnode
  rcases List.mem_flatMap.1 hnode with ⟨item, hitem, hnode⟩
  have hplain := h item hitem
  split at hnode
  · rw [Node.walk, arePlain_cons, arePlain_walkAll_iff] at hplain
    exact hplain.2 node hnode
  · rw [List.mem_singleton.1 hnode]
    exact hplain

section Resolution

variable {env : Environment} {source : String}

mutual

theorem resolveNode_plain :
    forall (node : Node) (several : Bool), ArePlain node.walk ->
      GivesPlain (resolveNode env source several node)
  | .interpolate inner, several, _ => by
      rw [resolveNode]
      apply Ends.bind_any (gives_any _)
      intro value
      exact splice_plain source several _
  | .identifier name, _, h => by
      rw [resolveNode]
      exact h
  | .literal value, _, h => by
      rw [resolveNode]
      exact h
  | .call head args kwargs isOperator, _, h => by
      simp only [Node.walk, arePlain_cons, arePlain_append] at h
      rw [resolveNode]
      apply Ends.bind (resolveAllNodes_plain args _ h.2.1)
      intro args hargs
      apply Ends.bind (resolveNamed_plain kwargs h.2.2)
      intro kwargs hkwargs
      show ArePlain _
      simp only [Node.walk, arePlain_cons, arePlain_append]
      exact ⟨rfl, flatten_plain hargs, hkwargs⟩
  | .assignment target value, _, h => by
      simp only [Node.walk, arePlain_cons] at h
      rw [resolveNode]
      apply Ends.bind (resolveNode_plain value false h.2)
      intro value hvalue
      show ArePlain _
      simp only [Node.walk, arePlain_cons]
      exact ⟨rfl, hvalue⟩
  | .pair left right, _, h => by
      simp only [Node.walk, arePlain_cons, arePlain_append] at h
      rw [resolveNode]
      apply Ends.bind (resolveNode_plain left false h.2.1)
      intro left hleft
      apply Ends.bind (resolveNode_plain right false h.2.2)
      intro right hright
      show ArePlain _
      simp only [Node.walk, arePlain_cons, arePlain_append]
      exact ⟨rfl, hleft, hright⟩
  | .range start stop, _, h => by
      simp only [Node.walk, arePlain_cons, arePlain_append] at h
      rw [resolveNode]
      apply Ends.bind (resolveNode_plain start false h.2.1)
      intro start hstart
      apply Ends.bind (resolveNode_plain stop false h.2.2)
      intro stop hstop
      show ArePlain _
      simp only [Node.walk, arePlain_cons, arePlain_append]
      exact ⟨rfl, hstart, hstop⟩
  | .vector items, _, h => by
      simp only [Node.walk, arePlain_cons] at h
      rw [resolveNode]
      apply Ends.bind (resolveAllNodes_plain items _ h.2)
      intro items hitems
      show ArePlain _
      simp only [Node.walk, arePlain_cons]
      exact ⟨rfl, flatten_plain hitems⟩
  | .tuple items, _, h => by
      simp only [Node.walk, arePlain_cons] at h
      rw [resolveNode]
      apply Ends.bind (resolveAllNodes_plain items _ h.2)
      intro items hitems
      show ArePlain _
      simp only [Node.walk, arePlain_cons]
      exact ⟨rfl, flatten_plain hitems⟩
  | .splice items, _, h => by
      simp only [Node.walk, arePlain_cons] at h
      rw [resolveNode]
      apply Ends.bind (resolveAllNodes_plain items _ h.2)
      intro items hitems
      show ArePlain _
      simp only [Node.walk, arePlain_cons]
      exact ⟨rfl, flatten_plain hitems⟩
  | .foreign value, _, _ => by
      rw [resolveNode]
      trivial

theorem resolveAllNodes_plain :
    forall (nodes : List Node) (several : Bool), ArePlain (walkAll nodes) ->
      GivesAllPlain (resolveAllNodes env source several nodes)
  | [], _, h => by
      rw [resolveAllNodes]
      exact h
  | node :: rest, several, h => by
      simp only [walkAll, arePlain_append] at h
      rw [resolveAllNodes]
      apply Ends.bind (resolveNode_plain node several h.1)
      intro node hnode
      apply Ends.bind (resolveAllNodes_plain rest several h.2)
      intro nodes hnodes
      show ArePlain _
      simp only [walkAll, arePlain_append]
      exact ⟨hnode, hnodes⟩

theorem resolveNamed_plain :
    forall nodes : List (String × Node), ArePlain (walkNamed nodes) ->
      Gives (fun nodes => ArePlain (walkNamed nodes)) (resolveNamed env source nodes)
  | [], h => by
      rw [resolveNamed]
      exact h
  | (name, node) :: rest, h => by
      simp only [walkNamed, arePlain_append] at h
      rw [resolveNamed]
      apply Ends.bind (resolveNode_plain node false h.1)
      intro node hnode
      apply Ends.bind (resolveNamed_plain rest h.2)
      intro nodes hnodes
      show ArePlain _
      simp only [walkNamed, arePlain_append]
      exact ⟨hnode, hnodes⟩

end

end Resolution

theorem resolve_plain (env : Environment) {node : Node} (h : ArePlain node.walk)
    (source : String) :
    Gives (fun fragments => forall fragment, fragment ∈ fragments ->
      ArePlain fragment.node.walk) (resolve env node source) := by
  unfold resolve
  apply Ends.bind (resolveNode_plain node true h)
  intro resolved hresolved
  dsimp only
  split
  · rename_i items
    intro fragment hfragment
    rcases List.mem_map.1 hfragment with ⟨item, hitem, rfl⟩
    rw [Node.walk, arePlain_cons, arePlain_walkAll_iff] at hresolved
    exact hresolved.2 item hitem
  · intro fragment hfragment
    rw [List.mem_singleton.1 hfragment]
    exact hresolved

theorem resolveAll_plain (env : Environment) {fragments : List (Node × String)}
    (h : forall fragment, fragment ∈ fragments -> ArePlain fragment.1.walk) :
    Gives (fun resolved => forall fragment, fragment ∈ resolved -> ArePlain fragment.node.walk)
      (resolveAll env fragments) := by
  apply Ends.map (Ends.mapM fun fragment hf => resolve_plain env (h fragment hf) fragment.2)
  intro lists hlists fragment hfragment
  rcases List.mem_flatten.1 hfragment with ⟨list, hlist, hfragment⟩
  exact hlists list hlist fragment hfragment

end Interpolation

/-!
# Arguments of verbs
-/

namespace Verb

theorem fragmentOf_plain (value : Value) :
    Gives (fun fragment => ArePlain fragment.1.walk) (fragmentOf value) := by
  unfold fragmentOf
  split
  · exact Ends.map (parse_plain true _) fun _ h => h
  · exact quotedNode_plain _
  · exact arePlain_identifier _
  · exact arePlain_literal rfl
  · exact arePlain_literal rfl
  · exact arePlain_literal rfl
  · exact arePlain_literal rfl
  · trivial

theorem namedFragment_plain (entry : String × Value) :
    Gives (fun fragment => ArePlain fragment.1.walk) (namedFragment entry) := by
  unfold namedFragment
  apply Ends.bind (fragmentOf_plain entry.2)
  rintro ⟨node, source⟩ hnode
  dsimp only at hnode ⊢
  split
  · trivial
  · show ArePlain _
    rw [Node.walk, arePlain_cons]
    exact ⟨rfl, hnode⟩

theorem fragmentsOf_plain (values : List Value) (named : List (String × Value)) :
    Gives (fun fragments => forall fragment, fragment ∈ fragments -> ArePlain fragment.1.walk)
      (fragmentsOf values named) := by
  unfold fragmentsOf
  apply Ends.bind (Ends.mapM fun value _ => fragmentOf_plain value)
  intro plain hplain
  apply Ends.bind (Ends.mapM fun entry _ => namedFragment_plain entry)
  intro others hothers fragment hfragment
  rcases List.mem_append.1 hfragment with hfragment | hfragment
  · exact hplain fragment hfragment
  · exact hothers fragment hfragment

end Verb

theorem Invocation.request_plain (call : Invocation) (data : Dataset) :
    Gives (fun request => forall fragment, fragment ∈ request.fragments ->
      ArePlain fragment.node.walk) (call.request data) := by
  unfold request
  apply Ends.bind (Verb.fragmentsOf_plain call.values call.named)
  intro sources hsources
  apply Ends.bind (resolveAll_plain call.env hsources)
  intro fragments hfragments
  exact hfragments

end Wrangle
