import Wrangle.Proofs.Dataset.Raising
import Wrangle.Proofs.Fragment.Decimals
import Wrangle.Proofs.Interpolation.Failures
import Wrangle.Verb.Basic

/-!
# User errors of arguments

A text that is no fragment, a value that stands for none, and a marker that cannot be
resolved are reported with a text of their own.  Functions of the caller may raise
their errors in markers: these come out as they were raised.
-/

namespace Wrangle

open Grammar

/-!
# Texts of values
-/

theorem quoted_ne_empty (text : String) : Text.quoted text ≠ "" := by
  simp [Text.quoted, Text.quoteChars]

namespace Value

theorem toString_int_ne_empty (n : Int) : toString n ≠ "" := by
  cases n with
  | ofNat m =>
      intro h
      exact toString_ne_nil m (congrArg String.toList h)
  | negSucc m =>
      show "-" ++ toString (m + 1) ≠ ""
      simp

theorem floatText_ne_empty (x : Float) : Number.floatText x ≠ "" := by
  rcases floatText_shape x with h | ⟨text, htext, _⟩
  · rcases h with ⟨_, _, _, _, ⟨c, cs, htext, _⟩, _⟩
    intro hempty
    rw [hempty] at htext
    cases htext
  · rw [htext]
    simp

theorem complexText_ne_empty (re im : Float) : Number.complexText re im ≠ "" := by
  unfold Number.complexText
  split
  · simp
  · simp

theorem tupleText_ne_empty (texts : List String) : tupleText texts ≠ "" := by
  unfold tupleText
  split
  · simp
  · simp

theorem printedFunction_ne_empty (f : Function) : printedFunction f ≠ "" := by
  unfold printedFunction
  dsimp only
  split
  all_goals try split
  all_goals simp [functionText]

theorem enclosed_ne_empty {front : String} (h : front ≠ "") (text back : String) :
    front ++ text ++ back ≠ "" := by
  simp [h]

theorem printed_ne_empty (value : Value) : value.printed ≠ "" := by
  unfold printed
  cases value with
  | missing => decide
  | bool b => cases b <;> decide
  | int n => exact toString_int_ne_empty n
  | float x origin => exact floatText_ne_empty x
  | complex re im origin => exact complexText_ne_empty re im
  | str s => exact quoted_ne_empty s
  | tuple items => exact tupleText_ne_empty _
  | set items =>
      rw [fullText]
      split
      · decide
      · exact enclosed_ne_empty (by decide) _ _
  | range start stop step =>
      show "range(" ++ toString start ++ ", " ++ toString stop ++ _ ++ ")" ≠ ""
      simp
  | function f => exact printedFunction_ne_empty f
  | quoted source =>
      show quotedFragmentText source ≠ ""
      simp [quotedFragmentText]
  | decimal | date | datetime | time | duration | list | column | dict | sym | iterator | other =>
      exact enclosed_ne_empty (by decide) _ _

end Value

/-!
# Parsing
-/

theorem ne_empty_of_not_blank {source : String} (h : isBlankText source = false) : source ≠ "" := by
  intro hempty
  rw [hempty] at h
  cases h

theorem parse_attributed (allowAssignment : Bool) (source : String) :
    Ends (Failure.IsFaultOr UserError.IsAttributed) (fun _ => source ≠ "")
      (parse allowAssignment source) := by
  unfold parse
  cases hblank : isBlankText source with
  | true => exact ⟨Text.quoted source, rfl, quoted_ne_empty source⟩
  | false =>
      have hsource := ne_empty_of_not_blank hblank
      cases hparsed : parseTokens allowAssignment source with
      | ok tree => exact hsource
      | error failure =>
          cases failure with
          | malformed e => exact ⟨source, rfl, hsource⟩
          | tooManyDigits => trivial

/-!
# Arguments
-/

namespace Verb

/-- A symbol or a quoted fragment is made from a name or a text that is fit for it. -/
def IsMade : Value -> Prop
  | .sym name => exists value, Interpolation.symbol value = .ok (.sym name)
  | .quoted source => exists value, Interpolation.quote value = .ok (.quoted source)
  | _ => True

theorem sym_ne_empty {name : String} (h : IsMade (.sym name)) : name ≠ "" := by
  rcases h with ⟨value, hvalue⟩
  cases value with
  | str text =>
      unfold Interpolation.symbol at hvalue
      dsimp only at hvalue
      split at hvalue
      · cases hvalue
      · rename_i hsome
        cases hvalue
        exact fun hempty => hsome (String.isEmpty_iff.2 hempty)
  | _ => cases hvalue

theorem quoted_source_ne_empty {source : String} (h : IsMade (.quoted source)) : source ≠ "" := by
  rcases h with ⟨value, hvalue⟩
  cases value with
  | str text =>
      rcases map_eq_ok_iff.1 hvalue with ⟨tree, htree, heq⟩
      cases heq
      have hends := parse_attributed true source
      rw [htree] at hends
      exact hends
  | _ => cases hvalue

/-- A tree whose markers fail with errors about its fragment, or of functions of the caller. -/
def IsSealedTree (tree : Node) : Prop :=
  forall env source several, Interpolation.IsSealed env source several tree

theorem isSealedTree_of_parse {allowAssignment : Bool} {text : String} {tree : Node}
    (h : parse allowAssignment text = .ok tree) : IsSealedTree tree :=
  fun _ _ several => Interpolation.leaked_of_parse h several

def IsFragment (fragment : Node × String) : Prop :=
  IsSealedTree fragment.1 ∧ fragment.2 ≠ ""

theorem fragmentOf_attributed {value : Value} (h : IsMade value) :
    Ends (Failure.IsFaultOr UserError.IsAttributed) IsFragment (fragmentOf value) := by
  unfold fragmentOf
  split
  · rename_i source
    have hends := parse_attributed true source
    cases htree : parse true source with
    | error failure =>
        rw [htree] at hends
        exact hends
    | ok tree =>
        rw [htree] at hends
        exact ⟨isSealedTree_of_parse htree, hends⟩
  · rename_i source
    refine ⟨?_, quoted_source_ne_empty h⟩
    show IsSealedTree (Interpolation.quotedNode source)
    unfold Interpolation.quotedNode
    split
    · rename_i tree htree
      exact isSealedTree_of_parse htree
    · exact fun _ _ _ => trivial
  · exact ⟨fun _ _ _ => trivial, sym_ne_empty h⟩
  · exact ⟨fun _ _ _ => trivial, by decide⟩
  · rename_i b
    refine ⟨fun _ _ _ => trivial, ?_⟩
    cases b <;> decide
  · exact ⟨fun _ _ _ => trivial, Value.toString_int_ne_empty _⟩
  · exact ⟨fun _ _ _ => trivial, Value.floatText_ne_empty _⟩
  · exact ⟨_, rfl, Value.printed_ne_empty value⟩

theorem namedFragment_attributed {entry : String × Value} (h : IsMade entry.2) :
    Ends (Failure.IsFaultOr UserError.IsAttributed) IsFragment (namedFragment entry) := by
  unfold namedFragment
  apply (fragmentOf_attributed h).bind
  intro fragment hfragment
  rcases fragment with ⟨node, source⟩
  rcases hfragment with ⟨hnode, hsource⟩
  dsimp only
  split
  · exact ⟨source, rfl, hsource⟩
  · refine ⟨fun env source several =>
      Interpolation.leaked_assignment (hnode env source false) several, ?_⟩
    simp

theorem fragmentsOf_attributed {values : List Value} {named : List (String × Value)}
    (hvalues : forall value, value ∈ values -> IsMade value)
    (hnamed : forall entry, entry ∈ named -> IsMade entry.2) :
    Ends (Failure.IsFaultOr UserError.IsAttributed)
      (fun fragments => forall fragment, fragment ∈ fragments -> IsFragment fragment)
      (fragmentsOf values named) := by
  unfold fragmentsOf
  apply (Ends.mapM fun value hvalue => fragmentOf_attributed (hvalues value hvalue)).bind
  intro plain hplain
  apply (Ends.mapM fun entry hentry => namedFragment_attributed (hnamed entry hentry)).bind
  intro others hothers fragment hfragment
  rcases List.mem_append.1 hfragment with hfragment | hfragment
  · exact hplain fragment hfragment
  · exact hothers fragment hfragment

end Verb

/-!
# Resolution
-/

namespace Interpolation

theorem resolve_attributed {env : Environment} {fragment : Node × String}
    (h : Verb.IsFragment fragment) :
    Ends (Failure.IsFaultOr fun e => e.IsAttributed ∨ env.functions.Raise e)
      (fun found => forall resolved, resolved ∈ found -> resolved.source ≠ "")
      (resolve env fragment.1 fragment.2) := by
  rcases h with ⟨hsealed, hsource⟩
  unfold resolve
  apply Ends.bind
  · apply (hsealed env fragment.2 true).imp
    · intro failure hfailure
      cases failure with
      | fault f => trivial
      | user e =>
          rcases hfailure with ⟨message, hint, rfl⟩ | hraised
          · exact Or.inl ⟨fragment.2, rfl, hsource⟩
          · exact Or.inr hraised
    · exact fun _ _ => trivial
  · intro tree _
    dsimp only
    split
    · intro resolved hresolved
      rcases List.mem_map.1 hresolved with ⟨item, _, rfl⟩
      exact hsource
    · intro resolved hresolved
      rw [List.mem_singleton.1 hresolved]
      exact hsource

theorem resolveAll_attributed {env : Environment} {fragments : List (Node × String)}
    (h : forall fragment, fragment ∈ fragments -> Verb.IsFragment fragment) :
    Ends (Failure.IsFaultOr fun e => e.IsAttributed ∨ env.functions.Raise e)
      (fun found => forall resolved, resolved ∈ found -> resolved.source ≠ "")
      (resolveAll env fragments) := by
  apply (Ends.mapM fun fragment hfragment => resolve_attributed (h fragment hfragment)).map
  intro lists hlists resolved hresolved
  rcases List.mem_flatten.1 hresolved with ⟨list, hlist, hresolved⟩
  exact hlists list hlist resolved hresolved

end Interpolation

/-!
# Requests
-/

namespace Invocation

/-- A call of a verb with arguments that are made as they should be. -/
structure IsMade (call : Invocation) : Prop where
  values : forall value, value ∈ call.values -> Verb.IsMade value
  named : forall entry, entry ∈ call.named -> Verb.IsMade entry.2

/-- The arguments of a call show themselves, unless a function of the caller has failed. -/
theorem request_attributed {call : Invocation} (h : call.IsMade) (data : Dataset) :
    Ends (Failure.IsFaultOr fun e => e.IsAttributed ∨ call.env.functions.Raise e)
      (fun request => forall fragment, fragment ∈ request.fragments -> fragment.source ≠ "")
      (call.request data) := by
  unfold request
  apply Ends.bind
  · apply (Verb.fragmentsOf_attributed h.values h.named).imp
    · exact fun _ hfailure => hfailure.imp fun _ he => Or.inl he
    · exact fun _ hfragments => hfragments
  · intro sources hsources
    apply (Interpolation.resolveAll_attributed hsources).bind
    intro fragments hfragments
    exact hfragments

end Invocation

/-!
# Sources of plans

The planner compiles each fragment on behalf of its text.  So what it reports shows a
fragment, and what it computes keeps the fragment that it comes from.  The keys that it
groups by are columns in scope, or are computed before.
-/

open Dataset
open Compile (Gives)

theorem joined_ne_empty (separator : String) {texts : List String} (hsome : texts ≠ [])
    (htexts : forall text, text ∈ texts -> text ≠ "") : Text.joined separator texts ≠ "" := by
  cases texts with
  | nil => exact absurd rfl hsome
  | cons text rest =>
      have htext : text ≠ "" := htexts text List.mem_cons_self
      unfold Text.joined
      cases rest with
      | nil => simpa using htext
      | cons next others => simp [String.intercalate_cons_cons, htext]

namespace Dataset

theorem areSourced_nil : AreSourced [] :=
  List.forall_mem_nil _

theorem AreSourced.append {assigns more : List Assign} (h : AreSourced assigns)
    (hmore : AreSourced more) : AreSourced (assigns ++ more) := by
  intro assign hassign
  rcases List.mem_append.1 hassign with hassign | hassign
  · exact h assign hassign
  · exact hmore assign hassign

theorem areSourced_withSource {source : String} (hsource : source ≠ "") (assigns : List Assign) :
    AreSourced (assigns.map (Assign.withSource source)) := by
  intro assign hassign
  rcases List.mem_map.1 hassign with ⟨found, _, rfl⟩
  rw [Assign.fragment_of_source _ rfl hsource]
  exact hsource

end Dataset

namespace Request

def AreShown (fragments : List ResolvedFragment) : Prop :=
  forall fragment, fragment ∈ fragments -> fragment.source ≠ ""

variable {fragments : List ResolvedFragment}

theorem assigns_sourced (h : AreShown fragments) (mode : Mode) (scope : Scope) :
    Ends (Failure.IsFaultOr UserError.IsAttributed) AreSourced (assigns mode scope fragments) := by
  induction fragments generalizing scope with
  | nil => exact areSourced_nil
  | cons fragment rest ih =>
      rcases List.forall_mem_cons.1 h with ⟨hsource, hrest⟩
      rw [assigns]
      apply (inFragment_unplaced hsource (Compile.unplaced_assigns scope mode _)).bind_any
      intro found
      apply (ih hrest _).bind
      intro others hothers
      exact (areSourced_withSource hsource found).append hothers

theorem conditions_sourced (h : AreShown fragments) (scope : Scope) :
    Ends (Failure.IsFaultOr UserError.IsAttributed) AreSourced
      (fragments.mapM (condition scope)) := by
  apply Ends.mapM
  intro fragment hfragment
  have hsource : fragment.source ≠ "" := h fragment hfragment
  unfold condition
  apply inFragment_unplaced hsource
  apply (Compile.unplaced_condition scope fragment.node).bind_any
  intro e
  show Assign.fragment _ ≠ ""
  rw [Assign.fragment_of_source _ rfl hsource]
  exact hsource

theorem columnNames_raises (h : AreShown fragments) (scope : Scope) (names : List String) :
    RaisesOnly UserError.IsAttributed (columnNames scope names fragments) := by
  induction fragments generalizing names with
  | nil => trivial
  | cons fragment rest ih =>
      rcases List.forall_mem_cons.1 h with ⟨hsource, hrest⟩
      have hpicked : LeavesUnplaced (if fragment.node.isAssignment then onlyNames
          else Compile.selectNames scope fragment.node) := by
        split
        · exact rfl
        · exact Compile.unplaced_selectNames scope fragment.node
      rw [columnNames]
      apply (inFragment_unplaced hsource hpicked).bind_any
      intro picked
      exact ih hrest _

theorem renamings_raises (h : AreShown fragments) (scope : Scope)
    (mapping : List (String × String)) :
    RaisesOnly UserError.IsAttributed (renamings scope mapping fragments) := by
  have hpair (node : Node) : LeavesUnplaced (renamedPair scope node) := by
    have hvalue (target : String) (value : Node) : LeavesUnplaced (do
        let names <- Compile.selectNames scope value
        let old <- onlyColumn names
        .ok (old, target)) := by
      apply (Compile.unplaced_selectNames scope value).bind_any
      intro names
      unfold onlyColumn
      split <;> trivial
    unfold renamedPair
    dsimp only
    split
    · exact hvalue _ _
    · exact hvalue _ _
    · exact rfl
  induction fragments generalizing mapping with
  | nil => trivial
  | cons fragment rest ih =>
      rcases List.forall_mem_cons.1 h with ⟨hsource, hrest⟩
      rw [renamings]
      apply (inFragment_unplaced hsource (hpair fragment.node)).bind_any
      intro entry
      exact ih hrest _

theorem sortKeys_sourced (h : AreShown fragments) (scope : Scope) :
    Ends (Failure.IsFaultOr UserError.IsAttributed) (fun found => AreSourced found.1)
      (sortKeys scope fragments) := by
  induction fragments generalizing scope with
  | nil => exact areSourced_nil
  | cons fragment rest ih =>
      rcases List.forall_mem_cons.1 h with ⟨hsource, hrest⟩
      rw [sortKeys]
      apply (inFragment_unplaced hsource (Compile.unplaced_orderKey scope fragment.node)).bind_any
      intro first
      apply (ih hrest _).bind
      intro others hothers
      exact (areSourced_withSource hsource first.1).append hothers

/-!
# Grouping keys
-/

/-- Assignments with names, each of which is a column in scope or is assigned to. -/
def Names (columns : List String) (assigns : List Assign) (names : List String) : Prop :=
  forall name, name ∈ names -> name ∈ columns ∨ name ∈ assigns.map Assign.name

theorem groupKeys_names (scope : Scope) (node : Node) :
    Gives (fun found => Names scope.columns found.1 found.2.1 ∧
      Names scope.columns found.1 found.2.2.columns) (Compile.groupKeys scope node) := by
  unfold Compile.groupKeys
  split
  · apply (Compile.gives_any _).bind_any
    intro e
    constructor
    · intro name hname
      exact Or.inr hname
    · intro name hname
      rcases Scope.mem_addColumn_iff.1 hname with hname | rfl
      · exact Or.inl hname
      · exact Or.inr (List.mem_singleton.2 rfl)
  · apply (Compile.selectNames_inScope node).bind
    intro names hnames
    constructor
    · intro name hname
      rcases Compile.ColumnSets.mem_addNew_iff.1 hname with hname | hname
      · cases hname
      · exact Or.inl (hnames name hname)
    · intro name hname
      exact Or.inl hname

theorem groupKeys_sourced (h : AreShown fragments) (scope : Scope) (names : List String) :
    Ends (Failure.IsFaultOr UserError.IsAttributed)
      (fun found => AreSourced found.1 ∧ Names (names ++ scope.columns) found.1 found.2)
      (groupKeys scope names fragments) := by
  induction fragments generalizing scope names with
  | nil =>
      refine ⟨areSourced_nil, ?_⟩
      intro name hname
      exact Or.inl (List.mem_append_left _ hname)
  | cons fragment rest ih =>
      rcases List.forall_mem_cons.1 h with ⟨hsource, hrest⟩
      have hfirst := (Compile.unplaced_groupKeys scope fragment.node).with_good
        (groupKeys_names scope fragment.node)
      rw [groupKeys]
      apply (inFragment_unplaced hsource hfirst).bind
      intro first hfirst
      rcases first with ⟨found, keys, after⟩
      rcases hfirst with ⟨hkeys, hafter⟩
      apply (ih hrest _ _).bind
      intro others hothers
      rcases others with ⟨others, all⟩
      rcases hothers with ⟨hsourced, hall⟩
      refine ⟨(areSourced_withSource hsource found).append hsourced, ?_⟩
      have hfound : (found.map (Assign.withSource fragment.source)).map Assign.name =
          found.map Assign.name := by
        rw [List.map_map]
        rfl
      have hwider {name : String}
          (hname : name ∈ scope.columns ∨ name ∈ found.map Assign.name) :
          name ∈ names ++ scope.columns ∨
            name ∈ (found.map (Assign.withSource fragment.source) ++ others).map Assign.name := by
        rw [List.map_append, hfound]
        rcases hname with hname | hname
        · exact Or.inl (List.mem_append_right _ hname)
        · exact Or.inr (List.mem_append_left _ hname)
      intro name hname
      rcases hall name hname with hname | hname
      · rcases List.mem_append.1 hname with hname | hname
        · rcases Compile.ColumnSets.mem_addNew_iff.1 hname with hname | hname
          · exact Or.inl (List.mem_append_left _ hname)
          · exact hwider (hkeys name hname)
        · exact hwider (hafter name hname)
      · right
        rw [List.map_append]
        exact List.mem_append_right _ hname

end Request
end Wrangle
