import Wrangle.Proofs.Fragment.Printing
import Wrangle.Proofs.Fragment.Recognition
import Wrangle.Proofs.Fragment.Walking

/-!
# Canonical text and parsing

Parsing the canonical text of a tree gives the tree back.  The trees that a text
parses to are all alike in this, but for floats, for names that have no text of
their own, and for two cases in which parentheses are left out.
-/

namespace Wrangle
namespace Grammar

open Node Text Number

/-!
# Trees that can be given back
-/

def comparisonSymbols : List String := ["==", "!=", "<", "<=", ">", ">=", "in"]

def isComparison : Node -> Bool
  | .call head _ _ isOperator => isOperator && comparisonSymbols.contains head
  | _ => false

/-- A tree without floats, whose names can be written, and in which parentheses are not missed. -/
structure IsRestorable (tree : Node) : Prop where
  identifier : forall {name}, .identifier name ∈ tree.walk -> IsRestorableName name
  target : forall {name value}, .assignment name value ∈ tree.walk -> IsRestorableName name
  noFloat : forall {x origin}, .literal (.float x origin) ∉ tree.walk
  comparison : forall {symbol left right}, .binary symbol left right ∈ tree.walk ->
    isComparison (.binary symbol left right) = true -> isComparison left = false
  inversion : forall {operand}, .unary "!" operand ∈ tree.walk ->
    (operand.enclosed Strength.invert operand.unparse).toList.head? ≠ some '!'

theorem IsRestorable.of_walk {tree part : Node} (h : IsRestorable tree)
    (hsub : forall node, node ∈ part.walk -> node ∈ tree.walk) : IsRestorable part where
  identifier := fun hmem => h.identifier (hsub _ hmem)
  target := fun hmem => h.target (hsub _ hmem)
  noFloat := fun hmem => h.noFloat (hsub _ hmem)
  comparison := fun hmem => h.comparison (hsub _ hmem)
  inversion := fun hmem => h.inversion (hsub _ hmem)

theorem mem_comparisonSymbols {op : String} (h : Strength.ofSymbol op = 5) :
    comparisonSymbols.contains op = true := by
  unfold Strength.ofSymbol at h
  split at h
  all_goals first | contradiction | rfl

theorem ofLiteral_ne_five (value : Value) : Strength.ofLiteral value ≠ 5 := by
  unfold Strength.ofLiteral
  split
  · split <;> decide
  · split <;> decide
  · decide

theorem isComparison_of_strength {tree : Node} (h : tree.strength = 5) :
    isComparison tree = true := by
  unfold Node.strength at h
  split at h
  · split at h
    · split at h <;> cases h
    · rw [isComparison, mem_comparisonSymbols h]
      rfl
  · cases h
  · cases h
  · exact absurd h (ofLiteral_ne_five _)
  · cases h

/-!
# Sizes of integers
-/

def IsBounded : Node -> Prop
  | .literal (.int n) => n.natAbs < 10 ^ digitLimit
  | _ => True

def HasBounded : Phrase -> Prop
  | .node _ tree => IsBounded tree
  | _ => True

theorem isBounded_join {sign : Token} {level : Level} {build : Node -> Node -> Node}
    (h : join? sign = some (level, build)) (a b : Node) : IsBounded (build a b) := by
  rcases joins_of_join h with ⟨_, rfl⟩ | ⟨_, rfl⟩ | ⟨rfl, _⟩
  · trivial
  · trivial
  · trivial

theorem isBounded_leaf {token : Token} {tree : Node} (hlegible : token.IsLegible)
    (h : leaf? token = some tree) : IsBounded tree := by
  cases token with
  | integer n =>
      cases h
      rcases hlegible with ⟨k, rfl, hk⟩
      exact hk
  | keyword k =>
      cases k <;> cases h <;> trivial
  | identifier name =>
      cases h
      trivial
  | quotedName name =>
      cases h
      trivial
  | text s =>
      cases h
      trivial
  | decimal x =>
      cases h
      trivial
  | _ => cases h

theorem hasBounded_of_derives {toks : List Token} {phrase : Phrase} (h : Derives toks phrase)
    (hlegible : forall token, token ∈ toks -> token.IsLegible) : HasBounded phrase := by
  induction h with
  | tighter _ _ ih => exact ih hlegible
  | joined hsign _ _ _ _ => exact isBounded_join hsign _ _
  | negativeInt _ ih =>
      have hn := ih fun token hmem => hlegible token (List.mem_cons_of_mem _ hmem)
      show Int.natAbs _ < _
      rw [Int.natAbs_neg]
      exact hn
  | positive _ ih => exact ih fun token hmem => hlegible token (List.mem_cons_of_mem _ hmem)
  | leaf hleaf => exact isBounded_leaf (hlegible _ List.mem_cons_self) hleaf
  | enclosed _ ih =>
      exact ih fun token hmem => hlegible token
        (List.mem_cons_of_mem _ (List.mem_append_left _ hmem))
  | _ => trivial

/-!
# Derived trees are given back
-/

def IsGivenBack : Phrase -> Prop
  | .node _ tree => IsRestorable tree -> Prints tree
  | .items trees => forall tree, tree ∈ trees -> IsRestorable tree -> Prints tree
  | .arguments args kwargs =>
      (forall tree, tree ∈ args -> IsRestorable tree -> Prints tree) ∧
        forall entry, entry ∈ kwargs ->
          (Token.identifier entry.1).IsLegible ∧ (IsRestorable entry.2 -> Prints entry.2)
  | .named kwargs =>
      forall entry, entry ∈ kwargs ->
        (Token.identifier entry.1).IsLegible ∧ (IsRestorable entry.2 -> Prints entry.2)

theorem givenBack_join {sign : Token} {level : Level} {build : Node -> Node -> Node} {a b : Node}
    (hsign : join? sign = some (level, build)) (ha : IsRestorable a -> Prints a)
    (hb : IsRestorable b -> Prints b) (h : IsRestorable (build a b)) : Prints (build a b) := by
  rcases joins_of_join hsign with ⟨_, rfl⟩ | ⟨_, rfl⟩ | ⟨rfl, hlookup, hjoin, hlevel, hright, hleft⟩
  · exact prints_pair
      (ha (h.of_walk fun _ hmem => List.mem_cons_of_mem _ (List.mem_append_left _ hmem)))
      (hb (h.of_walk fun _ hmem => List.mem_cons_of_mem _ (List.mem_append_right _ hmem)))
  · exact prints_range
      (ha (h.of_walk fun _ hmem => List.mem_cons_of_mem _ (List.mem_append_left _ hmem)))
      (hb (h.of_walk fun _ hmem => List.mem_cons_of_mem _ (List.mem_append_right _ hmem)))
  · rename_i op sign
    have hwalk : forall tree, tree ∈ [a, b] -> forall node, node ∈ tree.walk ->
        node ∈ (Node.binary op a b).walk := by
      intro tree htree node hmem
      exact List.mem_cons_of_mem _ (List.mem_append_left _ (mem_walkAll htree hmem))
    have hparts : Prints a ∧ Prints b :=
      ⟨ha (h.of_walk (hwalk a List.mem_cons_self)),
        hb (h.of_walk (hwalk b (List.mem_cons_of_mem _ List.mem_cons_self)))⟩
    refine prints_binary hlookup hjoin hlevel hright hleft hparts.1 hparts.2 ?_
    intro hc hstrength
    rw [hc] at hlevel
    have hwhole : isComparison (.binary op a b) = true :=
      isComparison_of_strength (strength_of_comparison hlevel).1
    have hnone := h.comparison (mem_walk_self _) hwhole
    rw [isComparison_of_strength hstrength] at hnone
    cases hnone

theorem givenBack_leaf {token : Token} {tree : Node} (hlegible : token.IsLegible)
    (hleaf : leaf? token = some tree) (h : IsRestorable tree) : Prints tree := by
  cases token with
  | identifier name =>
      cases hleaf
      exact prints_identifier (h.identifier (mem_walk_self _))
  | quotedName name =>
      cases hleaf
      exact prints_identifier (h.identifier (mem_walk_self _))
  | text s =>
      cases hleaf
      exact prints_str s
  | integer n =>
      have hbounded := isBounded_leaf hlegible hleaf
      cases hleaf
      exact prints_int hbounded
  | decimal x =>
      cases hleaf
      exact absurd (mem_walk_self _) h.noFloat
  | keyword k =>
      rcases Option.map_eq_some_iff.mp hleaf with ⟨value, hvalue, rfl⟩
      cases k <;> cases hvalue
      all_goals first | exact prints_bool _ | exact prints_missing
  | _ => cases hleaf

theorem givenBack_of_derives {toks : List Token} {phrase : Phrase} (h : Derives toks phrase)
    (hlegible : forall token, token ∈ toks -> token.IsLegible) : IsGivenBack phrase := by
  induction h with
  | tighter _ _ ih => exact ih hlegible
  | joined hsign _ _ ihfront ihback =>
      exact givenBack_join hsign
        (ihfront fun token hmem => hlegible token (List.mem_append_left _ hmem))
        (ihback fun token hmem => hlegible token
          (List.mem_append_right _ (List.mem_cons_of_mem _ hmem)))
  | inverted _ _ ih =>
      intro hrestorable
      have hoperand := ih fun token hmem => hlegible token (List.mem_cons_of_mem _ hmem)
      refine prints_not (hrestorable.inversion (mem_walk_self _)) (hoperand ?_)
      exact hrestorable.of_walk fun _ hmem =>
        List.mem_cons_of_mem _ (List.mem_append_left _ (mem_walkAll List.mem_cons_self hmem))
  | negativeInt hd ih =>
      intro _
      exact prints_int (hasBounded_of_derives (.negativeInt hd) hlegible)
  | negativeFloat _ _ =>
      intro hrestorable
      exact absurd (mem_walk_self _) hrestorable.noFloat
  | negative hnumber _ ih =>
      intro hrestorable
      have hoperand := ih fun token hmem => hlegible token (List.mem_cons_of_mem _ hmem)
      refine prints_minus hnumber (hoperand ?_)
      exact hrestorable.of_walk fun _ hmem =>
        List.mem_cons_of_mem _ (List.mem_append_left _ (mem_walkAll List.mem_cons_self hmem))
  | positive _ ih => exact ih fun token hmem => hlegible token (List.mem_cons_of_mem _ hmem)
  | leaf hleaf => exact givenBack_leaf (hlegible _ List.mem_cons_self) hleaf
  | enclosed _ ih =>
      exact ih fun token hmem => hlegible token
        (List.mem_cons_of_mem _ (List.mem_append_left _ hmem))
  | @call head args kwargs toks _ ih =>
      intro hrestorable
      have hparts := ih fun token hmem => hlegible token
        (List.mem_cons_of_mem _ (List.mem_cons_of_mem _ (List.mem_append_left _ hmem)))
      rcases hparts with ⟨hargs, hkwargs⟩
      refine prints_call (hlegible _ List.mem_cons_self) (reads_arguments ?_ (reads_named ?_ ?_))
      · intro tree htree
        exact hargs tree htree (hrestorable.of_walk fun _ hmem =>
          List.mem_cons_of_mem _ (List.mem_append_left _ (mem_walkAll htree hmem)))
      · intro entry hentry
        exact (hkwargs entry hentry).1
      · intro entry hentry
        exact (hkwargs entry hentry).2 (hrestorable.of_walk fun _ hmem =>
          List.mem_cons_of_mem _ (List.mem_append_right _ (mem_walkNamed hentry hmem)))
  | marked _ ih =>
      intro hrestorable
      have hinner := ih fun token hmem => hlegible token (List.mem_cons_of_mem _ hmem)
      exact prints_interpolate
        (hinner (hrestorable.of_walk fun _ hmem => List.mem_cons_of_mem _ hmem))
  | emptyTuple =>
      intro _
      exact prints_emptyTuple
  | @tuple first others front back _ _ ihfront ihback =>
      intro hrestorable
      have hfirst := ihfront fun token hmem => hlegible token
        (List.mem_cons_of_mem _ (List.mem_append_left _ hmem))
      have hothers := ihback fun token hmem => hlegible token
        (List.mem_cons_of_mem _ (List.mem_append_right _
          (List.mem_cons_of_mem _ (List.mem_append_left _ hmem))))
      refine prints_tuple ?_
      intro tree htree
      have hpart : IsRestorable tree := hrestorable.of_walk fun _ hmem =>
        List.mem_cons_of_mem _ (mem_walkAll htree hmem)
      rcases List.mem_cons.mp htree with rfl | hmem
      · exact hfirst hpart
      · exact hothers tree hmem hpart
  | vector _ ih =>
      intro hrestorable
      have htrees := ih fun token hmem => hlegible token
        (List.mem_cons_of_mem _ (List.mem_append_left _ hmem))
      refine prints_vector ?_
      intro tree htree
      exact htrees tree htree
        (hrestorable.of_walk fun _ hmem => List.mem_cons_of_mem _ (mem_walkAll htree hmem))
  | noItems =>
      intro tree htree
      cases htree
  | lastItem _ ih =>
      intro tree htree
      rw [List.mem_singleton.mp htree]
      exact ih hlegible
  | moreItems _ _ ihfront ihback =>
      intro tree htree
      rcases List.mem_cons.mp htree with rfl | hmem
      · exact ihfront fun token hmem => hlegible token (List.mem_append_left _ hmem)
      · exact ihback (fun token hmem => hlegible token
          (List.mem_append_right _ (List.mem_cons_of_mem _ hmem))) tree hmem
  | onlyNamed _ ih =>
      constructor
      · intro tree htree
        cases htree
      · exact ih hlegible
  | lastArgument _ ih =>
      constructor
      · intro tree htree
        rw [List.mem_singleton.mp htree]
        exact ih hlegible
      · intro entry hentry
        cases hentry
  | moreArguments _ _ ihfront ihback =>
      have hothers := ihback fun token hmem => hlegible token
        (List.mem_append_right _ (List.mem_cons_of_mem _ hmem))
      constructor
      · intro tree htree
        rcases List.mem_cons.mp htree with rfl | hmem
        · exact ihfront fun token hmem => hlegible token (List.mem_append_left _ hmem)
        · exact hothers.1 tree hmem
      · exact hothers.2
  | noNamed =>
      intro entry hentry
      cases hentry
  | lastNamed _ ih =>
      intro entry hentry
      rw [List.mem_singleton.mp hentry]
      exact ⟨hlegible _ List.mem_cons_self, ih fun token hmem => hlegible token
        (List.mem_cons_of_mem _ (List.mem_cons_of_mem _ hmem))⟩
  | moreNamed _ _ ihfront ihback =>
      intro entry hentry
      rcases List.mem_cons.mp hentry with rfl | hmem
      · exact ⟨hlegible _ List.mem_cons_self, ihfront fun token hmem => hlegible token
          (List.mem_cons_of_mem _ (List.mem_cons_of_mem _ (List.mem_append_left _ hmem)))⟩
      · exact ihback (fun token hmem => hlegible token (List.mem_cons_of_mem _
          (List.mem_cons_of_mem _ (List.mem_append_right _ (List.mem_cons_of_mem _ hmem)))))
          entry hmem

/-!
# Whole fragments
-/

theorem tokenize_of_lexes {text : String} {toks : List Token} (h : Lexes text toks) :
    exists ts, tokenize text = .ok ts ∧ ts.map Located.token = toks ++ [.finish] := by
  have hlexed := h [] trivial
  rw [List.append_nil, lexed_nil, Option.map_some, lexed, tokensOnly] at hlexed
  cases hts : tokensFrom 0 0 text.toList with
  | error e =>
      rw [hts] at hlexed
      cases hlexed
  | ok ts =>
      rw [hts] at hlexed
      exact ⟨ts, hts, Option.some.inj hlexed⟩

theorem not_blank_of_starts {text : String} (h : Starts text) : isBlankText text = false := by
  rcases h with ⟨c, cs, htext, _, hblank⟩
  rw [isBlankText, htext, List.all_cons, hblank]
  rfl

theorem parse_eq_ok_iff {allowAssignment : Bool} {source : String} {tree : Node} :
    parse allowAssignment source = .ok tree <->
      isBlankText source = false ∧
        exists ts, tokenize source = .ok ts ∧ Parser.fragment allowAssignment ts = .ok tree := by
  unfold parse parseTokens
  cases isBlankText source with
  | true => simp [Outcome.reject]
  | false =>
      cases htokens : tokenize source with
      | error e => simp [Except.mapError]
      | ok ts =>
          cases hread : Parser.fragment allowAssignment ts with
          | error e => simp [hread, Except.mapError]
          | ok found => simp [hread, Except.mapError]

theorem parse_of_lexes {allowAssignment : Bool} {text : String} {toks : List Token} {tree : Node}
    (h : Lexes text toks) (hstarts : Starts text)
    (hd : DerivesFragment allowAssignment (toks ++ [.finish]) tree) :
    parse allowAssignment text = .ok tree := by
  rcases tokenize_of_lexes h with ⟨ts, hts, htoks⟩
  rw [← htoks] at hd
  exact parse_eq_ok_iff.mpr ⟨not_blank_of_starts hstarts, ts, hts, fragment_complete hd⟩

theorem parse_of_written {allowAssignment : Bool} {text : String} {tree : Node}
    (h : Written .clause text tree) : parse allowAssignment text = .ok tree := by
  rcases h with ⟨toks, hd, hlexes, hstarts⟩
  exact parse_of_lexes hlexes hstarts (.expression hd)

theorem parse_assignment {allowAssignment : Bool} {target text name : String} {token : Token}
    {value : Node} (hallow : allowAssignment = true) (htarget : target? token = some name)
    (hname : Lexes target [token]) (hstarts : Starts target) (h : Written .clause text value) :
    parse allowAssignment (target ++ " = " ++ text) = .ok (.assignment name value) := by
  rcases h with ⟨toks, hd, hlexes, _⟩
  have hmem : ("=", Token.symbol .assign) ∈ spacedSigns := by
    decide
  have hsep : Separates " = " (.symbol .assign) := separates_spacedSign hmem
  exact parse_of_lexes (hname.around hsep hlexes) (starts_append (starts_append hstarts _) _)
    (.assignment hallow htarget hd)

/-- What a text parses to, its canonical text parses to as well. -/
theorem parse_unparse {allowAssignment : Bool} {source : String} {tree : Node}
    (h : parse allowAssignment source = .ok tree) (hrestorable : IsRestorable tree) :
    parse allowAssignment tree.unparse = .ok tree := by
  rcases parse_eq_ok_iff.mp h with ⟨_, ts, hts, hread⟩
  have hlegible : forall token, token ∈ ts.map Located.token -> token.IsLegible := by
    intro token htoken
    rcases List.mem_map.mp htoken with ⟨t, ht, rfl⟩
    exact legible_of_tokensFrom hts t ht
  have hfragment := fragment_sound (tokenize_endsOnce hts) hread
  generalize ts.map Located.token = all at hlegible hfragment
  cases hfragment with
  | expression hd =>
      have hprints := givenBack_of_derives hd
        (fun token hmem => hlegible token (List.mem_append_left _ hmem)) hrestorable
      exact parse_of_written hprints.clause
  | @assignment t name value toks hallow _ hd =>
      have hvalue := givenBack_of_derives hd (fun token hmem => hlegible token
        (List.mem_cons_of_mem _ (List.mem_cons_of_mem _ (List.mem_append_left _ hmem))))
        (hrestorable.of_walk fun _ hmem => List.mem_cons_of_mem _ hmem)
      rcases lexes_name (hrestorable.target (mem_walk_self _)) with
        ⟨token, ⟨_, htarget⟩, hname, hstarts⟩
      exact parse_assignment hallow htarget hname hstarts hvalue.clause

/-- The parentheses of a base stay, and a name that is not plain has its backticks. -/
theorem parse_unparse_signedPower :
    exists tree, parse true "- (a+1)^`b c`" = .ok tree ∧ tree.unparse = "-(a + 1) ^ `b c`" ∧
      parse true "-(a + 1) ^ `b c`" = .ok tree := by
  have hts : tokenize "- (a+1)^`b c`" =
      .ok [⟨.symbol .minus, 0⟩, ⟨.symbol .openParen, 2⟩, ⟨.identifier "a", 3⟩, ⟨.symbol .plus, 4⟩,
        ⟨.integer 1, 5⟩, ⟨.symbol .closeParen, 6⟩, ⟨.symbol .caret, 7⟩, ⟨.quotedName "b c", 8⟩,
        ⟨.finish, 13⟩] := rfl
  have hread : parse true "- (a+1)^`b c`" = .ok (.unary "-" (.binary "^"
      (.binary "+" (.identifier "a") (.literal (.int 1))) (.identifier "b c"))) :=
    parse_eq_ok_iff.mpr ⟨by decide, _, hts, rfl⟩
  have htext : (Node.unary "-" (.binary "^"
      (.binary "+" (.identifier "a") (.literal (.int 1))) (.identifier "b c"))).unparse =
      "-(a + 1) ^ `b c`" := by
    decide +kernel
  have hplain : isPlainName "b c" = false := by
    decide +kernel
  have hrestorable : IsRestorable (Node.unary "-" (.binary "^"
      (.binary "+" (.identifier "a") (.literal (.int 1))) (.identifier "b c"))) := by
    constructor
    · intro name hmem
      simp only [Node.unary, Node.binary, walk, walkAll, walkNamed] at hmem
      simp at hmem
      rcases hmem with rfl | rfl
      · exact .inl ⟨rfl, rfl⟩
      · exact .inr ⟨hplain, by decide⟩
    · intro name value hmem
      simp [walk, walkAll, walkNamed, Node.unary, Node.binary] at hmem
    · intro x origin hmem
      simp [walk, walkAll, walkNamed, Node.unary, Node.binary] at hmem
    · intro symbol left right hmem hwhole
      simp [walk, walkAll, walkNamed, Node.unary, Node.binary] at hmem
      rcases hmem with ⟨rfl, rfl, rfl⟩ | ⟨rfl, rfl, rfl⟩
      · rfl
      · rfl
    · intro operand hmem
      simp [walk, walkAll, walkNamed, Node.unary, Node.binary] at hmem
  have hback := parse_unparse hread hrestorable
  rw [htext] at hback
  exact ⟨_, hread, htext, hback⟩

end Grammar

/-!
# Trees that fragments are read as

The parser makes only some of the trees.  What holds of these can be shown by
induction on how they are made, whatever tokens they come from.
-/

/-- Whether a text can have nodes of this kind.  Splices come of resolution, and plain values stand
only in trees built by hand. -/
def Node.isWritten : Node -> Bool
  | splice _ => false
  | foreign _ => false
  | _ => true

namespace Grammar

open Node

/-- A tree that some tokens of a text are read as. -/
inductive Parsed : Node -> Prop where
  | leaf {t tree} : t.IsLegible -> leaf? t = some tree -> Parsed tree
  | negativeInt {n} : IsBounded (.literal (.int n)) -> Parsed (.literal (.int (-n)))
  | negativeFloat (x) : Parsed (.literal (.ofFloat (-x)))
  | joined {sign level build a b} :
      join? sign = some (level, build) -> Parsed a -> Parsed b -> Parsed (build a b)
  | inverted {tree} : Parsed tree -> Parsed (.unary "!" tree)
  | negative {tree} : isNumber tree = false -> Parsed tree -> Parsed (.unary "-" tree)
  | call {head args kwargs} :
      (Token.identifier head).IsLegible -> (forall tree, tree ∈ args -> Parsed tree) ->
      (forall entry, entry ∈ kwargs -> (Token.identifier entry.1).IsLegible) ->
      (forall entry, entry ∈ kwargs -> Parsed entry.2) -> Parsed (.call head args kwargs false)
  | marked {tree} : Parsed tree -> Parsed (.interpolate tree)
  | tuple {trees} : (forall tree, tree ∈ trees -> Parsed tree) -> Parsed (.tuple trees)
  | vector {trees} : (forall tree, tree ∈ trees -> Parsed tree) -> Parsed (.vector trees)

def AreParsed : Phrase -> Prop
  | .node _ tree => Parsed tree
  | .items trees => forall tree, tree ∈ trees -> Parsed tree
  | .arguments args kwargs =>
      (forall tree, tree ∈ args -> Parsed tree) ∧
        forall entry, entry ∈ kwargs ->
          (Token.identifier entry.1).IsLegible ∧ Parsed entry.2
  | .named kwargs =>
      forall entry, entry ∈ kwargs -> (Token.identifier entry.1).IsLegible ∧ Parsed entry.2

def AreLegible (toks : List Token) : Prop :=
  forall token, token ∈ toks -> token.IsLegible

@[simp] theorem areLegible_nil : AreLegible [] := nofun

@[simp] theorem areLegible_cons {t : Token} {toks : List Token} :
    AreLegible (t :: toks) <-> t.IsLegible ∧ AreLegible toks := List.forall_mem_cons

@[simp] theorem areLegible_append {front back : List Token} :
    AreLegible (front ++ back) <-> AreLegible front ∧ AreLegible back := List.forall_mem_append

theorem parsed_of_derives {toks : List Token} {phrase : Phrase} (h : Derives toks phrase)
    (hlegible : AreLegible toks) : AreParsed phrase := by
  induction h with
  | tighter _ _ ih => exact ih hlegible
  | joined hsign _ _ ihfront ihback =>
      rw [areLegible_append, areLegible_cons] at hlegible
      exact .joined hsign (ihfront hlegible.1) (ihback hlegible.2.2)
  | inverted _ _ ih => exact .inverted (ih (areLegible_cons.1 hlegible).2)
  | negativeInt hd _ =>
      have hbounded := hasBounded_of_derives hd (areLegible_cons.1 hlegible).2
      exact .negativeInt hbounded
  | negativeFloat _ _ => exact .negativeFloat _
  | negative hnumber _ ih => exact .negative hnumber (ih (areLegible_cons.1 hlegible).2)
  | positive _ ih => exact ih (areLegible_cons.1 hlegible).2
  | call _ ih =>
      rw [areLegible_cons, areLegible_cons, areLegible_append] at hlegible
      rcases ih hlegible.2.2.1 with ⟨hargs, hkwargs⟩
      exact .call hlegible.1 hargs (fun entry hentry => (hkwargs entry hentry).1)
        fun entry hentry => (hkwargs entry hentry).2
  | marked _ ih => exact .marked (ih (areLegible_cons.1 hlegible).2)
  | leaf hleaf => exact .leaf (areLegible_cons.1 hlegible).1 hleaf
  | enclosed _ ih =>
      rw [areLegible_cons, areLegible_append] at hlegible
      exact ih hlegible.2.1
  | emptyTuple => exact .tuple nofun
  | tuple _ _ ihfront ihback =>
      rw [areLegible_cons, areLegible_append, areLegible_cons, areLegible_append] at hlegible
      exact .tuple (List.forall_mem_cons.2
        ⟨ihfront hlegible.2.1, ihback hlegible.2.2.2.1⟩)
  | vector _ ih =>
      rw [areLegible_cons, areLegible_append] at hlegible
      exact .vector (ih hlegible.2.1)
  | noItems => exact nofun
  | lastItem _ ih => exact List.forall_mem_singleton.2 (ih hlegible)
  | moreItems _ _ ihfront ihback =>
      rw [areLegible_append, areLegible_cons] at hlegible
      exact List.forall_mem_cons.2 ⟨ihfront hlegible.1, ihback hlegible.2.2⟩
  | onlyNamed _ ih => exact ⟨nofun, ih hlegible⟩
  | lastArgument _ ih => exact ⟨List.forall_mem_singleton.2 (ih hlegible), nofun⟩
  | moreArguments _ _ ihfront ihback =>
      rw [areLegible_append, areLegible_cons] at hlegible
      rcases ihback hlegible.2.2 with ⟨hargs, hkwargs⟩
      exact ⟨List.forall_mem_cons.2 ⟨ihfront hlegible.1, hargs⟩, hkwargs⟩
  | noNamed => exact nofun
  | lastNamed _ ih =>
      rw [areLegible_cons, areLegible_cons] at hlegible
      exact List.forall_mem_singleton.2 ⟨hlegible.1, ih hlegible.2.2⟩
  | moreNamed _ _ ihfront ihback =>
      rw [areLegible_cons, areLegible_cons, areLegible_append, areLegible_cons] at hlegible
      exact List.forall_mem_cons.2
        ⟨⟨hlegible.1, ihfront hlegible.2.2.1⟩, ihback hlegible.2.2.2.2⟩

theorem parsed_of_parse {allowAssignment : Bool} {source : String} {tree : Node}
    (h : parse allowAssignment source = .ok tree) :
    Parsed tree ∨ allowAssignment = true ∧
      exists name value, tree = .assignment name value ∧ Parsed value := by
  rcases parse_eq_ok_iff.1 h with ⟨_, ts, hts, hread⟩
  have hlegible : AreLegible (ts.map Located.token) := by
    intro token htoken
    rcases List.mem_map.1 htoken with ⟨t, ht, rfl⟩
    exact legible_of_tokensFrom hts t ht
  have hfragment := fragment_sound (tokenize_endsOnce hts) hread
  generalize ts.map Located.token = all at hlegible hfragment
  cases hfragment with
  | expression hd => exact .inl (parsed_of_derives hd (areLegible_append.1 hlegible).1)
  | @assignment t name value toks hallow _ hd =>
      rw [areLegible_cons, areLegible_cons, areLegible_append] at hlegible
      exact .inr ⟨hallow, name, value, rfl, parsed_of_derives hd hlegible.2.2.1⟩

/-!
# Nodes of parsed trees
-/

theorem Parsed.of_mem_walk {tree node : Node} (h : Parsed tree) (hnode : node ∈ tree.walk) :
    Parsed node := by
  induction h with
  | @leaf t tree hlegible hleaf =>
      have hsame : node = tree := by
        cases t with
        | keyword k => cases k <;> cases hleaf <;> exact List.mem_singleton.1 hnode
        | _ => cases hleaf <;> exact List.mem_singleton.1 hnode
      rw [hsame]
      exact .leaf hlegible hleaf
  | negativeInt hbounded =>
      rw [List.mem_singleton.1 hnode]
      exact .negativeInt hbounded
  | negativeFloat x =>
      rw [List.mem_singleton.1 hnode]
      exact .negativeFloat x
  | @joined sign level build a b hsign ha hb iha ihb =>
      have hparts : node = build a b ∨ node ∈ a.walk ∨ node ∈ b.walk := by
        rcases joins_of_join hsign with ⟨_, rfl⟩ | ⟨_, rfl⟩ | ⟨rfl, _⟩
        all_goals simpa [Node.binary, walk, walkAll, walkNamed] using hnode
      rcases hparts with rfl | hnode | hnode
      · exact .joined hsign ha hb
      · exact iha hnode
      · exact ihb hnode
  | @inverted tree htree ih =>
      have hparts : node = .unary "!" tree ∨ node ∈ tree.walk := by
        simpa [Node.unary, walk, walkAll, walkNamed] using hnode
      rcases hparts with rfl | hnode
      · exact .inverted htree
      · exact ih hnode
  | @negative tree hnumber htree ih =>
      have hparts : node = .unary "-" tree ∨ node ∈ tree.walk := by
        simpa [Node.unary, walk, walkAll, walkNamed] using hnode
      rcases hparts with rfl | hnode
      · exact .negative hnumber htree
      · exact ih hnode
  | call hhead hargs hnames hkwargs ihargs ihkwargs =>
      rw [walk, List.mem_cons, List.mem_append, mem_walkAll_iff, mem_walkNamed_iff] at hnode
      rcases hnode with rfl | ⟨arg, harg, hnode⟩ | ⟨entry, hentry, hnode⟩
      · exact .call hhead hargs hnames hkwargs
      · exact ihargs arg harg hnode
      · exact ihkwargs entry hentry hnode
  | marked htree ih =>
      rw [walk, List.mem_cons] at hnode
      rcases hnode with rfl | hnode
      · exact .marked htree
      · exact ih hnode
  | tuple htrees ih =>
      rw [walk, List.mem_cons, mem_walkAll_iff] at hnode
      rcases hnode with rfl | ⟨tree, htree, hnode⟩
      · exact .tuple htrees
      · exact ih tree htree hnode
  | vector htrees ih =>
      rw [walk, List.mem_cons, mem_walkAll_iff] at hnode
      rcases hnode with rfl | ⟨tree, htree, hnode⟩
      · exact .vector htrees
      · exact ih tree htree hnode

theorem Parsed.isWritten {tree : Node} (h : Parsed tree) : tree.isWritten = true := by
  cases h with
  | @leaf t tree _ hleaf =>
      cases t with
      | keyword k => cases k <;> cases hleaf <;> rfl
      | _ => cases hleaf <;> rfl
  | joined hsign _ _ =>
      rcases joins_of_join hsign with ⟨_, rfl⟩ | ⟨_, rfl⟩ | ⟨rfl, _⟩
      all_goals rfl
  | _ => rfl

theorem isWritten_of_parse {allowAssignment : Bool} {source : String} {tree node : Node}
    (h : parse allowAssignment source = .ok tree) (hnode : node ∈ tree.walk) :
    node.isWritten = true := by
  rcases parsed_of_parse h with htree | ⟨_, name, value, rfl, hvalue⟩
  · exact (htree.of_mem_walk hnode).isWritten
  · rw [walk, List.mem_cons] at hnode
    rcases hnode with rfl | hnode
    · rfl
    · exact (hvalue.of_mem_walk hnode).isWritten

theorem isForeign_of_parsed {tree : Node} (h : Parsed tree) :
    tree.walk.any isForeign = false := by
  rw [List.any_eq_false]
  intro node hnode hforeign
  have hwritten := (h.of_mem_walk hnode).isWritten
  cases node with
  | foreign value => cases hwritten
  | _ => cases hforeign

theorem canonicalText?_of_parsed {tree : Node} (h : Parsed tree) :
    tree.canonicalText? = .ok tree.unparse := by
  rw [canonicalText?, isProper, isForeign_of_parsed h]
  rfl

theorem operator_of_join {sign : Token} {level : Level} {build : Node -> Node -> Node}
    (h : join? sign = some (level, build)) :
    build = .pair ∨ build = .range ∨
      exists symbol op, build = .binary symbol ∧ BinaryOperator.ofSymbol? symbol = some op := by
  cases sign with
  | symbol s =>
      cases s <;> cases h
      all_goals first
        | exact .inl rfl
        | exact .inr (.inl rfl)
        | exact .inr (.inr ⟨_, _, rfl, rfl⟩)
  | keyword k =>
      cases k <;> cases h
      all_goals exact .inr (.inr ⟨_, _, rfl, rfl⟩)
  | _ => cases h

end Grammar
end Wrangle
