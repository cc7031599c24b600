import Wrangle.Proofs.Fragment.Grammar

/-!
# Completeness of the parser

Whatever derives a tree is read as that tree, up to the token after it.  A reader
of a level takes as many tokens as it can, so the token after a phrase has to be
one that no sign of the level takes on with; the grammar leaves no other token
there.
-/

namespace Wrangle
namespace Grammar

open Wrangle.Parser

/-!
# First tokens
-/

def opensAtom (t : Token) : Bool :=
  (leaf? t).isSome || [.symbol .openParen, .symbol .openBracket, .marker].contains t

def closers : List Token :=
  [.symbol .closeParen, .symbol .closeBracket, .symbol .comma, .finish]

def closingBrackets : List Symbol := [.closeParen, .closeBracket]

theorem closer_of_closingBracket {s : Symbol} (h : s ∈ closingBrackets) :
    Token.symbol s ∈ closers ∧ Token.symbol s ≠ .symbol .comma := by
  revert h
  cases s <;> decide

def opens (level : Level) (t : Token) : Prop :=
  opensAtom t = true ∨ (t ∈ [.symbol .plus, .symbol .minus] ∧ Level.signed.rank <= level.rank) ∨
    (t ∈ notSigns ∧ Level.negation.rank <= level.rank)

theorem opens_mono {inner level : Level} {t : Token} (hr : inner.rank <= level.rank)
    (h : opens inner t) : opens level t := by
  rcases h with h | ⟨h, hrank⟩ | ⟨h, hrank⟩
  · exact .inl h
  · exact .inr (.inl ⟨h, Nat.le_trans hrank hr⟩)
  · exact .inr (.inr ⟨h, Nat.le_trans hrank hr⟩)

theorem Level.rank_left_le (level : Level) (h : level.isJoining = true) :
    level.left.rank <= level.rank := by
  cases level <;> first | decide | cases h

def Opened (toks : List Token) : Phrase -> Prop
  | .node level _ => exists head more, toks = head :: more ∧ opens level head
  | _ => True

theorem opened_of_derives {toks : List Token} {phrase : Phrase} (h : Derives toks phrase) :
    Opened toks phrase := by
  induction h with
  | tighter hn _ ih =>
      rcases ih with ⟨head, more, rfl, hopens⟩
      refine ⟨head, more, rfl, opens_mono ?_ hopens⟩
      rw [Level.rank_of_next? hn]
      exact Nat.le_succ _
  | joined hsign _ _ ihfront _ =>
      rcases ihfront with ⟨head, more, rfl, hopens⟩
      exact ⟨head, _, rfl,
        opens_mono (Level.rank_left_le _ (Level.isJoining_of_join hsign)) hopens⟩
  | inverted hsign _ _ => exact ⟨_, _, rfl, .inr (.inr ⟨hsign, Nat.le_refl _⟩)⟩
  | negativeInt _ _ => exact ⟨_, _, rfl, .inr (.inl ⟨by simp, Nat.le_refl _⟩)⟩
  | negativeFloat _ _ => exact ⟨_, _, rfl, .inr (.inl ⟨by simp, Nat.le_refl _⟩)⟩
  | negative _ _ _ => exact ⟨_, _, rfl, .inr (.inl ⟨by simp, Nat.le_refl _⟩)⟩
  | positive _ _ => exact ⟨_, _, rfl, .inr (.inl ⟨by simp, Nat.le_refl _⟩)⟩
  | call _ _ => exact ⟨_, _, rfl, .inl rfl⟩
  | marked _ _ => exact ⟨_, _, rfl, .inl rfl⟩
  | leaf hleaf =>
      refine ⟨_, _, rfl, .inl ?_⟩
      rw [opensAtom, hleaf]
      rfl
  | enclosed _ _ => exact ⟨_, _, rfl, .inl rfl⟩
  | emptyTuple => exact ⟨_, _, rfl, .inl rfl⟩
  | tuple _ _ _ _ => exact ⟨_, _, rfl, .inl rfl⟩
  | vector _ _ => exact ⟨_, _, rfl, .inl rfl⟩
  | _ => trivial

theorem not_opens {level : Level} {t : Token} (h : opens level t) :
    t ≠ .symbol .closeParen ∧ t ≠ .symbol .closeBracket ∧ t ≠ .symbol .comma ∧ t ≠ .finish := by
  have hall : forall u, u ∈ closers ->
      opensAtom u = false ∧ u ∉ [Token.symbol .plus, .symbol .minus] ∧ u ∉ notSigns := by
    decide
  have hne : t ∉ closers := by
    intro hmem
    rcases hall t hmem with ⟨hatom, hplus, hnot⟩
    rcases h with h | ⟨h, _⟩ | ⟨h, _⟩
    · rw [hatom] at h
      cases h
    · exact hplus h
    · exact hnot h
  simp only [closers, List.mem_cons, List.not_mem_nil, or_false, not_or] at hne
  exact hne

theorem not_sign_of_opens {level : Level} {t : Token} (hr : level.rank < Level.signed.rank)
    (h : opens level t) : t ≠ .symbol .minus ∧ t ≠ .symbol .plus := by
  rcases h with h | ⟨_, hrank⟩ | ⟨_, hrank⟩
  · constructor
    · rintro rfl
      cases h
    · rintro rfl
      cases h
  · exact absurd hrank (Nat.not_le.mpr hr)
  · exact absurd (Nat.le_trans hrank (Nat.le_of_lt hr)) (by decide)

theorem not_not_of_opens {level : Level} {t : Token} (hr : level.rank < Level.negation.rank)
    (h : opens level t) : t ∉ notSigns := by
  have hall : forall u, u ∈ notSigns -> opensAtom u = false ∧ u ∉ [Token.symbol .plus, .symbol .minus] := by
    decide
  intro hmem
  rcases hall t hmem with ⟨hatom, hplus⟩
  rcases h with h | ⟨h, _⟩ | ⟨_, hrank⟩
  · rw [hatom] at h
    cases h
  · exact hplus h
  · exact absurd hrank (Nat.not_le.mpr hr)

/-!
# Second tokens

A name or a text at the start of a tree is never before an assignment sign.
-/

def Unassigned (toks : List Token) : Phrase -> Prop
  | .node _ _ =>
      forall head more, (target? head).isSome = true -> toks ≠ head :: .symbol .assign :: more
  | _ => True

theorem unassigned_of_derives {toks : List Token} {phrase : Phrase} (h : Derives toks phrase) :
    Unassigned toks phrase := by
  induction h with
  | tighter _ _ ih => exact ih
  | @joined level sign build a b front back hsign hfront _ ih _ =>
      intro head more htarget heq
      rcases opened_of_derives hfront with ⟨first, others, rfl, _⟩
      cases others with
      | nil =>
          cases heq
          cases hsign
      | cons second others =>
          cases heq
          exact ih _ _ htarget rfl
  | inverted hsign _ _ =>
      intro head more htarget heq
      cases heq
      have hall : forall u, u ∈ notSigns -> (target? u).isSome = false := by decide
      rw [hall _ hsign] at htarget
      cases htarget
  | leaf _ =>
      intro head more _ heq
      cases heq
  | onlyNamed _ _ => trivial
  | lastArgument _ _ => trivial
  | moreArguments _ _ _ _ => trivial
  | noNamed => trivial
  | lastNamed _ _ => trivial
  | moreNamed _ _ _ _ => trivial
  | noItems => trivial
  | lastItem _ _ => trivial
  | moreItems _ _ _ _ => trivial
  | call _ _ =>
      intro head more _ heq
      cases (List.cons.inj (List.cons.inj heq).2).1
  | _ =>
      intro head more htarget heq
      rw [← (List.cons.inj heq).1] at htarget
      cases htarget

/-!
# The token after a phrase
-/

structure Level.StopsAt (level : Level) (t : Token) : Prop where
  notOpen : t ≠ .symbol .openParen
  notAssign : t ≠ .symbol .assign
  looser : forall {home build}, join? t = some (home, build) -> level.rank < home.rank

namespace Level

theorem rank_left_lt {level : Level} (hj : level.isJoining = true) (hc : level.isChain = false) :
    level.left.rank < level.rank := by
  rw [rank_of_next? (next?_of_single hj hc)]
  exact Nat.lt_succ_self _

theorem rank_right_lt {level : Level} (hc : level.isChain = true) :
    level.right.rank < level.rank := by
  rw [rank_of_next? (next?_of_chain hc)]
  exact Nat.lt_succ_self _

theorem isJoining_of_chain {level : Level} (h : level.isChain = true) :
    level.isJoining = true := by
  cases level <;> first | rfl | cases h

theorem StopsAt.mono {level inner : Level} {t : Token} (hr : inner.rank <= level.rank)
    (h : level.StopsAt t) : inner.StopsAt t where
  notOpen := h.notOpen
  notAssign := h.notAssign
  looser := fun hjoin => Nat.lt_of_le_of_lt hr (h.looser hjoin)

theorem stopsAt_sign {level inner : Level} {sign : Token} {build}
    (hsign : join? sign = some (level, build)) (hr : inner.rank < level.rank) :
    inner.StopsAt sign where
  notOpen := by
    rintro rfl
    cases hsign
  notAssign := by
    rintro rfl
    cases hsign
  looser := by
    intro home other hother
    rw [hsign] at hother
    cases hother
    exact hr

theorem stopsAt_of_mem (level : Level) {t : Token}
    (h : t ∈ closers) :
    level.StopsAt t := by
  have hall : forall u, u ∈ closers ->
      u ≠ .symbol .openParen ∧ u ≠ .symbol .assign ∧ (join? u).isNone = true := by
    intro u hu
    simp only [closers, List.mem_cons, List.not_mem_nil, or_false] at hu
    rcases hu with rfl | rfl | rfl | rfl <;> exact ⟨by decide, by decide, rfl⟩
  rcases hall t h with ⟨hopen, hassign, hnone⟩
  refine ⟨hopen, hassign, ?_⟩
  intro home build hjoin
  rw [hjoin] at hnone
  cases hnone

theorem StopsAt.join_eq_none {level : Level} {t : Token} (h : level.StopsAt t) :
    level.join t = none := by
  cases hjoin : level.join t with
  | none => rfl
  | some build => exact absurd (h.looser (join_eq_some_iff.mp hjoin)) (Nat.lt_irrefl _)

theorem StopsAt.right {level : Level} {t : Token} (hj : level.isJoining = true)
    (h : level.StopsAt t) : level.right.StopsAt t := by
  refine ⟨h.notOpen, h.notAssign, ?_⟩
  intro home build hjoin
  have hlt := h.looser hjoin
  have hhome := isJoining_of_join hjoin
  revert hj hlt hhome
  cases level <;> cases home <;> decide

theorem resume_of_stops {level : Level} {rest : List Located} (h : level.StopsAt (next rest).token)
    (depth : Nat) (tree : Node) : level.resume (depth + 1) tree rest = .ok (tree, rest) := by
  cases hc : level.isChain with
  | true =>
      rw [resume_chain hc, h.join_eq_none]
  | false =>
      rw [resume_eq_once hc, once, h.join_eq_none]

def guard (level : Level) : Level :=
  if level.isChain then level.right else level

theorem StopsAt.guard {level : Level} {t : Token} (h : level.StopsAt t) :
    level.guard.StopsAt t := by
  unfold Level.guard
  split
  · rename_i hc
    exact h.right (isJoining_of_chain hc)
  · exact h

end Level

/-!
# Completeness of a reader

The depth that a reader needs is counted in levels: each token is worth more of
them than there are.
-/

/-- The reader of a phrase takes its tokens, and then goes on as after a first operand. -/
def Complete (toks : List Token) : Phrase -> Prop
  | .node level tree =>
      forall {ts rest depth}, ts.map Located.token = toks ->
        level.guard.StopsAt (next rest).token -> 16 * toks.length + level.rank <= depth ->
        exists left, depth <= left + toks.length ∧
          level.read depth (ts ++ rest) = level.resume left tree rest
  | .items trees =>
      forall {closer ts rest depth}, ts.map Located.token = toks ->
        closer ∈ closingBrackets -> (next rest).token = .symbol closer ->
        16 * toks.length + 13 <= depth ->
        Parser.items depth closer (ts ++ rest) = .ok (trees, rest)
  | .arguments args kwargs =>
      forall {ts rest depth}, ts.map Located.token = toks ->
        (next rest).token = .symbol .closeParen -> 16 * toks.length + 14 <= depth ->
        Parser.arguments depth (ts ++ rest) = .ok ((args, kwargs), rest)
  | .named kwargs =>
      forall {ts rest depth}, ts.map Located.token = toks ->
        (next rest).token = .symbol .closeParen -> 16 * toks.length + 13 <= depth ->
        Parser.namedArguments depth (ts ++ rest) = .ok (kwargs, rest)

section Node

variable {level : Level} {tree : Node} {toks : List Token} {ts rest : List Located} {depth : Nat}

theorem Complete.read (h : Complete toks (.node level tree)) (hts : ts.map Located.token = toks)
    (hstop : level.StopsAt (next rest).token) (hdepth : 16 * toks.length + level.rank <= depth) :
    level.read depth (ts ++ rest) = .ok (tree, rest) := by
  rcases h hts hstop.guard hdepth with ⟨left, hleft, hread⟩
  have hpos := level.rank_pos
  cases left with
  | zero => omega
  | succ left => rw [hread, Level.resume_of_stops hstop]

/-- At a level whose signs do not follow each other, returning the tree is all there is. -/
theorem complete_of_read (hc : level.isChain = false)
    (h : forall {ts rest depth}, ts.map Located.token = toks ->
      level.StopsAt (next rest).token -> 16 * toks.length + level.rank <= depth + 1 ->
      level.read (depth + 1) (ts ++ rest) = .ok (tree, rest)) :
    Complete toks (.node level tree) := by
  intro ts rest depth hts hstop hdepth
  have hguard : level.guard = level := by
    rw [Level.guard, hc]
    rfl
  rw [hguard] at hstop
  have hpos := level.rank_pos
  cases depth with
  | zero => omega
  | succ depth =>
      refine ⟨depth + 1, Nat.le_add_right _ _, ?_⟩
      rw [h hts hstop hdepth, Level.resume_of_stops hstop]

theorem opens_next (hd : Derives toks (.node level tree)) (hts : ts.map Located.token = toks) :
    opens level (next (ts ++ rest)).token := by
  rcases opened_of_derives hd with ⟨head, more, rfl, hopens⟩
  rcases List.map_eq_cons_iff.mp hts with ⟨t, others, rfl, rfl, _⟩
  exact hopens

theorem length_pos_of_derives (hd : Derives toks (.node level tree)) : 0 < toks.length := by
  rcases opened_of_derives hd with ⟨head, more, rfl, _⟩
  exact Nat.succ_pos _

end Node

/-!
# Signs between operands
-/

theorem complete_tighter {level inner : Level} {tree : Node} {toks : List Token}
    (hj : level.isJoining = true) (hn : level.next? = some inner)
    (hd : Derives toks (.node inner tree)) (ih : Complete toks (.node inner tree)) :
    Complete toks (.node level tree) := by
  intro ts rest depth hts hstop hdepth
  have hrank := Level.rank_of_next? hn
  have hpos := length_pos_of_derives hd
  have hinner : inner.StopsAt (next rest).token := by
    unfold Level.guard at hstop
    split at hstop
    · rename_i hc
      rw [Level.next?_of_chain hc] at hn
      cases hn
      exact hstop
    · exact hstop.mono (by omega)
  cases depth with
  | zero => omega
  | succ depth =>
      refine ⟨depth, by omega, ?_⟩
      rw [Level.read_joining hj hn, ih.read hts hinner (by omega), ok_bind]

section Joined

variable {level : Level} {sign : Token} {build : Node -> Node -> Node} {a b : Node}
  {front back : List Token}

theorem complete_joined_chain (hc : level.isChain = true)
    (hsign : join? sign = some (level, build)) (ihfront : Complete front (.node level.left a))
    (ihback : Complete back (.node level.right b)) :
    Complete (front ++ sign :: back) (.node level (build a b)) := by
  intro ts rest depth hts hstop hdepth
  rcases exists_around hts with ⟨start, t, last, rfl, hstart, ht, hlast⟩
  rw [Level.left_eq_of_chain hc] at ihfront
  have hright := Level.rank_right_lt hc
  have hguard : level.guard = level.right := by
    rw [Level.guard, hc]
    rfl
  rw [hguard] at hstop
  rw [List.length_append, List.length_cons] at hdepth ⊢
  have hafter : level.guard.StopsAt (next (t :: (last ++ rest))).token := by
    rw [hguard, next, ht]
    exact Level.stopsAt_sign hsign hright
  have hfront : 16 * front.length + level.rank <= depth := by
    omega
  rcases ihfront hstart hafter hfront with ⟨left, hleft, hread⟩
  cases left with
  | zero => omega
  | succ left =>
      refine ⟨left, by omega, ?_⟩
      have hjoin : level.join (next (t :: (last ++ rest))).token = some build := by
        rw [next, ht]
        exact join_eq_some_iff.mpr hsign
      rw [List.append_assoc, List.cons_append, hread, Level.resume_chain hc, hjoin]
      show level.right.read left (last ++ rest) >>= _ = _
      rw [ihback.read hlast hstop (by omega), ok_bind]

theorem complete_joined_single (hc : level.isChain = false)
    (hsign : join? sign = some (level, build)) (ihfront : Complete front (.node level.left a))
    (ihback : Complete back (.node level.right b)) :
    Complete (front ++ sign :: back) (.node level (build a b)) := by
  refine complete_of_read hc ?_
  intro ts rest depth hts hstop hdepth
  rcases exists_around hts with ⟨start, t, last, rfl, hstart, ht, hlast⟩
  have hj := Level.isJoining_of_join hsign
  have hleft := Level.rank_left_lt hj hc
  have hright := level.right.rank_le
  rw [List.length_append, List.length_cons] at hdepth
  have hafter : level.left.StopsAt (next (t :: (last ++ rest))).token := by
    rw [next, ht]
    exact Level.stopsAt_sign hsign hleft
  have hjoin : level.join (next (t :: (last ++ rest))).token = some build := by
    rw [next, ht]
    exact join_eq_some_iff.mpr hsign
  rw [Level.read_joining hj (Level.next?_of_single hj hc), Level.resume_eq_once hc,
    List.append_assoc, List.cons_append, ihfront.read hstart hafter (by omega), ok_bind,
    Level.once, hjoin]
  show level.right.read depth (last ++ rest) >>= _ = _
  rw [ihback.read hlast (hstop.right hj) (by omega), ok_bind]

end Joined

/-!
# Signs before an operand
-/

section Signs

variable {tree : Node} {toks : List Token}

theorem complete_comparison (hd : Derives toks (.node .comparison tree))
    (ih : Complete toks (.node .comparison tree)) : Complete toks (.node .negation tree) := by
  refine complete_of_read rfl ?_
  intro ts rest depth hts hstop hdepth
  have hnot : isNot (ts ++ rest) = false := by
    rw [Bool.eq_false_iff]
    intro h
    exact not_not_of_opens (by decide) (opens_next hd hts) (isNot_iff.mp h)
  show Parser.negation (depth + 1) (ts ++ rest) = _
  rw [Parser.negation, hnot]
  exact ih.read hts (hstop.mono (by decide)) (by simp only [Level.rank] at hdepth ⊢; omega)

theorem complete_inverted {sign : Token} (hsign : sign ∈ notSigns)
    (ih : Complete toks (.node .negation tree)) :
    Complete (sign :: toks) (.node .negation (.unary "!" tree)) := by
  refine complete_of_read rfl ?_
  intro ts rest depth hts hstop hdepth
  rcases List.map_eq_cons_iff.mp hts with ⟨t, others, rfl, rfl, hothers⟩
  have hnot : isNot (t :: (others ++ rest)) = true := isNot_iff.mpr hsign
  show Parser.negation (depth + 1) (t :: (others ++ rest)) = _
  rw [Parser.negation, hnot]
  have hread : Level.negation.read depth (others ++ rest) = .ok (tree, rest) :=
    ih.read hothers hstop (by rw [List.length_cons] at hdepth; omega)
  show Level.negation.read depth (others ++ rest) >>= _ = _
  rw [hread, ok_bind]

theorem complete_power (hd : Derives toks (.node .power tree))
    (ih : Complete toks (.node .power tree)) : Complete toks (.node .signed tree) := by
  refine complete_of_read rfl ?_
  intro ts rest depth hts hstop hdepth
  rcases not_sign_of_opens (by decide) (opens_next hd hts) with ⟨hminus, hplus⟩
  show Parser.signed (depth + 1) (ts ++ rest) = _
  rw [Parser.signed, if_neg (mt isSymbol_iff.mp hminus), if_neg (mt isSymbol_iff.mp hplus)]
  exact ih.read hts (hstop.mono (by decide)) (by simp only [Level.rank] at hdepth ⊢; omega)

theorem complete_minus (ih : Complete toks (.node .signed tree)) :
    Complete (.symbol .minus :: toks) (.node .signed (negated tree)) := by
  refine complete_of_read rfl ?_
  intro ts rest depth hts hstop hdepth
  rcases List.map_eq_cons_iff.mp hts with ⟨t, others, rfl, ht, hothers⟩
  have hread : Level.signed.read depth (others ++ rest) = .ok (tree, rest) :=
    ih.read hothers hstop (by rw [List.length_cons] at hdepth; omega)
  show Parser.signed (depth + 1) (t :: (others ++ rest)) = _
  rw [Parser.signed, if_pos (isSymbol_cons_iff.mpr ht)]
  show Level.signed.read depth (others ++ rest) >>= _ = _
  rw [hread, ok_bind]

theorem complete_positive (ih : Complete toks (.node .signed tree)) :
    Complete (.symbol .plus :: toks) (.node .signed tree) := by
  refine complete_of_read rfl ?_
  intro ts rest depth hts hstop hdepth
  rcases List.map_eq_cons_iff.mp hts with ⟨t, others, rfl, ht, hothers⟩
  have hminus : ¬ isSymbol .minus (t :: (others ++ rest)) = true := by
    rw [isSymbol_iff, next, ht]
    decide
  show Parser.signed (depth + 1) (t :: (others ++ rest)) = _
  rw [Parser.signed, if_neg hminus, if_pos (isSymbol_cons_iff.mpr ht)]
  exact ih.read hothers hstop (by rw [List.length_cons] at hdepth; omega)

theorem negated_of_not_number (h : isNumber tree = false) : negated tree = .unary "-" tree := by
  unfold negated
  split
  · cases h
  · cases h
  · rfl

end Signs

/-!
# Calls and atoms
-/

theorem expect_cons {s : Symbol} {t : Located} (h : t.token = .symbol s) (ts : List Located) :
    expect s (t :: ts) = .ok ((), ts) := by
  unfold expect
  dsimp only [next]
  rw [h]
  exact if_pos rfl

section Atoms

variable {tree : Node} {toks : List Token}

theorem singleton_of_identifier {phrase : Phrase} (hd : Derives toks phrase)
    (hphrase : phrase = .node .atom tree) {head : String} {more : List Token}
    (htoks : toks = .identifier head :: more) : more = [] := by
  cases hd with
  | tighter hn _ =>
      cases hphrase
      cases hn
  | joined hsign _ _ =>
      cases hphrase
      cases Level.isJoining_of_join hsign
  | leaf _ =>
      cases htoks
      rfl
  | marked _ => cases htoks
  | enclosed _ => cases htoks
  | emptyTuple => cases htoks
  | tuple _ _ => cases htoks
  | vector _ => cases htoks
  | _ => cases hphrase

theorem complete_atom (hd : Derives toks (.node .atom tree))
    (ih : Complete toks (.node .atom tree)) : Complete toks (.node .application tree) := by
  refine complete_of_read rfl ?_
  intro ts rest depth hts hstop hdepth
  have hread : Parser.atom depth (ts ++ rest) = .ok (tree, rest) :=
    ih.read hts (hstop.mono (by decide)) (by simp only [Level.rank] at hdepth ⊢; omega)
  show Parser.application (depth + 1) (ts ++ rest) = _
  rw [Parser.application]
  split
  · rename_i head hhead
    have hopen : ¬ isSymbol .openParen (ts ++ rest).tail = true := by
      cases ts with
      | nil =>
          rw [← hts] at hd
          exact absurd (length_pos_of_derives hd) (Nat.lt_irrefl 0)
      | cons t others =>
          have ht : t.token = .identifier head := hhead
          have hnil : others.map Located.token = [] := by
            rw [← hts, List.map_cons, ht] at hd
            exact singleton_of_identifier hd rfl rfl
          rw [List.map_eq_nil_iff.mp hnil]
          exact mt isSymbol_iff.mp hstop.notOpen
    rw [if_neg hopen]
    exact hread
  · exact hread

theorem complete_call {head : String} {args : List Node} {kwargs : List (String × Node)}
    (ih : Complete toks (.arguments args kwargs)) :
    Complete (.identifier head :: .symbol .openParen :: (toks ++ [.symbol .closeParen]))
      (.node .application (.call head args kwargs false)) := by
  refine complete_of_read rfl ?_
  intro ts rest depth hts hstop hdepth
  rcases List.map_eq_cons_iff.mp hts with ⟨t, others, rfl, ht, hothers⟩
  rcases List.map_eq_cons_iff.mp hothers with ⟨o, inner, rfl, ho, hinner⟩
  rcases exists_before hinner with ⟨middle, c, rfl, hmiddle, hc⟩
  have hargs : Parser.arguments depth (middle ++ c :: rest) = .ok ((args, kwargs), c :: rest) := by
    refine ih hmiddle hc ?_
    simp only [List.length_cons, List.length_append, Level.rank] at hdepth
    omega
  show Parser.application (depth + 1) (t :: o :: (middle ++ [c] ++ rest)) = _
  rw [Parser.application, next, ht]
  dsimp only
  rw [List.tail_cons, if_pos (isSymbol_cons_iff.mpr ho), List.tail_cons, List.append_assoc,
    List.singleton_append, hargs, ok_bind]
  dsimp only
  rw [expect_cons hc]
  rfl

theorem complete_marked (ih : Complete toks (.node .application tree)) :
    Complete (.marker :: toks) (.node .atom (.interpolate tree)) := by
  refine complete_of_read rfl ?_
  intro ts rest depth hts hstop hdepth
  rcases List.map_eq_cons_iff.mp hts with ⟨t, others, rfl, ht, hothers⟩
  have hread : Parser.application depth (others ++ rest) = .ok (tree, rest) := by
    have hjoin : Level.application.StopsAt (next rest).token :=
      ⟨hstop.notOpen, hstop.notAssign, by
        intro home build h
        have hlt := hstop.looser h
        have hj := Level.isJoining_of_join h
        revert hlt hj
        cases home <;> decide⟩
    exact ih.read hothers hjoin
      (by simp only [List.length_cons, Level.rank] at hdepth ⊢; omega)
  show Parser.atom (depth + 1) (t :: (others ++ rest)) = _
  rw [Parser.atom, next, ht]
  dsimp only
  rw [List.tail_cons, hread]
  rfl

theorem complete_leaf {t : Token} (hleaf : leaf? t = some tree) :
    Complete [t] (.node .atom tree) := by
  refine complete_of_read rfl ?_
  intro ts rest depth hts hstop hdepth
  rcases List.map_eq_singleton_iff.mp hts with ⟨u, rfl, rfl⟩
  show Parser.atom (depth + 1) (u :: rest) = _
  rw [Parser.atom, next]
  cases hu : u.token with
  | keyword k =>
      rw [hu] at hleaf
      rcases Option.map_eq_some_iff.mp hleaf with ⟨value, hvalue, rfl⟩
      dsimp only
      rw [hvalue]
      rfl
  | symbol s =>
      rw [hu] at hleaf
      cases hleaf
  | marker =>
      rw [hu] at hleaf
      cases hleaf
  | finish =>
      rw [hu] at hleaf
      cases hleaf
  | _ =>
      rw [hu] at hleaf
      cases hleaf
      rfl

theorem complete_enclosed (hd : Derives toks (.node .clause tree))
    (ih : Complete toks (.node .clause tree)) :
    Complete (.symbol .openParen :: (toks ++ [.symbol .closeParen])) (.node .atom tree) := by
  refine complete_of_read rfl ?_
  intro ts rest depth hts hstop hdepth
  rcases List.map_eq_cons_iff.mp hts with ⟨t, others, rfl, ht, hothers⟩
  rcases exists_before hothers with ⟨middle, c, rfl, hmiddle, hc⟩
  have hclose : ¬ isSymbol .closeParen (middle ++ c :: rest) = true :=
    mt isSymbol_iff.mp (not_opens (opens_next hd hmiddle)).1
  have hafter : Level.clause.StopsAt (next (c :: rest)).token := by
    rw [next, hc]
    exact Level.stopsAt_of_mem _ (by decide)
  have hread : Parser.expression depth (middle ++ c :: rest) = .ok (tree, c :: rest) := by
    refine ih.read hmiddle hafter ?_
    simp only [List.length_cons, List.length_append, Level.rank] at hdepth ⊢
    omega
  show Parser.atom (depth + 1) (t :: (middle ++ [c] ++ rest)) = _
  rw [Parser.atom, next, ht]
  dsimp only
  rw [List.tail_cons, List.append_assoc, List.singleton_append, if_neg hclose, hread, ok_bind]
  dsimp only
  rw [if_pos (isSymbol_cons_iff.mpr hc)]
  rfl

theorem complete_emptyTuple :
    Complete [.symbol .openParen, .symbol .closeParen] (.node .atom (.tuple [])) := by
  refine complete_of_read rfl ?_
  intro ts rest depth hts hstop hdepth
  rcases List.map_eq_cons_iff.mp hts with ⟨t, others, rfl, ht, hothers⟩
  rcases List.map_eq_singleton_iff.mp hothers with ⟨c, rfl, hc⟩
  show Parser.atom (depth + 1) (t :: c :: rest) = _
  rw [Parser.atom, next, ht]
  dsimp only
  rw [List.tail_cons, if_pos (isSymbol_cons_iff.mpr hc)]
  rfl

theorem complete_tuple {first : Node} {others : List Node} {front back : List Token}
    (hd : Derives front (.node .clause first)) (ihfront : Complete front (.node .clause first))
    (ihback : Complete back (.items others)) :
    Complete (.symbol .openParen :: (front ++ .symbol .comma :: (back ++ [.symbol .closeParen])))
      (.node .atom (.tuple (first :: others))) := by
  refine complete_of_read rfl ?_
  intro ts rest depth hts hstop hdepth
  rcases List.map_eq_cons_iff.mp hts with ⟨t, inner, rfl, ht, hinner⟩
  rcases exists_around hinner with ⟨start, m, last, rfl, hstart, hm, hlast⟩
  rcases exists_before hlast with ⟨middle, c, rfl, hmiddle, hc⟩
  simp only [List.length_cons, List.length_append, Level.rank] at hdepth
  have hclose : ¬ isSymbol .closeParen (start ++ m :: (middle ++ c :: rest)) = true :=
    mt isSymbol_iff.mp (not_opens (opens_next hd hstart)).1
  have hcomma : ¬ isSymbol .closeParen (m :: (middle ++ c :: rest)) = true := by
    rw [isSymbol_cons_iff, hm]
    decide
  have hafter : Level.clause.StopsAt (next (m :: (middle ++ c :: rest))).token := by
    rw [next, hm]
    exact Level.stopsAt_of_mem _ (by decide)
  have hfirst : Parser.expression depth (start ++ m :: (middle ++ c :: rest)) =
      .ok (first, m :: (middle ++ c :: rest)) :=
    ihfront.read hstart hafter (by simp only [Level.rank]; omega)
  have hothers : Parser.items depth .closeParen (middle ++ c :: rest) = .ok (others, c :: rest) :=
    ihback hmiddle (by decide) hc (by omega)
  show Parser.atom (depth + 1) (t :: (start ++ m :: (middle ++ [c]) ++ rest)) = _
  rw [Parser.atom, next, ht]
  dsimp only
  rw [List.tail_cons, List.append_assoc, List.cons_append, List.append_assoc,
    List.singleton_append, if_neg hclose, hfirst, ok_bind]
  dsimp only
  rw [if_neg hcomma, expect_cons hm, ok_bind]
  dsimp only
  rw [hothers, ok_bind]
  dsimp only
  rw [expect_cons hc]
  rfl

theorem complete_vector {trees : List Node} (ih : Complete toks (.items trees)) :
    Complete (.symbol .openBracket :: (toks ++ [.symbol .closeBracket]))
      (.node .atom (.vector trees)) := by
  refine complete_of_read rfl ?_
  intro ts rest depth hts hstop hdepth
  rcases List.map_eq_cons_iff.mp hts with ⟨t, others, rfl, ht, hothers⟩
  rcases exists_before hothers with ⟨middle, c, rfl, hmiddle, hc⟩
  have htrees : Parser.items depth .closeBracket (middle ++ c :: rest) = .ok (trees, c :: rest) := by
    refine ih hmiddle (by decide) hc ?_
    simp only [List.length_cons, List.length_append, Level.rank] at hdepth
    omega
  show Parser.atom (depth + 1) (t :: (middle ++ [c] ++ rest)) = _
  rw [Parser.atom, next, ht]
  dsimp only
  rw [List.tail_cons, List.append_assoc, List.singleton_append, htrees, ok_bind]
  dsimp only
  rw [expect_cons hc]
  rfl

end Atoms

/-!
# Lists of items and of arguments
-/

section Lists

variable {tree : Node} {toks front back : List Token}

theorem not_isSymbol_append {s : Symbol} {ts rest : List Located}
    (hs : s ∈ closingBrackets) (hd : Derives toks (.node .clause tree))
    (hts : ts.map Located.token = toks) : ¬ isSymbol s (ts ++ rest) = true := by
  intro h
  rcases not_opens (opens_next hd hts) with ⟨hparen, hbracket, _, _⟩
  rw [isSymbol_iff.mp h] at hparen hbracket
  simp only [closingBrackets, List.mem_cons, List.not_mem_nil, or_false] at hs
  rcases hs with rfl | rfl
  · exact hparen rfl
  · exact hbracket rfl

theorem read_before_closer {s : Symbol} {ts rest : List Located} {depth : Nat}
    (ih : Complete toks (.node .clause tree)) (hts : ts.map Located.token = toks)
    (hs : Token.symbol s ∈ closers) (hnext : (next rest).token = .symbol s)
    (hdepth : 16 * toks.length + 12 <= depth) :
    Parser.expression depth (ts ++ rest) = .ok (tree, rest) := by
  refine ih.read hts ?_ hdepth
  rw [hnext]
  exact Level.stopsAt_of_mem _ hs

theorem not_comma_of_closingBracket {s : Symbol} {rest : List Located}
    (hs : s ∈ closingBrackets) (hnext : (next rest).token = .symbol s) :
    ¬ isSymbol .comma rest = true := by
  rw [isSymbol_iff, hnext]
  exact (closer_of_closingBracket hs).2

theorem complete_noItems : Complete [] (.items []) := by
  intro closer ts rest depth hts _ hnext hdepth
  rw [List.map_eq_nil_iff.mp hts]
  cases depth with
  | zero => omega
  | succ depth =>
      show Parser.items (depth + 1) closer rest = _
      rw [Parser.items, if_pos (isSymbol_iff.mpr hnext)]

theorem complete_lastItem (hd : Derives toks (.node .clause tree))
    (ih : Complete toks (.node .clause tree)) : Complete toks (.items [tree]) := by
  intro closer ts rest depth hts hcloser hnext hdepth
  cases depth with
  | zero => omega
  | succ depth =>
      have hread : Parser.expression depth (ts ++ rest) = .ok (tree, rest) :=
        read_before_closer ih hts (closer_of_closingBracket hcloser).1 hnext (by omega)
      rw [Parser.items, if_neg (not_isSymbol_append hcloser hd hts), hread, ok_bind]
      dsimp only
      rw [if_neg (not_comma_of_closingBracket hcloser hnext)]

theorem complete_moreItems {others : List Node} (hd : Derives front (.node .clause tree))
    (ihfront : Complete front (.node .clause tree)) (ihback : Complete back (.items others)) :
    Complete (front ++ .symbol .comma :: back) (.items (tree :: others)) := by
  intro closer ts rest depth hts hcloser hnext hdepth
  rcases exists_around hts with ⟨start, m, last, rfl, hstart, hm, hlast⟩
  rw [List.length_append, List.length_cons] at hdepth
  cases depth with
  | zero => omega
  | succ depth =>
      have hread : Parser.expression depth (start ++ m :: (last ++ rest)) =
          .ok (tree, m :: (last ++ rest)) :=
        read_before_closer ihfront hstart (by decide) hm (by omega)
      have hmore : Parser.items depth closer (last ++ rest) = .ok (others, rest) :=
        ihback hlast hcloser hnext (by omega)
      rw [List.append_assoc, List.cons_append, Parser.items,
        if_neg (not_isSymbol_append hcloser hd hstart), hread, ok_bind]
      dsimp only
      rw [if_pos (isSymbol_cons_iff.mpr hm), List.tail_cons, hmore]
      rfl

theorem complete_noNamed : Complete [] (.named []) := by
  intro ts rest depth hts hnext hdepth
  rw [List.map_eq_nil_iff.mp hts]
  cases depth with
  | zero => omega
  | succ depth =>
      show Parser.namedArguments (depth + 1) rest = _
      rw [Parser.namedArguments, if_pos (isSymbol_iff.mpr hnext)]

theorem namedArguments_cons {name : String} {t eq : Located} (ht : t.token = .identifier name)
    (heq : eq.token = .symbol .assign) (depth : Nat) (ts : List Located) :
    Parser.namedArguments (depth + 1) (t :: eq :: ts) =
      (Parser.expression depth ts >>= fun r =>
        if isSymbol .comma r.2 then
          Parser.namedArguments depth r.2.tail >>= fun more => .ok ((name, r.1) :: more.1, more.2)
        else .ok ([(name, r.1)], r.2)) := by
  have hclose : ¬ isSymbol .closeParen (t :: eq :: ts) = true := by
    rw [isSymbol_cons_iff, ht]
    intro h
    cases h
  have hassign : isSymbol .assign (eq :: ts) = true := isSymbol_cons_iff.mpr heq
  rw [Parser.namedArguments, if_neg hclose, next, ht, List.tail_cons, hassign]
  rfl

theorem complete_lastNamed {name : String} (ih : Complete toks (.node .clause tree)) :
    Complete (.identifier name :: .symbol .assign :: toks) (.named [(name, tree)]) := by
  intro ts rest depth hts hnext hdepth
  rcases List.map_eq_cons_iff.mp hts with ⟨t, others, rfl, ht, hothers⟩
  rcases List.map_eq_cons_iff.mp hothers with ⟨eq, value, rfl, heq, hvalue⟩
  rw [List.length_cons, List.length_cons] at hdepth
  cases depth with
  | zero => omega
  | succ depth =>
      have hread : Parser.expression depth (value ++ rest) = .ok (tree, rest) :=
        read_before_closer ih hvalue (by decide) hnext (by omega)
      rw [List.cons_append, List.cons_append, namedArguments_cons ht heq, hread, ok_bind]
      dsimp only
      rw [if_neg (not_comma_of_closingBracket (by decide) hnext)]

theorem complete_moreNamed {name : String} {kwargs : List (String × Node)}
    (ihfront : Complete front (.node .clause tree)) (ihback : Complete back (.named kwargs)) :
    Complete (.identifier name :: .symbol .assign :: (front ++ .symbol .comma :: back))
      (.named ((name, tree) :: kwargs)) := by
  intro ts rest depth hts hnext hdepth
  rcases List.map_eq_cons_iff.mp hts with ⟨t, others, rfl, ht, hothers⟩
  rcases List.map_eq_cons_iff.mp hothers with ⟨eq, value, rfl, heq, hvalue⟩
  rcases exists_around hvalue with ⟨start, m, last, rfl, hstart, hm, hlast⟩
  rw [List.length_cons, List.length_cons, List.length_append, List.length_cons] at hdepth
  cases depth with
  | zero => omega
  | succ depth =>
      have hread : Parser.expression depth (start ++ m :: (last ++ rest)) =
          .ok (tree, m :: (last ++ rest)) :=
        read_before_closer ihfront hstart (by decide) hm (by omega)
      have hmore : Parser.namedArguments depth (last ++ rest) = .ok (kwargs, rest) :=
        ihback hlast hnext (by omega)
      rw [List.cons_append, List.cons_append, List.append_assoc, List.cons_append,
        namedArguments_cons ht heq, hread, ok_bind]
      dsimp only
      rw [if_pos (isSymbol_cons_iff.mpr hm), List.tail_cons, hmore]
      rfl

theorem starts_of_named {phrase : Phrase} {kwargs : List (String × Node)}
    (hd : Derives toks phrase) (hphrase : phrase = .named kwargs) :
    (toks = [] ∧ kwargs = []) ∨
      exists name more, toks = .identifier name :: .symbol .assign :: more := by
  cases hd with
  | noNamed =>
      cases hphrase
      exact .inl ⟨rfl, rfl⟩
  | lastNamed _ => exact .inr ⟨_, _, rfl⟩
  | moreNamed _ _ => exact .inr ⟨_, _, rfl⟩
  | _ => cases hphrase

theorem complete_onlyNamed {kwargs : List (String × Node)} (hd : Derives toks (.named kwargs))
    (ih : Complete toks (.named kwargs)) : Complete toks (.arguments [] kwargs) := by
  intro ts rest depth hts hnext hdepth
  cases depth with
  | zero => omega
  | succ depth =>
      rcases starts_of_named hd rfl with ⟨rfl, rfl⟩ | ⟨name, more, rfl⟩
      · rw [List.map_eq_nil_iff.mp hts]
        show Parser.arguments (depth + 1) rest = _
        rw [Parser.arguments, if_pos (isSymbol_iff.mpr hnext)]
      · have hread : Parser.namedArguments depth (ts ++ rest) = .ok (kwargs, rest) :=
          ih hts hnext (by omega)
        rcases List.map_eq_cons_iff.mp hts with ⟨t, others, rfl, ht, hothers⟩
        rcases List.map_eq_cons_iff.mp hothers with ⟨eq, value, rfl, heq, hvalue⟩
        have hclose : ¬ isSymbol .closeParen (t :: eq :: (value ++ rest)) = true := by
          rw [isSymbol_cons_iff, ht]
          intro h
          cases h
        have hassign : isSymbol .assign (eq :: (value ++ rest)) = true :=
          isSymbol_cons_iff.mpr heq
        rw [List.cons_append, List.cons_append] at hread ⊢
        rw [Parser.arguments, if_neg hclose, next, ht, List.tail_cons, hassign]
        dsimp only
        rw [hread]
        rfl

theorem arguments_of_tree {ts rest : List Located} (hd : Derives toks (.node .clause tree))
    (hts : ts.map Located.token = toks) (hrest : (next rest).token ≠ .symbol .assign)
    (depth : Nat) :
    Parser.arguments (depth + 1) (ts ++ rest) =
      (Parser.expression depth (ts ++ rest) >>= fun r =>
        if isSymbol .comma r.2 then
          Parser.arguments depth r.2.tail >>= fun more => .ok ((r.1 :: more.1.1, more.1.2), more.2)
        else .ok (([r.1], []), r.2)) := by
  rw [Parser.arguments, if_neg (not_isSymbol_append (by decide) hd hts)]
  split
  · rename_i name hname hassign
    exfalso
    cases ts with
    | nil =>
        rw [← hts] at hd
        exact absurd (length_pos_of_derives hd) (Nat.lt_irrefl 0)
    | cons t others =>
        have ht : t.token = .identifier name := hname
        rw [← hts, List.map_cons, ht] at hd
        cases others with
        | nil => exact hrest (isSymbol_iff.mp hassign)
        | cons second more =>
            have hsecond : second.token = .symbol .assign := isSymbol_cons_iff.mp hassign
            rw [List.map_cons, hsecond] at hd
            exact unassigned_of_derives hd _ _ rfl rfl
  · rfl

theorem complete_lastArgument (hd : Derives toks (.node .clause tree))
    (ih : Complete toks (.node .clause tree)) : Complete toks (.arguments [tree] []) := by
  intro ts rest depth hts hnext hdepth
  cases depth with
  | zero => omega
  | succ depth =>
      have hread : Parser.expression depth (ts ++ rest) = .ok (tree, rest) :=
        read_before_closer ih hts (by decide) hnext (by omega)
      have hassign : (next rest).token ≠ .symbol .assign := by
        rw [hnext]
        decide
      rw [arguments_of_tree hd hts hassign, hread, ok_bind]
      dsimp only
      rw [if_neg (not_comma_of_closingBracket (by decide) hnext)]

theorem complete_moreArguments {args : List Node} {kwargs : List (String × Node)}
    (hd : Derives front (.node .clause tree)) (ihfront : Complete front (.node .clause tree))
    (ihback : Complete back (.arguments args kwargs)) :
    Complete (front ++ .symbol .comma :: back) (.arguments (tree :: args) kwargs) := by
  intro ts rest depth hts hnext hdepth
  rcases exists_around hts with ⟨start, m, last, rfl, hstart, hm, hlast⟩
  rw [List.length_append, List.length_cons] at hdepth
  cases depth with
  | zero => omega
  | succ depth =>
      have hread : Parser.expression depth (start ++ m :: (last ++ rest)) =
          .ok (tree, m :: (last ++ rest)) :=
        read_before_closer ihfront hstart (by decide) hm (by omega)
      have hmore : Parser.arguments depth (last ++ rest) = .ok ((args, kwargs), rest) :=
        ihback hlast hnext (by omega)
      have hassign : (next (m :: (last ++ rest))).token ≠ .symbol .assign := by
        rw [next, hm]
        decide
      rw [List.append_assoc, List.cons_append, arguments_of_tree hd hstart hassign, hread, ok_bind]
      dsimp only
      rw [if_pos (isSymbol_cons_iff.mpr hm), List.tail_cons, hmore]
      rfl

end Lists

/-!
# Completeness
-/

theorem complete_of_derives {toks : List Token} {phrase : Phrase} (h : Derives toks phrase) :
    Complete toks phrase := by
  induction h with
  | @tighter level inner tree toks hn hd ih =>
      cases hj : level.isJoining with
      | true => exact complete_tighter hj hn hd ih
      | false =>
          cases level with
          | negation =>
              cases hn
              exact complete_comparison hd ih
          | signed =>
              cases hn
              exact complete_power hd ih
          | application =>
              cases hn
              exact complete_atom hd ih
          | atom => cases hn
          | _ => cases hj
  | @joined level _ _ _ _ _ _ hsign _ _ ihfront ihback =>
      cases hc : level.isChain with
      | true => exact complete_joined_chain hc hsign ihfront ihback
      | false => exact complete_joined_single hc hsign ihfront ihback
  | inverted hsign _ ih => exact complete_inverted hsign ih
  | negativeInt _ ih => exact complete_minus ih
  | negativeFloat _ ih => exact complete_minus ih
  | negative hnumber _ ih =>
      rw [← negated_of_not_number hnumber]
      exact complete_minus ih
  | positive _ ih => exact complete_positive ih
  | call _ ih => exact complete_call ih
  | marked _ ih => exact complete_marked ih
  | leaf hleaf => exact complete_leaf hleaf
  | enclosed hd ih => exact complete_enclosed hd ih
  | emptyTuple => exact complete_emptyTuple
  | tuple hd _ ihfront ihback => exact complete_tuple hd ihfront ihback
  | vector _ ih => exact complete_vector ih
  | noItems => exact complete_noItems
  | lastItem hd ih => exact complete_lastItem hd ih
  | moreItems hd _ ihfront ihback => exact complete_moreItems hd ihfront ihback
  | onlyNamed hd ih => exact complete_onlyNamed hd ih
  | lastArgument hd ih => exact complete_lastArgument hd ih
  | moreArguments hd _ ihfront ihback => exact complete_moreArguments hd ihfront ihback
  | noNamed => exact complete_noNamed
  | lastNamed _ ih => exact complete_lastNamed ih
  | moreNamed _ _ ihfront ihback => exact complete_moreNamed ihfront ihback

end Grammar
end Wrangle
