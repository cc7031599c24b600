import Wrangle.Proofs.Fragment.Decimals
import Wrangle.Proofs.Fragment.RoundTrip
import Wrangle.Proofs.Fragment.Stretches

/-!
# Canonical text as tokens

Canonical text is read as some tokens, whether or not they are those of a fragment.
Bangs at the front of a text may run into those before it: two of them are a marker.
So the bangs that a text starts with are kept apart from the tokens after them, which
can be said to be read as a tree at the level of the text, if all their markers apply
and no comparison has another one on its left.
-/

namespace Wrangle
namespace Grammar

open Node Text

/-!
# Comparisons of comparisons
-/

def isChained : Node -> Bool
  | .call head [left, _] _ true => comparisonSymbols.contains head && isComparison left
  | _ => false

/-- Some comparison in a tree has a comparison on its left. -/
def hasChain (tree : Node) : Bool :=
  tree.walk.any isChained

def anyHasChain (trees : List Node) : Bool :=
  (walkAll trees).any isChained

def anyNamedHasChain (kwargs : List (String × Node)) : Bool :=
  (walkNamed kwargs).any isChained

theorem anyHasChain_cons (tree : Node) (others : List Node) :
    anyHasChain (tree :: others) = (hasChain tree || anyHasChain others) := by
  rw [anyHasChain, walkAll, List.any_append]
  rfl

theorem anyNamedHasChain_cons (name : String) (tree : Node) (others : List (String × Node)) :
    anyNamedHasChain ((name, tree) :: others) = (hasChain tree || anyNamedHasChain others) := by
  rw [anyNamedHasChain, walkNamed, List.any_append]
  rfl

theorem hasChain_call (head : String) (args : List Node) (kwargs : List (String × Node)) :
    hasChain (.call head args kwargs false) = (anyHasChain args || anyNamedHasChain kwargs) := by
  have hcall : isChained (.call head args kwargs false) = false := by
    unfold isChained
    split <;> simp_all
  rw [hasChain, walk, List.any_cons, hcall, Bool.false_or, List.any_append]
  rfl

theorem hasChain_unary (op : String) (tree : Node) :
    hasChain (.unary op tree) = hasChain tree := by
  simp [hasChain, Node.unary, walk, walkAll, walkNamed, isChained]

theorem hasChain_binary (op : String) (a b : Node) :
    hasChain (.binary op a b) =
      (comparisonSymbols.contains op && isComparison a || (hasChain a || hasChain b)) := by
  simp [hasChain, Node.binary, walk, walkAll, walkNamed, isChained]

theorem hasChain_pair (a b : Node) : hasChain (.pair a b) = (hasChain a || hasChain b) := by
  simp [hasChain, walk, isChained]

theorem hasChain_range (a b : Node) : hasChain (.range a b) = (hasChain a || hasChain b) := by
  simp [hasChain, walk, isChained]

/-!
# Bangs
-/

def bangTokens : Nat -> List Token
  | 0 => []
  | 1 => [.symbol .bang]
  | n + 2 => .marker :: bangTokens n

def Spells (text : String) (bangs : Nat) (toks : List Token) : Prop :=
  exists rest, text = String.ofList (List.replicate bangs '!') ++ rest ∧ Lexes rest toks ∧
    Starts rest ∧ rest.toList.head? ≠ some '!'

theorem spells_of_lexes {text : String} {toks : List Token} (h : Lexes text toks)
    (hstarts : Starts text) (hbang : text.toList.head? ≠ some '!') : Spells text 0 toks :=
  ⟨text, (String.empty_append).symm, h, hstarts, hbang⟩

namespace Spells

variable {text sep back : String} {bangs : Nat} {toks more : List Token} {sign : Token}

theorem bang (h : Spells text bangs toks) : Spells ("!" ++ text) (bangs + 1) toks := by
  rcases h with ⟨rest, rfl, hrest⟩
  refine ⟨rest, ?_, hrest⟩
  rw [← String.toList_inj]
  simp [String.toList_append, List.replicate_succ]

theorem join (h : Spells text bangs toks) (hsep : Separates sep sign) (hback : Lexes back more) :
    Spells (text ++ sep ++ back) bangs (toks ++ sign :: more) := by
  rcases h with ⟨rest, rfl, hlexes, hstarts, hbang⟩
  refine ⟨rest ++ sep ++ back, ?_, hlexes.around hsep hback,
    starts_append (starts_append hstarts _) _, ?_⟩
  · simp only [String.append_assoc]
  · rcases hstarts with ⟨c, cs, hcs, _⟩
    rw [hcs] at hbang
    rw [String.toList_append, String.toList_append, hcs]
    exact hbang

theorem starts (h : Spells text bangs toks) : Starts text := by
  rcases h with ⟨rest, rfl, _, hstarts, _⟩
  cases bangs with
  | zero => rwa [List.replicate_zero, String.ofList_nil, String.empty_append]
  | succ n =>
      refine starts_append ⟨'!', List.replicate n '!', ?_, by decide, by decide⟩ _
      rw [String.toList_ofList, List.replicate_succ]

theorem lexes (h : Spells text bangs toks) : Lexes text (bangTokens bangs ++ toks) := by
  rcases h with ⟨rest, rfl, hlexes, ⟨c, cs, hcs, hassign, _⟩, hbang⟩
  rw [hcs, List.head?_cons, Ne, Option.some.injEq] at hbang
  intro after hafter
  rw [String.toList_append, String.toList_ofList, List.append_assoc]
  have hrest := hlexes after hafter
  induction bangs using bangTokens.induct with
  | case1 => exact hrest
  | case2 =>
      rw [hcs] at hrest ⊢
      show lexed ('!' :: c :: (cs ++ after)) = _
      rw [lexed_bang hbang hassign, ← List.cons_append, hrest, Option.map_map]
      rfl
  | case3 n ih =>
      show lexed ('!' :: '!' :: (List.replicate n '!' ++ (rest.toList ++ after))) = _
      rw [lexed_marker, ih, Option.map_map]
      rfl

end Spells

/-!
# Tokens that are read at a level
-/

def IsReadAt (level : Level) (toks : List Token) : Prop :=
  exists tree, Derives toks (.node level tree)

namespace IsReadAt

variable {level inner : Level} {front back toks : List Token} {sign : Token}
  {build : Node -> Node -> Node}

theorem loosen (h : IsReadAt inner toks) (hr : inner.rank <= level.rank) : IsReadAt level toks :=
  h.imp fun _ hd => derives_of_rank_le hd hr

theorem joined (hsign : join? sign = some (level, build)) (hfront : IsReadAt level.left front)
    (hback : IsReadAt level.right back) : IsReadAt level (front ++ sign :: back) := by
  rcases hfront with ⟨a, ha⟩
  rcases hback with ⟨b, hb⟩
  exact ⟨_, .joined hsign ha hb⟩

theorem minus (h : IsReadAt .signed toks) : IsReadAt .signed (.symbol .minus :: toks) := by
  rcases h with ⟨tree, hd⟩
  cases hnumber : isNumber tree with
  | false => exact ⟨_, .negative hnumber hd⟩
  | true =>
      unfold isNumber at hnumber
      split at hnumber
      · exact ⟨_, .negativeInt hd⟩
      · exact ⟨_, .negativeFloat hd⟩
      · cases hnumber

theorem enclosed (h : IsReadAt .clause toks) :
    IsReadAt .atom (.symbol .openParen :: (toks ++ [.symbol .closeParen])) :=
  h.elim fun _ hd => ⟨_, .enclosed hd⟩

theorem bang (h : IsReadAt level toks) (hr : Level.negation.rank <= level.rank) :
    IsReadAt level (.symbol .bang :: toks) := by
  rcases h with ⟨tree, hd⟩
  have hsign : Token.symbol .bang ∈ notSigns := List.mem_cons_self
  generalize hphrase : Phrase.node level tree = phrase at hd
  induction hd generalizing level tree with
  | @tighter outer inner _ _ hn hd ih =>
      cases hphrase
      by_cases hinner : Level.negation.rank <= inner.rank
      · have hrank := Level.rank_of_next? hn
        exact (ih hinner _ rfl).loosen (by omega)
      · have hrank := Level.rank_of_next? hn
        have hnegation : IsReadAt .negation _ := ⟨_, derives_of_rank_le hd (by omega)⟩
        rcases hnegation with ⟨operand, hoperand⟩
        exact IsReadAt.loosen ⟨_, .inverted hsign hoperand⟩ hr
  | @joined home sign build a b front back hjoin hfront hback ih _ =>
      cases hphrase
      have hleft : Level.negation.rank <= home.left.rank := by
        have hjoining := Level.isJoining_of_join hjoin
        revert hr hjoining
        cases home <;> decide
      exact IsReadAt.joined hjoin (ih hleft _ rfl) ⟨_, hback⟩
  | inverted hnot hd _ =>
      cases hphrase
      exact ⟨_, .inverted hsign (.inverted hnot hd)⟩
  | _ => first | (cases hphrase; exact absurd hr (by decide)) | cases hphrase

theorem marker (h : IsReadAt level toks) (hopens : forall t, toks.head? = some t -> opensAtom t = true)
    (hr : Level.atom.rank <= level.rank) : IsReadAt level (.marker :: toks) := by
  rcases h with ⟨tree, hd⟩
  generalize hphrase : Phrase.node level tree = phrase at hd
  have hmarked : forall {inner : Level} {ts : List Token} {value : Node},
      Derives ts (.node inner value) -> inner.rank <= Level.application.rank ->
      IsReadAt .atom (.marker :: ts) :=
    fun hd hinner => ⟨_, .marked (derives_of_rank_le hd hinner)⟩
  induction hd generalizing level tree with
  | @tighter outer inner _ _ hn hd ih =>
      cases hphrase
      have hrank := Level.rank_of_next? hn
      exact (ih hopens inner.rank_pos _ rfl).loosen (by omega)
  | @joined home sign build a b front back hjoin hfront hback ih _ =>
      cases hphrase
      rcases opened_of_derives hfront with ⟨head, others, rfl, _⟩
      exact IsReadAt.joined hjoin (ih hopens home.left.rank_pos _ rfl) ⟨_, hback⟩
  | inverted hnot _ _ =>
      cases hphrase
      have hatom := hopens _ rfl
      simp only [notSigns, List.mem_cons, List.not_mem_nil, or_false] at hnot
      rcases hnot with rfl | rfl
      · cases hatom
      · cases hatom
  | negativeInt _ _ => cases hopens _ rfl
  | negativeFloat _ _ => cases hopens _ rfl
  | negative _ _ _ => cases hopens _ rfl
  | positive _ _ => cases hopens _ rfl
  | call hd _ =>
      cases hphrase
      exact (hmarked (.call hd) (Nat.le_refl _)).loosen (by decide)
  | marked hd _ =>
      cases hphrase
      exact hmarked (.marked hd) (by decide)
  | leaf hleaf =>
      cases hphrase
      exact hmarked (.leaf hleaf) (by decide)
  | enclosed hd _ =>
      cases hphrase
      exact hmarked (.enclosed hd) (by decide)
  | emptyTuple =>
      cases hphrase
      exact hmarked .emptyTuple (by decide)
  | tuple hfront hback _ _ =>
      cases hphrase
      exact hmarked (.tuple hfront hback) (by decide)
  | vector hd _ =>
      cases hphrase
      exact hmarked (.vector hd) (by decide)
  | _ => cases hphrase

theorem bangs (h : IsReadAt level toks) (n : Nat)
    (hr : n % 2 = 1 -> Level.negation.rank <= level.rank)
    (hmarkers : MarkersApply (bangTokens n ++ toks)) : IsReadAt level (bangTokens n ++ toks) := by
  induction n using bangTokens.induct with
  | case1 => exact h
  | case2 => exact h.bang (hr rfl)
  | case3 n ih =>
      have hinner := ih (fun hodd => hr (by omega)) hmarkers.tail
      refine hinner.marker ?_ level.rank_pos
      intro t ht
      rcases List.head?_eq_some_iff.1 ht with ⟨others, hothers⟩
      have happly : MarkersApply (.marker :: (bangTokens n ++ toks)) := hmarkers
      rw [hothers] at happly
      exact happly.opens

end IsReadAt

/-!
# Comparisons in canonical text

The tokens of a canonical text keep what is kept for the brackets around them, as
those of a fragment do, or they leave nothing.  They leave nothing where a comparison
is written after another one.
-/

/-!
# Scanning
-/

/-- Some tokens leave nothing of what is kept, or all that is kept for the brackets around them;
they leave nothing where comparisons follow each other. -/
structure Scans (tight : Prop) (chained : Bool) (toks : List Token) : Prop where
  keeps : forall seen outer, noteAll (seen :: outer) toks = none ∨
    exists after, noteAll (seen :: outer) toks = some (after :: outer) ∧ (tight -> after = seen)
  fails : chained = true -> forall kept, noteAll kept toks = none

/-- Some tokens have a comparison that is not part of anything else. -/
def Compares (toks : List Token) : Prop :=
  forall kept, noteAll kept toks = none ∨ exists outer, noteAll kept toks = some (true :: outer)

theorem noteAll_none_of_front {front : List Token} (h : forall kept, noteAll kept front = none)
    (back : List Token) (kept : List Bool) : noteAll kept (front ++ back) = none := by
  rw [noteAll_append, h]
  rfl

theorem noteAll_none_of_back {back : List Token} (h : forall kept, noteAll kept back = none)
    (front : List Token) (kept : List Bool) : noteAll kept (front ++ back) = none := by
  rw [noteAll_append]
  cases noteAll kept front with
  | none => rfl
  | some next => exact h next

theorem noteAll_nil_of_ne {toks : List Token} (h : toks ≠ []) : noteAll [] toks = none := by
  cases toks with
  | nil => exact absurd rfl h
  | cons t toks => rfl

namespace Scans

variable {tight loose : Prop} {chained more : Bool} {front back toks : List Token} {t : Token}

theorem imp (h : Scans tight chained toks) (hloose : loose -> tight) : Scans loose chained toks where
  keeps := fun seen outer => (h.keeps seen outer).imp id fun ⟨after, hafter, hsame⟩ =>
    ⟨after, hafter, fun hl => hsame (hloose hl)⟩
  fails := h.fails

theorem of_none (h : forall kept, noteAll kept toks = none) : Scans tight chained toks where
  keeps := fun seen outer => .inl (h (seen :: outer))
  fails := fun _ => h

theorem of_derives {level : Level} {tree : Node} (hd : Derives toks (.node level tree))
    (hr : level.rank < Level.comparison.rank) : Scans tight false toks where
  keeps := fun seen outer => .inr <|
    (spaced_of_derives hd seen outer (.inl hr)).imp fun _ h => ⟨h.1, fun _ => h.2 hr⟩
  fails := nofun

theorem cons (ht : forall seen outer, noteComparison (seen :: outer) t = some (seen :: outer))
    (h : Scans tight chained toks) : Scans tight chained (t :: toks) where
  keeps := by
    intro seen outer
    rw [noteAll_cons, ht]
    exact h.keeps seen outer
  fails := fun hc => noteAll_none_of_back (h.fails hc) [t]

theorem nil : Scans tight false [] where
  keeps := fun seen _ => .inr ⟨seen, rfl, fun _ => rfl⟩
  fails := nofun

theorem bangs (h : Scans tight chained toks) (n : Nat) :
    Scans tight chained (bangTokens n ++ toks) := by
  induction n using bangTokens.induct with
  | case1 => exact h
  | case2 => exact h.cons fun _ _ => rfl
  | case3 n ih => exact ih.cons fun _ _ => rfl

theorem split (ht : forall seen outer, noteComparison (seen :: outer) t = some (false :: outer))
    (hfront : Scans tight chained front) (hback : Scans loose more back) :
    Scans False (chained || more) (front ++ t :: back) where
  keeps := by
    intro seen outer
    rw [noteAll_append]
    rcases hfront.keeps seen outer with hnone | ⟨middle, hmiddle, _⟩
    · rw [hnone]
      exact .inl rfl
    · rw [hmiddle, Option.bind_some, noteAll_cons, ht, Option.bind_some]
      exact (hback.keeps false outer).imp id fun ⟨after, hafter, _⟩ => ⟨after, hafter, False.elim⟩
  fails := by
    intro hc
    rcases Bool.or_eq_true_iff.1 hc with hc | hc
    · exact noteAll_none_of_front (hfront.fails hc) _
    · exact noteAll_none_of_back (fun kept => noteAll_none_of_back (hback.fails hc) [t] kept) front

theorem between {first last : Token} (h : Scans tight chained toks)
    (hfirst : first = .symbol .openParen ∨ first = .symbol .openBracket)
    (hlast : last = .symbol .closeParen ∨ last = .symbol .closeBracket) :
    Scans loose chained (first :: (toks ++ [last])) where
  keeps := by
    intro seen outer
    rcases h.keeps false (seen :: outer) with hnone | ⟨after, hafter, _⟩
    · left
      have hopen : noteComparison (seen :: outer) first = some (false :: seen :: outer) := by
        rcases hfirst with rfl | rfl
        · rfl
        · rfl
      rw [noteAll_cons, hopen, Option.bind_some, noteAll_append, hnone]
      rfl
    · exact .inr ⟨seen, noteAll_between hfirst hlast ⟨after, hafter⟩, fun _ => rfl⟩
  fails := fun hc =>
    noteAll_none_of_back (fun kept => noteAll_none_of_front (h.fails hc) [last] kept) [first]

section Joined

variable {level : Level} {sign : Token} {build : Node -> Node -> Node}
  (hsign : join? sign = some (level, build))
  (hfront : Scans (level.left.rank < Level.comparison.rank) chained front)
  (hback : Scans (level.right.rank < Level.comparison.rank) more back)

include hsign hfront hback

theorem joined : Scans (level.rank < Level.comparison.rank) (chained || more)
    (front ++ sign :: back) := by
  by_cases hloose : Level.comparison.rank < level.rank
  · have hne : level ≠ .comparison := by
      rintro rfl
      exact absurd hloose (by decide)
    have hends : forall seen outer,
        noteComparison (seen :: outer) sign = some (false :: outer) := by
      intro seen outer
      rw [noteComparison_of_join hsign, if_neg hne, if_pos hloose]
    exact (split hends hfront hback).imp fun h => absurd h (by omega)
  · rcases Level.rank_operands_lt (Level.isJoining_of_join hsign) (by omega) with ⟨hleft, hright⟩
    constructor
    · intro seen outer
      rw [noteAll_append]
      rcases hfront.keeps seen outer with hnone | ⟨middle, hmiddle, hsame⟩
      · rw [hnone]
        exact .inl rfl
      · rw [hmiddle, hsame hleft, Option.bind_some, noteAll_cons, noteComparison_of_join hsign]
        by_cases hcomparison : level = .comparison
        · rw [if_pos hcomparison]
          cases seen with
          | true => exact .inl rfl
          | false =>
              refine (hback.keeps true outer).imp id fun ⟨after, hafter, _⟩ =>
                ⟨after, hafter, fun h => ?_⟩
              rw [hcomparison] at h
              exact absurd h (by decide)
        · rw [if_neg hcomparison, if_neg hloose]
          exact (hback.keeps seen outer).imp id fun ⟨after, hafter, hkept⟩ =>
            ⟨after, hafter, fun _ => hkept hright⟩
    · intro hc kept
      rcases Bool.or_eq_true_iff.1 hc with hc | hc
      · exact noteAll_none_of_front (hfront.fails hc) _ kept
      · exact noteAll_none_of_back (fun next => noteAll_none_of_back (hback.fails hc) [sign] next)
          front kept

theorem compares (hlevel : level = .comparison) : Compares (front ++ sign :: back) := by
  subst hlevel
  intro kept
  cases kept with
  | nil => exact .inl (noteAll_nil_of_ne (by simp))
  | cons seen outer =>
      rw [noteAll_append]
      rcases hfront.keeps seen outer with hnone | ⟨middle, hmiddle, hsame⟩
      · rw [hnone]
        exact .inl rfl
      · rw [hmiddle, hsame (by decide), Option.bind_some, noteAll_cons,
          noteComparison_of_join hsign, if_pos rfl]
        cases seen with
        | true => exact .inl rfl
        | false =>
            rcases hback.keeps true outer with hnone | ⟨after, hafter, hkept⟩
            · exact .inl hnone
            · rw [hkept (by decide)] at hafter
              exact .inr ⟨outer, hafter⟩

end Joined

end Scans

theorem Compares.chained {front : List Token} {sign : Token} {build : Node -> Node -> Node}
    (h : Compares front) (hsign : join? sign = some (.comparison, build)) (back : List Token)
    (kept : List Bool) : noteAll kept (front ++ sign :: back) = none := by
  rw [noteAll_append]
  rcases h kept with hnone | ⟨outer, houter⟩
  · rw [hnone]
    rfl
  · rw [houter, Option.bind_some, noteAll_cons, noteComparison_of_join hsign]
    rfl

end Grammar
end Wrangle
