import Mathlib.Data.List.Chain
import Wrangle.Proofs.Fragment.Completeness

/-!
# Markers and comparisons in fragments

Two things can be said of the tokens of a fragment without reading it.  A marker
stands before a token that an atom starts with, never before a sign.  And between
brackets, commas and the signs that bind more loosely than comparisons there is one
comparison at most, since comparisons take none on their left.
-/

namespace Wrangle
namespace Grammar

/-!
# Markers
-/

def Follows (front back : Token) : Prop :=
  front = .marker -> opensAtom back = true

instance (front back : Token) : Decidable (Follows front back) :=
  inferInstanceAs (Decidable (front = .marker -> opensAtom back = true))

/-- Every marker is before a token that an atom starts with, or at the end. -/
def MarkersApply (toks : List Token) : Prop :=
  toks.IsChain Follows

instance (toks : List Token) : Decidable (MarkersApply toks) :=
  inferInstanceAs (Decidable (toks.IsChain Follows))

/-- Every marker is before a token that an atom starts with. -/
structure IsSettled (toks : List Token) : Prop where
  apply : MarkersApply toks
  last : toks.getLast? ≠ some .marker

namespace MarkersApply

variable {front back toks : List Token} {t : Token}

theorem left (h : MarkersApply (front ++ back)) : MarkersApply front :=
  (List.isChain_append.1 h).1

theorem right (h : MarkersApply (front ++ back)) : MarkersApply back :=
  (List.isChain_append.1 h).2.1

theorem tail (h : MarkersApply (t :: toks)) : MarkersApply toks :=
  List.IsChain.tail h

theorem opens (h : MarkersApply (.marker :: t :: toks)) : opensAtom t = true :=
  (List.isChain_cons_cons.1 h).1 rfl

end MarkersApply

namespace IsSettled

variable {front back toks : List Token} {t : Token}

theorem nil : IsSettled [] where
  apply := List.isChain_nil
  last := by simp

theorem append (hfront : IsSettled front) (hback : IsSettled back) : IsSettled (front ++ back) where
  apply := by
    refine List.isChain_append.2 ⟨hfront.apply, hback.apply, ?_⟩
    intro x hx y _ hmarker
    rw [hmarker] at hx
    exact absurd hx hfront.last
  last := by
    rw [List.getLast?_append]
    cases hlast : back.getLast? with
    | none => exact hfront.last
    | some t =>
        have ht := hback.last
        rw [hlast] at ht
        exact ht

theorem single (ht : t ≠ .marker) : IsSettled [t] where
  apply := List.isChain_singleton t
  last := by simpa using ht

theorem cons (ht : t ≠ .marker) (h : IsSettled toks) : IsSettled (t :: toks) :=
  (single ht).append h

theorem marked (ht : opensAtom t = true) (h : IsSettled (t :: toks)) :
    IsSettled (.marker :: t :: toks) where
  apply := List.isChain_cons_cons.2 ⟨fun _ => ht, h.apply⟩
  last := by
    rw [List.getLast?_cons_cons]
    exact h.last

theorem symbol {s : Symbol} (h : IsSettled toks) : IsSettled (.symbol s :: toks) :=
  cons nofun h

theorem before {s : Symbol} (h : IsSettled toks) : IsSettled (toks ++ [.symbol s]) :=
  h.append (single nofun)

theorem between {s s' : Symbol} (h : IsSettled toks) :
    IsSettled (.symbol s :: (toks ++ [.symbol s'])) :=
  h.before.symbol

end IsSettled

theorem opensAtom_of_opens {level : Level} {t : Token} (hr : level.rank < Level.signed.rank)
    (h : opens level t) : opensAtom t = true := by
  rcases h with h | ⟨_, hrank⟩ | ⟨_, hrank⟩
  · exact h
  · exact absurd hrank (Nat.not_le.2 hr)
  · exact absurd (Nat.le_trans hrank (Nat.le_of_lt hr)) (by decide)

theorem settled_of_derives {toks : List Token} {phrase : Phrase} (h : Derives toks phrase) :
    IsSettled toks := by
  induction h with
  | tighter _ _ ih => exact ih
  | joined hsign _ _ ihfront ihback =>
      refine ihfront.append (ihback.cons ?_)
      rintro rfl
      cases hsign
  | inverted hsign _ ih =>
      refine ih.cons ?_
      rintro rfl
      revert hsign
      decide
  | negativeInt _ ih => exact ih.symbol
  | negativeFloat _ ih => exact ih.symbol
  | negative _ _ ih => exact ih.symbol
  | positive _ ih => exact ih.symbol
  | call _ ih => exact ih.between.cons nofun
  | marked hd ih =>
      rcases opened_of_derives hd with ⟨head, more, rfl, hopens⟩
      exact ih.marked (opensAtom_of_opens (by decide) hopens)
  | leaf hleaf =>
      refine .single ?_
      rintro rfl
      cases hleaf
  | enclosed _ ih => exact ih.between
  | emptyTuple => exact IsSettled.nil.between
  | tuple _ _ ihfront ihback => exact (ihfront.append ihback.before.symbol).symbol
  | vector _ ih => exact ih.between
  | noItems => exact .nil
  | lastItem _ ih => exact ih
  | moreItems _ _ ihfront ihback => exact ihfront.append ihback.symbol
  | onlyNamed _ ih => exact ih
  | lastArgument _ ih => exact ih
  | moreArguments _ _ ihfront ihback => exact ihfront.append ihback.symbol
  | noNamed => exact .nil
  | lastNamed _ ih => exact ih.symbol.cons nofun
  | moreNamed _ _ ihfront ihback => exact (ihfront.append ihback.symbol).symbol.cons nofun

/-!
# Comparisons

For every open bracket, and for the fragment itself, it is kept whether there was a
comparison since the last token that ends what comparisons are part of.
-/

def noteComparison : List Bool -> Token -> Option (List Bool)
  | [], _ => none
  | seen :: outer, .symbol .openParen => some (false :: seen :: outer)
  | seen :: outer, .symbol .openBracket => some (false :: seen :: outer)
  | _ :: outer, .symbol .closeParen => some outer
  | _ :: outer, .symbol .closeBracket => some outer
  | _ :: outer, .symbol .comma => some (false :: outer)
  | _ :: outer, .symbol .assign => some (false :: outer)
  | seen :: outer, t =>
      match (join? t).map Prod.fst with
      | some .comparison => if seen then none else some (true :: outer)
      | some .clause => some (false :: outer)
      | some .disjunction => some (false :: outer)
      | some .conjunction => some (false :: outer)
      | _ => some (seen :: outer)

def noteAll (kept : List Bool) (toks : List Token) : Option (List Bool) :=
  toks.foldlM noteComparison kept

theorem noteAll_cons (kept : List Bool) (t : Token) (toks : List Token) :
    noteAll kept (t :: toks) = (noteComparison kept t).bind fun next => noteAll next toks :=
  List.foldlM_cons

theorem noteAll_append (kept : List Bool) (front back : List Token) :
    noteAll kept (front ++ back) = (noteAll kept front).bind fun next => noteAll next back :=
  List.foldlM_append

theorem noteComparison_of_join {sign : Token} {level : Level} {build : Node -> Node -> Node}
    (h : join? sign = some (level, build)) (seen : Bool) (outer : List Bool) :
    noteComparison (seen :: outer) sign =
      if level = .comparison then if seen then none else some (true :: outer)
      else if Level.comparison.rank < level.rank then some (false :: outer)
      else some (seen :: outer) := by
  cases sign with
  | symbol s => cases s <;> cases h <;> rfl
  | keyword k => cases k <;> cases h <;> rfl
  | _ => cases h

theorem noteComparison_of_leaf {t : Token} {tree : Node} (h : leaf? t = some tree) (seen : Bool)
    (outer : List Bool) : noteComparison (seen :: outer) t = some (seen :: outer) := by
  cases t with
  | symbol s => cases h
  | keyword k => cases k <;> first | rfl | cases h
  | marker => cases h
  | finish => cases h
  | _ => rfl

theorem noteComparison_of_not {t : Token} (h : t ∈ notSigns) (seen : Bool) (outer : List Bool) :
    noteComparison (seen :: outer) t = some (seen :: outer) := by
  simp only [notSigns, List.mem_cons, List.not_mem_nil, or_false] at h
  rcases h with rfl | rfl
  · rfl
  · rfl

/-- A phrase leaves what is kept for the brackets around it.  What binds more tightly than
comparisons is part of one comparison. -/
def IsSpaced (toks : List Token) : Phrase -> Prop
  | .node level _ => forall seen outer, level.rank < Level.comparison.rank ∨ seen = false ->
      exists after, noteAll (seen :: outer) toks = some (after :: outer) ∧
        (level.rank < Level.comparison.rank -> after = seen)
  | _ => forall outer, exists after, noteAll (false :: outer) toks = some (after :: outer)

theorem IsSpaced.node {toks : List Token} {tree : Node}
    (h : IsSpaced toks (.node .clause tree)) (outer : List Bool) :
    exists after, noteAll (false :: outer) toks = some (after :: outer) := by
  rcases h false outer (.inr rfl) with ⟨after, hafter, _⟩
  exact ⟨after, hafter⟩

theorem noteAll_between {first last : Token} {toks : List Token} {seen : Bool} {outer : List Bool}
    (hfirst : first = .symbol .openParen ∨ first = .symbol .openBracket)
    (hlast : last = .symbol .closeParen ∨ last = .symbol .closeBracket)
    (h : exists after, noteAll (false :: seen :: outer) toks = some (after :: seen :: outer)) :
    noteAll (seen :: outer) (first :: (toks ++ [last])) = some (seen :: outer) := by
  rcases h with ⟨after, hafter⟩
  have hopen : noteComparison (seen :: outer) first = some (false :: seen :: outer) := by
    rcases hfirst with rfl | rfl
    · rfl
    · rfl
  have hclose : noteAll (after :: seen :: outer) [last] = some (seen :: outer) := by
    rcases hlast with rfl | rfl
    · rfl
    · rfl
  rw [noteAll_cons, hopen, Option.bind_some, noteAll_append, hafter, Option.bind_some, hclose]

theorem noteAll_comma {front back : List Token} {outer : List Bool}
    (hfront : exists after, noteAll (false :: outer) front = some (after :: outer))
    (hback : exists after, noteAll (false :: outer) back = some (after :: outer)) :
    exists after, noteAll (false :: outer) (front ++ .symbol .comma :: back) =
      some (after :: outer) := by
  rcases hfront with ⟨after, hafter⟩
  rw [noteAll_append, hafter, Option.bind_some, noteAll_cons]
  exact hback

theorem Level.rank_operands_lt {level : Level} (hj : level.isJoining = true)
    (h : level.rank <= Level.comparison.rank) :
    level.left.rank < Level.comparison.rank ∧ level.right.rank < Level.comparison.rank := by
  revert hj h
  cases level <;> decide

theorem spaced_joined {level : Level} {sign : Token} {build : Node -> Node -> Node} {a b tree : Node}
    {front back : List Token} (hsign : join? sign = some (level, build))
    (hfront : IsSpaced front (.node level.left a)) (hback : IsSpaced back (.node level.right b)) :
    IsSpaced (front ++ sign :: back) (.node level tree) := by
  intro seen outer hseen
  rw [noteAll_append]
  by_cases hloose : Level.comparison.rank < level.rank
  · have hfalse : seen = false := hseen.resolve_left (by omega)
    rcases hfront seen outer (.inr hfalse) with ⟨middle, hmiddle, _⟩
    rcases hback false outer (.inr rfl) with ⟨after, hafter, _⟩
    have hne : level ≠ .comparison := by
      rintro rfl
      exact absurd hloose (by decide)
    rw [hmiddle, Option.bind_some, noteAll_cons, noteComparison_of_join hsign, if_neg hne,
      if_pos hloose, Option.bind_some]
    exact ⟨after, hafter, fun h => absurd h (by omega)⟩
  · rcases Level.rank_operands_lt (Level.isJoining_of_join hsign) (by omega) with ⟨hleft, hright⟩
    rcases hfront seen outer (.inl hleft) with ⟨_, hmiddle, hsame⟩
    rw [hmiddle, hsame hleft, Option.bind_some, noteAll_cons, noteComparison_of_join hsign]
    by_cases hcomparison : level = .comparison
    · subst hcomparison
      have hfalse : seen = false := hseen.resolve_left (by decide)
      rcases hback true outer (.inl hright) with ⟨after, hafter, _⟩
      rw [if_pos rfl, hfalse]
      exact ⟨after, hafter, fun h => absurd h (by decide)⟩
    · rcases hback seen outer (.inl hright) with ⟨after, hafter, hkept⟩
      rw [if_neg hcomparison, if_neg hloose]
      exact ⟨after, hafter, fun _ => hkept hright⟩

theorem spaced_before {level : Level} {t : Token} {toks : List Token} {tree whole : Node}
    (ht : forall seen outer, noteComparison (seen :: outer) t = some (seen :: outer))
    (h : IsSpaced toks (.node level tree)) : IsSpaced (t :: toks) (.node level whole) := by
  intro seen outer hseen
  rw [noteAll_cons, ht, Option.bind_some]
  exact h seen outer hseen

theorem spaced_of_kept {level : Level} {toks : List Token} {tree : Node}
    (h : forall seen outer, noteAll (seen :: outer) toks = some (seen :: outer)) :
    IsSpaced toks (.node level tree) :=
  fun seen outer _ => ⟨seen, h seen outer, fun _ => rfl⟩

theorem spaced_of_derives {toks : List Token} {phrase : Phrase} (h : Derives toks phrase) :
    IsSpaced toks phrase := by
  induction h with
  | @tighter level inner tree toks hn _ ih =>
      have hrank := Level.rank_of_next? hn
      intro seen outer hseen
      rcases ih seen outer (hseen.imp (fun h => by omega) id) with ⟨after, hafter, hsame⟩
      exact ⟨after, hafter, fun h => hsame (by omega)⟩
  | joined hsign _ _ ihfront ihback => exact spaced_joined hsign ihfront ihback
  | inverted hsign _ ih => exact spaced_before (noteComparison_of_not hsign) ih
  | negativeInt _ ih => exact spaced_before (fun _ _ => rfl) ih
  | negativeFloat _ ih => exact spaced_before (fun _ _ => rfl) ih
  | negative _ _ ih => exact spaced_before (fun _ _ => rfl) ih
  | positive _ ih => exact spaced_before (fun _ _ => rfl) ih
  | call _ ih =>
      exact spaced_of_kept fun seen outer =>
        noteAll_between (.inl rfl) (.inl rfl) (ih (seen :: outer))
  | marked _ ih =>
      intro seen outer _
      rcases ih seen outer (.inl (by decide)) with ⟨after, hafter, hsame⟩
      exact ⟨after, hafter, fun _ => hsame (by decide)⟩
  | leaf hleaf =>
      exact spaced_of_kept fun seen outer => by
        rw [noteAll_cons, noteComparison_of_leaf hleaf]
        rfl
  | enclosed _ ih =>
      exact spaced_of_kept fun seen outer =>
        noteAll_between (.inl rfl) (.inl rfl) (ih.node (seen :: outer))
  | emptyTuple => exact spaced_of_kept fun _ _ => rfl
  | @tuple first others front back _ _ ihfront ihback =>
      exact spaced_of_kept fun seen outer => by
        have hitems := noteAll_between (.inl rfl) (.inl rfl)
          (noteAll_comma (ihfront.node (seen :: outer)) (ihback (seen :: outer)))
        rw [List.append_assoc, List.cons_append] at hitems
        exact hitems
  | vector _ ih =>
      exact spaced_of_kept fun seen outer =>
        noteAll_between (.inr rfl) (.inr rfl) (ih (seen :: outer))
  | noItems => exact fun outer => ⟨false, rfl⟩
  | lastItem _ ih => exact fun outer => ih.node outer
  | moreItems _ _ ihfront ihback =>
      exact fun outer => noteAll_comma (ihfront.node outer) (ihback outer)
  | onlyNamed _ ih => exact ih
  | lastArgument _ ih => exact fun outer => ih.node outer
  | moreArguments _ _ ihfront ihback =>
      exact fun outer => noteAll_comma (ihfront.node outer) (ihback outer)
  | noNamed => exact fun outer => ⟨false, rfl⟩
  | lastNamed _ ih => exact fun outer => ih.node outer
  | moreNamed _ _ ihfront ihback =>
      exact fun outer => noteAll_comma (ihfront.node outer) (ihback outer)

/-!
# Fragments
-/

theorem scanned_of_fragment {allowAssignment : Bool} {toks : List Token} {tree : Node}
    (h : DerivesFragment allowAssignment toks tree) :
    MarkersApply toks ∧ noteAll [false] toks ≠ none := by
  have hscan : forall {body : List Token} {value : Node}, Derives body (.node .clause value) ->
      IsSettled (body ++ [.finish]) ∧ noteAll [false] (body ++ [.finish]) ≠ none := by
    intro body value hd
    refine ⟨(settled_of_derives hd).append (.single nofun), ?_⟩
    rcases (spaced_of_derives hd).node [] with ⟨after, hafter⟩
    rw [noteAll_append, hafter]
    exact Option.some_ne_none _
  cases h with
  | expression hd => exact ⟨(hscan hd).1.apply, (hscan hd).2⟩
  | @assignment t name value body _ htarget hd =>
      rcases hscan hd with ⟨hsettled, hscanned⟩
      have hfirst : t ≠ .marker ∧ noteComparison [false] t = some [false] := by
        cases t with
        | identifier name => exact ⟨nofun, rfl⟩
        | quotedName name => exact ⟨nofun, rfl⟩
        | text s => exact ⟨nofun, rfl⟩
        | _ => cases htarget
      refine ⟨(hsettled.symbol.cons hfirst.1).apply, ?_⟩
      rw [noteAll_cons, hfirst.2]
      exact hscanned

end Grammar
end Wrangle
