import Wrangle.Proofs.Fragment.Completeness
import Wrangle.Proofs.Fragment.Soundness

/-!
# Recognition of fragments

The parser accepts the tokens of a text just when the grammar derives them, and
returns the only tree that it derives.
-/

namespace Wrangle
namespace Grammar

open Wrangle.Parser Text Number

/-!
# The end of a fragment
-/

def EndsOnce (ts : List Located) : Prop :=
  exists body last, ts = body ++ [last] ∧ last.token = .finish ∧
    Token.finish ∉ body.map Located.token

theorem quotedToken_ne_finish (quote : Char) (cs : List Char) :
    quotedToken quote cs ≠ .finish := by
  unfold quotedToken
  split
  · intro h
    cases h
  · intro h
    cases h

theorem takeNumber_ne_finish {cs : List Char} {found : Token × Nat}
    (h : takeNumber cs = some found) : found.1 ≠ .finish := by
  unfold takeNumber at h
  split at h
  · cases h
  · dsimp only at h
    split at h
    · cases h
      intro hf
      cases hf
    · cases h
      intro hf
      cases hf

theorem takeName_ne_finish {cs : List Char} {found : Token × Nat}
    (h : takeName cs = some found) : found.1 ≠ .finish := by
  unfold takeName at h
  split at h
  · cases h
  · split at h
    · cases h
      dsimp only
      unfold nameToken
      split
      · intro hf
        cases hf
      · intro hf
        cases hf
    · cases h

theorem takeToken_ne_finish {c : Char} {rest : List Char} {found : Token × Nat}
    (h : takeToken c rest = .ok found) : found.1 ≠ .finish := by
  unfold takeToken at h
  dsimp only at h
  split at h
  · split at h
    · cases h
      exact quotedToken_ne_finish _ _
    · cases h
  · split at h
    · cases h
      intro hf
      cases hf
    · split at h
      · cases h
        intro hf
        cases hf
      · split at h
        · rename_i hnumber
          cases h
          exact takeNumber_ne_finish hnumber
        · split at h
          · cases h
            intro hf
            cases hf
          · split at h
            · rename_i hname
              cases h
              exact takeName_ne_finish hname
            · cases h

theorem tokensFrom_endsOnce {skip position : Nat} {cs : List Char} {ts : List Located}
    (h : tokensFrom skip position cs = .ok ts) : EndsOnce ts := by
  induction cs generalizing skip position ts with
  | nil =>
      rw [tokensFrom] at h
      cases h
      exact ⟨[], _, rfl, rfl, List.not_mem_nil⟩
  | cons c rest ih =>
      cases skip with
      | succ skip => exact ih h
      | zero =>
          rw [tokensFrom] at h
          split at h
          · exact ih h
          · split at h
            · cases h
            · rename_i token size htoken
              split at h
              · cases h
              · split at h
                · cases h
                · rename_i later hlater
                  cases h
                  rcases ih hlater with ⟨body, last, rfl, hlast, hbody⟩
                  refine ⟨_ :: body, last, rfl, hlast, ?_⟩
                  rw [List.map_cons, List.mem_cons, not_or]
                  exact ⟨Ne.symm (takeToken_ne_finish htoken), hbody⟩

theorem tokenize_endsOnce {source : String} {ts : List Located}
    (h : tokenize source = .ok ts) : EndsOnce ts := tokensFrom_endsOnce h

theorem finish_not_mem_of_derives {toks : List Token} {phrase : Phrase}
    (h : Derives toks phrase) : Token.finish ∉ toks := by
  induction h with
  | tighter _ _ ih => exact ih
  | joined hsign _ _ ihfront ihback =>
      intro hmem
      rcases List.mem_append.mp hmem with hfront | hrest
      · exact ihfront hfront
      · rcases List.mem_cons.mp hrest with rfl | hback
        · cases hsign
        · exact ihback hback
  | inverted hsign _ ih =>
      intro hmem
      rcases List.mem_cons.mp hmem with rfl | hrest
      · revert hsign
        decide
      · exact ih hrest
  | leaf hleaf =>
      intro hmem
      rw [← List.mem_singleton.mp hmem] at hleaf
      cases hleaf
  | onlyNamed _ ih => exact ih
  | lastItem _ ih => exact ih
  | lastArgument _ ih => exact ih
  | _ => simp_all

/-!
# Whole fragments
-/

theorem parser_target?_eq (ts : List Located) :
    Parser.target? ts = if isSymbol .assign ts.tail then target? (next ts).token else none := by
  unfold Parser.target? target?
  rfl

theorem expectFinish_iff {ts : List Located} :
    expectFinish ts = .ok () <-> (next ts).token = .finish := by
  unfold expectFinish
  dsimp only
  split
  · rename_i h
    exact iff_of_true rfl h
  · rename_i h
    constructor
    · intro hok
      cases hok
    · intro hfinish
      exact absurd hfinish h

theorem EndsOnce.tail {ts : List Located} (h : EndsOnce ts) (hne : (next ts).token ≠ .finish) :
    EndsOnce ts.tail := by
  rcases h with ⟨body, last, rfl, hlast, hbody⟩
  cases body with
  | nil => exact absurd hlast hne
  | cons t body =>
      rw [List.map_cons, List.mem_cons, not_or] at hbody
      exact ⟨body, last, rfl, hlast, hbody.2⟩

theorem EndsOnce.front {front rest : List Located} (h : EndsOnce (front ++ rest))
    (hfront : Token.finish ∉ front.map Located.token) (hrest : (next rest).token = .finish) :
    (front ++ rest).map Located.token = front.map Located.token ++ [.finish] := by
  rcases h with ⟨body, last, heq, hlast, hbody⟩
  cases rest with
  | nil =>
      rw [List.append_nil] at heq
      rw [heq, List.map_append, List.map_singleton, hlast] at hfront
      exact absurd (List.mem_append_right _ (List.mem_singleton_self _)) hfront
  | cons f more =>
      have hf : f.token = .finish := hrest
      have hmore : more = [] := by
        rcases List.eq_nil_or_concat more with hnil | ⟨before, final, rfl⟩
        · exact hnil
        · rw [List.concat_eq_append, ← List.cons_append, ← List.append_assoc] at heq
          rcases List.append_inj' heq rfl with ⟨rfl, _⟩
          rw [List.map_append, List.map_cons, hf] at hbody
          exact absurd (List.mem_append_right _ List.mem_cons_self) hbody
      rw [hmore, List.map_append, List.map_singleton, hf]

theorem derives_of_expression {ts rest : List Located} {tree : Node} {depth : Nat}
    (hend : EndsOnce ts) (h : Parser.expression depth ts = .ok (tree, rest))
    (hfinish : expectFinish rest = .ok ()) :
    exists toks, Derives toks (.node .clause tree) ∧
      ts.map Located.token = toks ++ [.finish] := by
  rcases clause_sound (soundAt depth) h with ⟨front, rfl, hd⟩
  exact ⟨_, hd, hend.front (finish_not_mem_of_derives hd) (expectFinish_iff.mp hfinish)⟩

theorem expression_of_derives {ts : List Located} {toks : List Token} {tree : Node} {depth : Nat}
    (hd : Derives toks (.node .clause tree)) (hts : ts.map Located.token = toks ++ [.finish])
    (hdepth : 16 * toks.length + 12 <= depth) :
    exists rest, Parser.expression depth ts = .ok (tree, rest) ∧ expectFinish rest = .ok () := by
  rcases exists_before hts with ⟨body, last, rfl, hbody, hlast⟩
  refine ⟨[last], ?_, expectFinish_iff.mpr hlast⟩
  have hstop : Level.clause.StopsAt (next [last]).token := by
    rw [next, hlast]
    exact Level.stopsAt_of_mem _ (by decide)
  exact Complete.read (complete_of_derives hd) hbody hstop hdepth

theorem fragment_sound {allowAssignment : Bool} {ts : List Located} {tree : Node}
    (hend : EndsOnce ts) (h : fragment allowAssignment ts = .ok tree) :
    DerivesFragment allowAssignment (ts.map Located.token) tree := by
  unfold fragment at h
  dsimp only at h
  split at h
  · rename_i name htarget
    rcases bind_eq_ok_iff.mp h with ⟨⟨value, rest⟩, hvalue, hmore⟩
    rcases bind_eq_ok_iff.mp hmore with ⟨_, hfinish, hok⟩
    cases hok
    cases hallow : allowAssignment with
    | false =>
        rw [hallow] at htarget
        cases htarget
    | true =>
        rw [hallow, if_pos rfl, parser_target?_eq] at htarget
        split at htarget
        · rename_i hassign
          have hfirst : (next ts).token ≠ .finish := by
            intro hf
            rw [hf] at htarget
            cases htarget
          have hsecond := isSymbol_iff.mp hassign
          rcases eq_cons_of_next_token rfl hfirst with ⟨t, ht, hts⟩
          rcases eq_cons_of_next_token hsecond (by intro hf; cases hf) with ⟨eq, heq, htail⟩
          have hinner : EndsOnce ts.tail.tail := by
            refine (hend.tail hfirst).tail ?_
            rw [hsecond]
            intro hf
            cases hf
          rcases derives_of_expression hinner hvalue hfinish with ⟨toks, hd, htoks⟩
          rw [hts, htail, List.map_cons, List.map_cons, htoks, ht, heq]
          exact .assignment rfl htarget hd
        · cases htarget
  · rcases bind_eq_ok_iff.mp h with ⟨⟨value, rest⟩, hvalue, hmore⟩
    rcases bind_eq_ok_iff.mp hmore with ⟨_, hfinish, hok⟩
    cases hok
    rcases derives_of_expression hend hvalue hfinish with ⟨toks, hd, htoks⟩
    rw [htoks]
    exact .expression hd

theorem target?_eq_none {ts : List Located} {toks : List Token} {tree : Node}
    (hd : Derives toks (.node .clause tree)) (hts : ts.map Located.token = toks ++ [.finish]) :
    Parser.target? ts = none := by
  rw [parser_target?_eq]
  split
  · rename_i hassign
    cases htarget : target? (next ts).token with
    | none => rfl
    | some name =>
        rcases opened_of_derives hd with ⟨head, more, rfl, _⟩
        rcases List.map_eq_cons_iff.mp hts with ⟨t, others, rfl, rfl, hothers⟩
        have hsecond := isSymbol_iff.mp hassign
        cases more with
        | nil =>
            rcases List.map_eq_singleton_iff.mp hothers with ⟨last, rfl, hlast⟩
            cases hlast.symm.trans hsecond
        | cons second more =>
            rcases List.map_eq_cons_iff.mp hothers with ⟨u, _, rfl, rfl, _⟩
            have hu : u.token = .symbol .assign := hsecond
            rw [hu] at hd
            exact absurd rfl (unassigned_of_derives hd _ _ (Option.isSome_of_eq_some htarget))
  · rfl

theorem fragment_complete {allowAssignment : Bool} {ts : List Located} {tree : Node}
    (h : DerivesFragment allowAssignment (ts.map Located.token) tree) :
    fragment allowAssignment ts = .ok tree := by
  generalize hall : ts.map Located.token = all at h
  have hlength : ts.length = all.length := by
    rw [← hall, List.length_map]
  cases h with
  | @expression tree toks hd =>
      rw [List.length_append, List.length_singleton] at hlength
      have hdepth : 16 * toks.length + 12 <= depthFor ts := by
        unfold depthFor
        rw [hlength]
        omega
      rcases expression_of_derives hd hall hdepth with ⟨rest, hread, hfinish⟩
      have htarget : (if allowAssignment then Parser.target? ts else none) = none := by
        rw [target?_eq_none hd hall, ite_self]
      unfold fragment
      dsimp only
      rw [htarget]
      dsimp only
      rw [hread, ok_bind]
      dsimp only
      rw [hfinish]
      rfl
  | @assignment t name tree toks hallow hname hd =>
      rcases List.map_eq_cons_iff.mp hall with ⟨u, others, rfl, rfl, hothers⟩
      rcases List.map_eq_cons_iff.mp hothers with ⟨eq, value, rfl, heq, hvalue⟩
      simp only [List.length_cons, List.length_append, List.length_nil] at hlength
      have hdepth : 16 * toks.length + 12 <= depthFor (u :: eq :: value) := by
        simp only [depthFor, List.length_cons]
        omega
      rcases expression_of_derives hd hvalue hdepth with ⟨rest, hread, hfinish⟩
      have htarget : (if allowAssignment then Parser.target? (u :: eq :: value) else none) =
          some name := by
        rw [hallow, if_pos rfl, parser_target?_eq, List.tail_cons,
          if_pos (isSymbol_cons_iff.mpr heq)]
        exact hname
      unfold fragment
      dsimp only
      rw [htarget]
      dsimp only
      rw [List.tail_cons, List.tail_cons, hread, ok_bind]
      dsimp only
      rw [hfinish]
      rfl

/-- Of the tokens of a text, the parser accepts those that the grammar derives, with their tree. -/
theorem fragment_iff_derives {source : String} {ts : List Located}
    (h : tokenize source = .ok ts) (allowAssignment : Bool) :
    (forall tree, fragment allowAssignment ts = .ok tree <->
      DerivesFragment allowAssignment (ts.map Located.token) tree) ∧
    (forall a b, DerivesFragment allowAssignment (ts.map Located.token) a ->
      DerivesFragment allowAssignment (ts.map Located.token) b -> a = b) := by
  constructor
  · intro tree
    constructor
    · intro hread
      exact fragment_sound (tokenize_endsOnce h) hread
    · intro hd
      exact fragment_complete hd
  · intro a b ha hb
    have heq := (fragment_complete ha).symm.trans (fragment_complete hb)
    cases heq
    rfl

/-- A sign binds looser than the power after it, and nothing else derives the same tokens. -/
theorem signed_power_derives :
    exists ts, tokenize "-x ^ f(2)" = .ok ts ∧
      forall tree, DerivesFragment true (ts.map Located.token) tree <->
        tree = .unary "-" (.binary "^" (.identifier "x")
          (.call "f" [.literal (.int 2)] [] false)) := by
  have hts : tokenize "-x ^ f(2)" =
      .ok [⟨.symbol .minus, 0⟩, ⟨.identifier "x", 1⟩, ⟨.symbol .caret, 3⟩, ⟨.identifier "f", 5⟩,
        ⟨.symbol .openParen, 6⟩, ⟨.integer 2, 7⟩, ⟨.symbol .closeParen, 8⟩, ⟨.finish, 9⟩] := rfl
  rcases fragment_iff_derives hts true with ⟨hiff, hunique⟩
  refine ⟨_, hts, ?_⟩
  intro tree
  constructor
  · intro h
    exact hunique _ _ h ((hiff _).mp rfl)
  · rintro rfl
    exact (hiff _).mp rfl

end Grammar
end Wrangle
