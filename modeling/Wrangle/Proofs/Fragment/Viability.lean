import Wrangle.Proofs.Fragment.Spelling

/-!
# Where the parser stops

A reader that fails does so at a token, and the tokens before it can be gone on with: a number
where an operand is missing, and brackets that close what is open, complete them to a phrase that
the reader takes.
-/

namespace Wrangle
namespace Grammar

open Wrangle.Parser

/-!
# Beginnings
-/

def fillers : List Token :=
  [.integer 1, .symbol .closeParen, .symbol .closeBracket]

def Begins (good : List Token -> Prop) (toks : List Token) : Prop :=
  exists more, (forall t, t ∈ more -> t ∈ fillers) ∧ good (toks ++ more)

theorem Begins.of_complete {good : List Token -> Prop} {toks : List Token} (h : good toks) :
    Begins good toks := by
  refine ⟨[], ?_, ?_⟩
  · intro t ht
    cases ht
  · rw [List.append_nil]
    exact h

theorem begins_tree (level : Level) : Begins (IsReadAt level) [] := by
  refine ⟨[.integer 1], ?_, _, derives_of_rank_le (.leaf rfl) level.rank_pos⟩
  intro t ht
  rw [List.mem_singleton.1 ht]
  exact List.mem_cons_self

def Stops (good : List Token -> Prop) (ts : List Located) (e : ParseError) : Prop :=
  exists front rest, ts = front ++ rest ∧ e.position = (next rest).position ∧
    Begins good (front.map Located.token)

theorem symbol_ne_finish (s : Symbol) : Token.symbol s ≠ .finish := by
  intro hf
  cases hf

theorem identifier_ne_finish (name : String) : Token.identifier name ≠ .finish := by
  intro hf
  cases hf

namespace Stops

variable {good first : List Token -> Prop} {ts mid : List Located} {e : ParseError}

theorem here (he : e.position = (next ts).position) (h : Begins good []) : Stops good ts e :=
  ⟨[], ts, rfl, he, h⟩

theorem after (hfirst : Takes first ts mid)
    (h : Stops (fun back => forall front, first front -> good (front ++ back)) mid e) :
    Stops good ts e := by
  rcases hfirst with ⟨front, rfl, hfront⟩
  rcases h with ⟨back, rest, rfl, he, more, hmore, hgood⟩
  refine ⟨front ++ back, rest, (List.append_assoc ..).symm, he, more, hmore, ?_⟩
  rw [List.map_append, List.append_assoc]
  exact hgood _ hfront

theorem afterToken {token : Token} (ht : (next ts).token = token) (hne : token ≠ .finish)
    (h : Stops (fun front => good (token :: front)) ts.tail e) : Stops good ts e := by
  have hread : Takes (fun front => front = [token]) ts ts.tail := Takes.token ht hne rfl
  rcases h with ⟨back, rest, hback, he, more, hmore, hgood⟩
  refine after hread ⟨back, rest, hback, he, more, hmore, ?_⟩
  rintro _ rfl
  exact hgood

theorem afterSymbol {s : Symbol} (hs : isSymbol s ts = true)
    (h : Stops (fun front => good (.symbol s :: front)) ts.tail e) : Stops good ts e :=
  afterToken (isSymbol_iff.1 hs) (symbol_ne_finish _) h

theorem around {token : Token} (hfirst : Takes first ts mid) (ht : (next mid).token = token)
    (hne : token ≠ .finish)
    (h : Stops (fun back => forall front, first front -> good (front ++ token :: back))
      mid.tail e) : Stops good ts e :=
  after hfirst (afterToken ht hne h)

theorem imp (h : Stops first ts e) (himp : forall toks, first toks -> good toks) :
    Stops good ts e := by
  rcases h with ⟨front, rest, hts, he, more, hmore, hgood⟩
  exact ⟨front, rest, hts, he, more, hmore, himp _ hgood⟩

theorem closed (h : Stops first ts e) (closer : Symbol) (hcloser : .symbol closer ∈ fillers)
    (himp : forall toks, first toks -> good (toks ++ [.symbol closer])) : Stops good ts e := by
  rcases h with ⟨front, rest, hts, he, more, hmore, hgood⟩
  refine ⟨front, rest, hts, he, more ++ [.symbol closer], ?_, ?_⟩
  · intro t ht
    rcases List.mem_append.1 ht with ht | ht
    · exact hmore t ht
    · rw [List.mem_singleton.1 ht]
      exact hcloser
  · rw [← List.append_assoc]
    exact himp _ hgood

theorem unclosed (hfirst : Takes first ts mid) (he : e.position = (next mid).position)
    (closer : Symbol) (hcloser : .symbol closer ∈ fillers)
    (himp : forall front, first front -> good (front ++ [.symbol closer])) : Stops good ts e := by
  refine after hfirst (here he ⟨[.symbol closer], ?_, himp⟩)
  intro t ht
  rw [List.mem_singleton.1 ht]
  exact hcloser

end Stops

theorem position_of_expect {s : Symbol} {ts : List Located} {e : ParseError}
    (h : expect s ts = .error e) : e.position = (next ts).position := by
  unfold expect at h
  dsimp only at h
  split at h
  · split at h
    · cases h
    · cases h
      rfl
  · cases h
    rfl

theorem length_le_of_takes {good : List Token -> Prop} {ts rest : List Located}
    (h : Takes good ts rest) : rest.length <= ts.length := by
  rcases h with ⟨front, rfl, _⟩
  rw [List.length_append]
  exact Nat.le_add_left _ _

theorem length_tail {ts : List Located} {token : Token} (ht : (next ts).token = token)
    (hne : token ≠ .finish) : ts.tail.length + 1 = ts.length := by
  rcases eq_cons_of_next_token ht hne with ⟨t, _, hts⟩
  rw [hts]
  rfl

/-!
# Readers of a depth

The depth that a reader needs is counted in levels, and each token is worth more of them than there
are.  A reader with enough of it fails at a token only.
-/

/-- All readers of a depth stop after a beginning of what they read. -/
structure ViableAt (depth : Nat) : Prop where
  node : forall {level : Level} {ts e}, level.read depth ts = .error e ->
    16 * ts.length + level.rank <= depth -> Stops (IsReadAt level) ts e
  chain : forall {level : Level} {left start ts e}, level.isChain = true ->
    Reads (.node level left) start ts -> level.resume depth left ts = .error e ->
    16 * ts.length + 1 <= depth -> Stops (IsReadAt level) start e
  items : forall {closer ts e}, Parser.items depth closer ts = .error e ->
    16 * ts.length + 13 <= depth ->
    Stops (fun toks => exists trees, Derives toks (.items trees)) ts e
  arguments : forall {ts e}, Parser.arguments depth ts = .error e ->
    16 * ts.length + 14 <= depth ->
    Stops (fun toks => exists args kwargs, Derives toks (.arguments args kwargs)) ts e
  named : forall {ts e}, Parser.namedArguments depth ts = .error e ->
    16 * ts.length + 13 <= depth ->
    Stops (fun toks => exists kwargs, Derives toks (.named kwargs)) ts e

theorem viableAt_zero : ViableAt 0 where
  node := by
    intro level ts e _ hdepth
    have hpos := level.rank_pos
    omega
  chain := by
    intro level left start ts e _ _ _ hdepth
    omega
  items := by
    intro closer ts e _ hdepth
    omega
  arguments := by
    intro ts e _ hdepth
    omega
  named := by
    intro ts e _ hdepth
    omega

section Step

variable {depth : Nat} (ih : ViableAt depth) {ts : List Located} {e : ParseError}

include ih

theorem clause_viable (h : Parser.expression depth ts = .error e)
    (hdepth : 16 * ts.length + 12 <= depth) : Stops (IsReadAt .clause) ts e := by
  have hread : Level.clause.read depth ts = .error e := h
  exact ih.node hread hdepth

theorem joined_viable {level : Level} {build : Node -> Node -> Node} {left : Node}
    {start : List Located} (hs : Reads (.node level.left left) start ts)
    (hjoin : level.join (next ts).token = some build)
    (h : level.right.read depth ts.tail = .error e) (hdepth : 16 * ts.length <= depth) :
    Stops (IsReadAt level) start e := by
  have hsign := join_eq_some_iff.1 hjoin
  have hne : (next ts).token ≠ .finish := by
    intro hf
    rw [hf] at hsign
    cases hsign
  have hlength := length_tail rfl hne
  have hrank := level.right.rank_le
  refine Stops.around hs rfl hne ((ih.node h (by omega)).imp ?_)
  intro back hback front hfront
  exact IsReadAt.joined hsign ⟨left, hfront⟩ hback

theorem once_viable {level : Level} {left : Node} {start : List Located}
    (hs : Reads (.node level.left left) start ts) (h : level.once depth left ts = .error e)
    (hdepth : 16 * ts.length <= depth) : Stops (IsReadAt level) start e := by
  unfold Level.once at h
  split at h
  · rename_i build hjoin
    rcases bind_eq_error_iff.1 h with hright | ⟨right, _, hok⟩
    · exact joined_viable ih hs hjoin hright hdepth
    · cases hok
  · cases h

theorem chain_viable {level : Level} {left : Node} {start : List Located}
    (hc : level.isChain = true) (hs : Reads (.node level left) start ts)
    (h : level.resume (depth + 1) left ts = .error e) (hdepth : 16 * ts.length + 1 <= depth + 1) :
    Stops (IsReadAt level) start e := by
  rw [Level.resume_chain hc] at h
  split at h
  · rename_i build hjoin
    have hleft : Reads (.node level.left left) start ts := by
      rw [Level.left_eq_of_chain hc]
      exact hs
    rcases bind_eq_error_iff.1 h with hright | ⟨right, hright, hmore⟩
    · exact joined_viable ih hleft hjoin hright (by omega)
    · have hne : (next ts).token ≠ .finish := by
        intro hf
        rw [hf] at hjoin
        cases hjoin
      -- The sign is a token less, which is worth more than the step that going on takes.
      have hlength := length_tail rfl hne
      have hle := length_le_of_takes ((soundAt depth).node hright)
      exact ih.chain hc (joined_sound (soundAt depth) hleft hjoin hright) hmore (by omega)
  · cases h

theorem joining_viable {level : Level} (hj : level.isJoining = true)
    (h : level.read (depth + 1) ts = .error e) (hdepth : 16 * ts.length + level.rank <= depth + 1) :
    Stops (IsReadAt level) ts e := by
  have hfirst : forall {inner : Level}, level.next? = some inner ->
      inner.read depth ts = .error e -> Stops (IsReadAt level) ts e := by
    intro inner hn hinner
    have hrank := Level.rank_of_next? hn
    exact (ih.node hinner (by omega)).imp fun toks htoks => htoks.loosen (by omega)
  cases hc : level.isChain with
  | true =>
      have hn := Level.next?_of_chain hc
      rw [Level.read_joining hj hn] at h
      rcases bind_eq_error_iff.1 h with hinner | ⟨first, hread, hmore⟩
      · exact hfirst hn hinner
      · have hstart := (soundAt depth).node hread
        have hle := length_le_of_takes hstart
        have hrank := Level.rank_of_next? hn
        have hpos := level.right.rank_pos
        exact ih.chain hc (hstart.imp fun _ => .tighter hn) hmore (by omega)
  | false =>
      have hn := Level.next?_of_single hj hc
      rw [Level.read_joining hj hn, Level.resume_eq_once hc] at h
      rcases bind_eq_error_iff.1 h with hinner | ⟨first, hread, hmore⟩
      · exact hfirst hn hinner
      · have hstart := (soundAt depth).node hread
        have hle := length_le_of_takes hstart
        have hpos := level.rank_pos
        exact once_viable ih hstart hmore (by omega)

theorem negation_viable (h : Parser.negation (depth + 1) ts = .error e)
    (hdepth : 16 * ts.length + 9 <= depth + 1) : Stops (IsReadAt .negation) ts e := by
  rw [Parser.negation] at h
  split at h
  · rename_i hnot
    have hsign := isNot_iff.1 hnot
    have hne : (next ts).token ≠ .finish := by
      intro hf
      rw [hf] at hsign
      simp [notSigns] at hsign
    have hlength := length_tail rfl hne
    rcases bind_eq_error_iff.1 h with hoperand | ⟨operand, _, hok⟩
    · have hread : Level.negation.read depth ts.tail = .error e := hoperand
      refine Stops.afterToken rfl hne ((ih.node hread (by simp only [Level.rank]; omega)).imp ?_)
      rintro toks ⟨tree, hd⟩
      exact ⟨_, .inverted hsign hd⟩
    · cases hok
  · have hread : Level.comparison.read depth ts = .error e := h
    exact (ih.node hread (by simp only [Level.rank]; omega)).imp fun _ htoks =>
      htoks.loosen (by decide)

theorem signed_viable (h : Parser.signed (depth + 1) ts = .error e)
    (hdepth : 16 * ts.length + 4 <= depth + 1) : Stops (IsReadAt .signed) ts e := by
  have hsigned : forall {s : Symbol}, isSymbol s ts = true ->
      Parser.signed depth ts.tail = .error e -> Stops (IsReadAt .signed) ts.tail e := by
    intro s hs hoperand
    have hlength := length_tail (isSymbol_iff.1 hs) (symbol_ne_finish _)
    have hread : Level.signed.read depth ts.tail = .error e := hoperand
    exact ih.node hread (by simp only [Level.rank]; omega)
  rw [Parser.signed] at h
  split at h
  · rename_i hminus
    rcases bind_eq_error_iff.1 h with hoperand | ⟨operand, _, hok⟩
    · exact Stops.afterSymbol hminus ((hsigned hminus hoperand).imp fun _ => IsReadAt.minus)
    · cases hok
  · split at h
    · rename_i hplus
      refine Stops.afterSymbol hplus ((hsigned hplus h).imp ?_)
      rintro toks ⟨tree, hd⟩
      exact ⟨tree, .positive hd⟩
    · have hread : Level.power.read depth ts = .error e := h
      exact (ih.node hread (by simp only [Level.rank]; omega)).imp fun _ htoks =>
        htoks.loosen (by decide)

theorem application_viable (h : Parser.application (depth + 1) ts = .error e)
    (hdepth : 16 * ts.length + 2 <= depth + 1) : Stops (IsReadAt .application) ts e := by
  have hatom : Parser.atom depth ts = .error e -> Stops (IsReadAt .application) ts e := by
    intro hread
    have hread : Level.atom.read depth ts = .error e := hread
    exact (ih.node hread (by simp only [Level.rank]; omega)).imp fun _ htoks =>
      htoks.loosen (by decide)
  rw [Parser.application] at h
  split at h
  · rename_i head hhead
    split at h
    · rename_i hopen
      have hname := length_tail hhead (identifier_ne_finish _)
      have hparen := length_tail (isSymbol_iff.1 hopen) (symbol_ne_finish _)
      refine Stops.afterToken hhead (identifier_ne_finish _) (Stops.afterSymbol hopen ?_)
      rcases bind_eq_error_iff.1 h with hargs | ⟨⟨args, mid⟩, hargs, h⟩
      · refine (ih.arguments hargs (by omega)).closed .closeParen (by decide) ?_
        rintro toks ⟨args, kwargs, hd⟩
        exact ⟨_, .call hd⟩
      · rcases bind_eq_error_iff.1 h with hclose | ⟨_, _, hok⟩
        · have hread : Reads (.arguments args.1 args.2) ts.tail.tail mid :=
            (soundAt depth).arguments hargs
          exact Stops.unclosed hread (position_of_expect hclose) .closeParen (by decide)
            fun _ hd => ⟨_, .call hd⟩
        · cases hok
    · exact hatom h
  · exact hatom h

theorem listed_viable {beta : Type} {good others : List Token -> Prop}
    {readOthers : List Located -> Except ParseError (Read beta)} (single : Node -> beta)
    (before : Node -> beta -> beta)
    (h : (do
      let (tree, rest) <- Parser.expression depth ts
      if isSymbol .comma rest then
        let (found, rest) <- readOthers rest.tail
        .ok (before tree found, rest)
      else .ok (single tree, rest)) = Except.error e)
    (hdepth : 16 * ts.length + 12 <= depth)
    (hothers : forall {mid : List Located}, mid.length < ts.length -> readOthers mid = .error e ->
      Stops others mid e)
    (hlast : forall toks tree, Derives toks (.node .clause tree) -> good toks)
    (hmore : forall front tree back, Derives front (.node .clause tree) -> others back ->
      good (front ++ .symbol .comma :: back)) : Stops good ts e := by
  rcases bind_eq_error_iff.1 h with htree | ⟨⟨tree, mid⟩, htree, h⟩
  · refine (clause_viable ih htree hdepth).imp ?_
    rintro toks ⟨tree, hd⟩
    exact hlast toks tree hd
  · have hread : Reads (.node .clause tree) ts mid := clause_sound (soundAt depth) htree
    have hle := length_le_of_takes hread
    dsimp only at h
    split at h
    · rename_i hcomma
      have hlength := length_tail (isSymbol_iff.1 hcomma) (symbol_ne_finish _)
      rcases bind_eq_error_iff.1 h with h | ⟨_, _, hok⟩
      · refine Stops.around hread (isSymbol_iff.1 hcomma) (symbol_ne_finish _)
          ((hothers (by omega) h).imp ?_)
        intro back hback front hfront
        exact hmore front tree back hfront hback
      · cases hok
    · cases h

theorem items_viable {closer : Symbol} (h : Parser.items (depth + 1) closer ts = .error e)
    (hdepth : 16 * ts.length + 13 <= depth + 1) :
    Stops (fun toks => exists trees, Derives toks (.items trees)) ts e := by
  rw [Parser.items] at h
  split at h
  · cases h
  · refine listed_viable ih (fun tree => [tree]) (fun tree trees => tree :: trees) h (by omega)
      (fun hlt hread => ih.items hread (by omega)) ?_ ?_
    · intro toks tree hd
      exact ⟨_, .lastItem hd⟩
    · rintro front tree back hfront ⟨trees, hback⟩
      exact ⟨_, .moreItems hfront hback⟩

theorem named_viable (h : Parser.namedArguments (depth + 1) ts = .error e)
    (hdepth : 16 * ts.length + 13 <= depth + 1) :
    Stops (fun toks => exists kwargs, Derives toks (.named kwargs)) ts e := by
  rw [Parser.namedArguments] at h
  split at h
  · cases h
  · split at h
    · rename_i name hname hassign
      have hfirst := length_tail hname (identifier_ne_finish _)
      have hsecond := length_tail (isSymbol_iff.1 hassign) (symbol_ne_finish _)
      refine Stops.afterToken hname (identifier_ne_finish _) (Stops.afterSymbol hassign ?_)
      refine listed_viable ih (fun tree => [(name, tree)])
        (fun tree kwargs => (name, tree) :: kwargs) h (by omega)
        (fun hlt hread => ih.named hread (by omega)) ?_ ?_
      · intro toks tree hd
        exact ⟨_, .lastNamed hd⟩
      · rintro front tree back hfront ⟨kwargs, hback⟩
        exact ⟨_, .moreNamed hfront hback⟩
    · cases h
      exact Stops.here rfl (.of_complete ⟨_, .noNamed⟩)

theorem arguments_viable (h : Parser.arguments (depth + 1) ts = .error e)
    (hdepth : 16 * ts.length + 14 <= depth + 1) :
    Stops (fun toks => exists args kwargs, Derives toks (.arguments args kwargs)) ts e := by
  rw [Parser.arguments] at h
  split at h
  · cases h
  · split at h
    · rcases bind_eq_error_iff.1 h with hnamed | ⟨named, _, hok⟩
      · refine (ih.named hnamed (by omega)).imp ?_
        rintro toks ⟨kwargs, hd⟩
        exact ⟨_, _, .onlyNamed hd⟩
      · cases hok
    · refine listed_viable ih (fun tree => ([tree], []))
        (fun tree found => (tree :: found.1, found.2)) h (by omega)
        (fun hlt hread => ih.arguments hread (by omega)) ?_ ?_
      · intro toks tree hd
        exact ⟨_, _, .lastArgument hd⟩
      · rintro front tree back hfront ⟨args, kwargs, hback⟩
        exact ⟨_, _, .moreArguments hfront hback⟩

theorem parenthesis_viable (hopen : (next ts).token = .symbol .openParen)
    (h : (do
      let (first, rest) <- Parser.expression depth ts.tail
      if isSymbol .closeParen rest then .ok (first, rest.tail)
      else
        let ((), rest) <- expect .comma rest
        let (others, rest) <- Parser.items depth .closeParen rest
        let ((), rest) <- expect .closeParen rest
        .ok (.tuple (first :: others), rest)) = (Except.error e : Except ParseError (Read Node)))
    (hdepth : 16 * ts.length <= depth) : Stops (IsReadAt .atom) ts e := by
  have hlength := length_tail hopen (symbol_ne_finish _)
  refine Stops.afterToken hopen (symbol_ne_finish _) ?_
  rcases bind_eq_error_iff.1 h with hfirst | ⟨⟨first, mid⟩, hfirst, hmore⟩
  · exact (clause_viable ih hfirst (by omega)).closed .closeParen (by decide)
      fun _ => IsReadAt.enclosed
  · have hread : Reads (.node .clause first) ts.tail mid := clause_sound (soundAt depth) hfirst
    have hle := length_le_of_takes hread
    dsimp only at hmore
    split at hmore
    · cases hmore
    · rcases bind_eq_error_iff.1 hmore with hcomma | ⟨⟨_, afterComma⟩, hcomma, hmore⟩
      -- Where the comma is missing, a bracket would do as well.
      · exact Stops.unclosed hread (position_of_expect hcomma) .closeParen (by decide)
          fun _ hd => ⟨_, .enclosed hd⟩
      · rcases next_of_expect hcomma with ⟨hnext, rfl⟩
        have hmid := length_tail hnext (symbol_ne_finish _)
        rcases bind_eq_error_iff.1 hmore with hothers | ⟨⟨others, last⟩, hothers, hmore⟩
        · have hitems : Parser.items depth .closeParen mid.tail = .error e := hothers
          refine Stops.around hread hnext (symbol_ne_finish _)
            ((ih.items hitems (by omega)).closed .closeParen (by decide) ?_)
          rintro back ⟨trees, hback⟩ front hfront
          exact ⟨_, .tuple hfront hback⟩
        · rcases bind_eq_error_iff.1 hmore with hclose | ⟨_, _, hok⟩
          · have hrest : Reads (.items others) mid.tail last := (soundAt depth).items hothers
            refine Stops.around hread hnext (symbol_ne_finish _) (Stops.unclosed hrest
              (position_of_expect hclose) .closeParen (by decide) ?_)
            intro back hback front hfront
            exact ⟨_, .tuple hfront hback⟩
          · cases hok

theorem atom_viable (h : Parser.atom (depth + 1) ts = .error e)
    (hdepth : 16 * ts.length + 1 <= depth + 1) : Stops (IsReadAt .atom) ts e := by
  rw [Parser.atom] at h
  split at h
  · rename_i hmarker
    have hne : Token.marker ≠ .finish := by
      intro hf
      cases hf
    have hlength := length_tail hmarker hne
    rcases bind_eq_error_iff.1 h with hinner | ⟨inner, _, hok⟩
    · have hread : Level.application.read depth ts.tail = .error e := hinner
      refine Stops.afterToken hmarker hne
        ((ih.node hread (by simp only [Level.rank]; omega)).imp ?_)
      rintro toks ⟨tree, hd⟩
      exact ⟨_, .marked hd⟩
    · cases hok
  · rename_i hopen
    split at h
    · cases h
    · exact parenthesis_viable ih hopen h (by omega)
  · rename_i hopen
    have hlength := length_tail hopen (symbol_ne_finish _)
    refine Stops.afterToken hopen (symbol_ne_finish _) ?_
    rcases bind_eq_error_iff.1 h with htrees | ⟨⟨trees, mid⟩, htrees, hclose⟩
    · refine (ih.items htrees (by omega)).closed .closeBracket (by decide) ?_
      rintro toks ⟨trees, hd⟩
      exact ⟨_, .vector hd⟩
    · rcases bind_eq_error_iff.1 hclose with hclose | ⟨_, _, hok⟩
      · have hread : Reads (.items trees) ts.tail mid := (soundAt depth).items htrees
        exact Stops.unclosed hread (position_of_expect hclose) .closeBracket (by decide)
          fun _ hd => ⟨_, .vector hd⟩
      · cases hok
  · cases h
  · cases h
  · cases h
  · cases h
  · cases h
  · split at h
    · cases h
    · cases h
      exact Stops.here rfl (begins_tree .atom)
  · cases h
    exact Stops.here rfl (begins_tree .atom)

theorem viableAt_succ : ViableAt (depth + 1) where
  node := by
    intro level ts e h hdepth
    cases level with
    | negation => exact negation_viable ih h hdepth
    | signed => exact signed_viable ih h hdepth
    | application => exact application_viable ih h hdepth
    | atom => exact atom_viable ih h hdepth
    | _ => exact joining_viable ih rfl h hdepth
  chain := chain_viable ih
  items := items_viable ih
  arguments := arguments_viable ih
  named := named_viable ih

end Step

theorem viableAt (depth : Nat) : ViableAt depth := by
  induction depth with
  | zero => exact viableAt_zero
  | succ depth ih => exact viableAt_succ ih

/-!
# Whole fragments
-/

def IsFragment (allowAssignment : Bool) (toks : List Token) : Prop :=
  exists tree, DerivesFragment allowAssignment (toks ++ [.finish]) tree

theorem finish_not_mem_of_isFragment {allowAssignment : Bool} {toks : List Token}
    (h : IsFragment allowAssignment toks) : Token.finish ∉ toks := by
  rcases h with ⟨tree, h⟩
  generalize hall : toks ++ [Token.finish] = all at h
  cases h with
  | expression hd =>
      rw [List.append_cancel_right hall]
      exact finish_not_mem_of_derives hd
  | @assignment t name value body _ htarget hd =>
      have hbody : toks ++ [Token.finish] = (t :: .symbol .assign :: body) ++ [.finish] := hall
      rw [List.append_cancel_right hbody]
      simp only [List.mem_cons, not_or]
      refine ⟨?_, (symbol_ne_finish _).symm, finish_not_mem_of_derives hd⟩
      rintro rfl
      cases htarget

theorem expression_viable (build : Node -> Node) {ts : List Located} {e : ParseError} {depth : Nat}
    (hdepth : 16 * ts.length + 12 <= depth)
    (h : (do
      let (tree, rest) <- Parser.expression depth ts
      expectFinish rest
      .ok (build tree)) = Except.error e) : Stops (IsReadAt .clause) ts e := by
  rcases bind_eq_error_iff.1 h with hread | ⟨⟨tree, rest⟩, hread, h⟩
  · exact clause_viable (viableAt depth) hread hdepth
  · rcases bind_eq_error_iff.1 h with hfinish | ⟨_, _, hok⟩
    · rcases clause_sound (soundAt depth) hread with ⟨front, hts, hd⟩
      refine ⟨front, rest, hts, ?_, .of_complete ⟨tree, hd⟩⟩
      unfold expectFinish at hfinish
      dsimp only at hfinish
      split at hfinish
      · cases hfinish
      · cases hfinish
        rfl
    · cases hok

theorem fragment_stops {allowAssignment : Bool} {ts : List Located} {e : ParseError}
    (h : fragment allowAssignment ts = .error e) : Stops (IsFragment allowAssignment) ts e := by
  unfold fragment at h
  dsimp only at h
  split at h
  · rename_i name htarget
    cases hallow : allowAssignment with
    | false =>
        rw [hallow] at htarget
        cases htarget
    | true =>
        rw [hallow, if_pos rfl, parser_target?_eq] at htarget
        split at htarget
        · rename_i hassign
          have hfirst : (next ts).token ≠ .finish := by
            intro hf
            rw [hf] at htarget
            cases htarget
          have hlength := length_tail rfl hfirst
          have hinner := length_tail (isSymbol_iff.1 hassign) (symbol_ne_finish _)
          have hdepth : 16 * ts.tail.tail.length + 12 <= depthFor ts := by
            unfold depthFor
            omega
          have hvalue : Stops (IsReadAt .clause) ts.tail.tail e :=
            expression_viable (.assignment name) hdepth h
          refine Stops.afterToken rfl hfirst (Stops.afterSymbol hassign (hvalue.imp ?_))
          rintro toks ⟨tree, hd⟩
          exact ⟨_, .assignment rfl htarget hd⟩
        · cases htarget
  · have hdepth : 16 * ts.length + 12 <= depthFor ts := by
      unfold depthFor
      omega
    have hvalue : Stops (IsReadAt .clause) ts e := expression_viable id hdepth h
    refine hvalue.imp ?_
    rintro toks ⟨tree, hd⟩
    exact ⟨tree, .expression hd⟩

/-- A fragment that cannot be read is wrong at one of its tokens, and what is before that token can
be completed. -/
theorem fragment_viable {allowAssignment : Bool} {ts : List Located} {e : ParseError}
    (hend : EndsOnce ts) (h : fragment allowAssignment ts = .error e) :
    exists front t back, ts = front ++ t :: back ∧ e.position = t.position ∧
      Begins (IsFragment allowAssignment) (front.map Located.token) := by
  rcases fragment_stops h with ⟨front, rest, rfl, he, more, hmore, hfragment⟩
  cases rest with
  | nil =>
      -- The token for the end is the last one, and a beginning has none.
      rcases hend with ⟨body, last, heq, hlast, _⟩
      rw [List.append_nil] at heq
      refine absurd ?_ (finish_not_mem_of_isFragment hfragment)
      rw [heq, List.map_append, List.map_singleton, hlast]
      simp
  | cons t back => exact ⟨front, t, back, rfl, he, more, hmore, hfragment⟩

end Grammar
end Wrangle
