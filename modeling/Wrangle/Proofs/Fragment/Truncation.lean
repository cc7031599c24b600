import Wrangle.Proofs.Fragment.Prefixes
import Wrangle.Proofs.Fragment.Viability

/-!
# Texts cut off at an error

A text that is no fragment is cut off where the error is.  What is before is read as the same
tokens, and with a number and closing brackets after it the text is a fragment.
-/

namespace Wrangle
namespace Grammar

open Wrangle.Parser Text Number

/-!
# Positions
-/

variable {position : Nat} {cs : List Char} {ts : List Located}

theorem position_of_malformed {skip : Nat} {e : ParseError}
    (h : tokensFrom skip position cs = .error (.malformed e)) :
    e.position < position + cs.length := by
  induction cs generalizing skip position with
  | nil =>
      rw [tokensFrom] at h
      cases h
  | cons c rest ih =>
      have hrest : forall {more : Nat},
          tokensFrom more (position + 1) rest = .error (.malformed e) ->
            e.position < position + (c :: rest).length := by
        intro more hmore
        have hlt := ih hmore
        rw [List.length_cons]
        omega
      cases skip with
      | succ skip =>
          rw [tokensFrom] at h
          exact hrest h
      | zero =>
          rw [tokensFrom] at h
          split at h
          · exact hrest h
          · split at h
            · cases h
              simp
            · split at h
              · cases h
              · split at h
                · rename_i hlater
                  cases h
                  exact hrest hlater
                · cases h

theorem tokensFrom_skip {skip : Nat} (h : skip <= cs.length) :
    tokensFrom skip position cs = tokensFrom 0 (position + skip) (cs.drop skip) := by
  induction cs generalizing skip position with
  | nil =>
      cases Nat.le_zero.1 h
      rfl
  | cons c rest ih =>
      cases skip with
      | zero => rfl
      | succ skip =>
          rw [tokensFrom, ih (Nat.le_of_succ_le_succ h), List.drop_succ_cons]
          congr 1
          omega

theorem tokensFrom_cons_eq_ok {c : Char} {rest : List Char}
    (h : tokensFrom 0 position (c :: rest) = .ok ts) :
    (isBlank c = true ∧ tokensFrom 0 (position + 1) rest = .ok ts) ∨
      exists token used after later, isBlank c = false ∧ rest = used ++ after ∧
        token.isTooLong (used.length + 1) = false ∧
        (forall other, IsCut after other ->
          takeToken c (used ++ other) = .ok (token, used.length + 1)) ∧
        tokensFrom 0 (position + (used.length + 1)) after = .ok later ∧
        ts = { token := token, position := position } :: later := by
  rw [tokensFrom] at h
  split at h
  · rename_i hblank
    exact Or.inl ⟨hblank, h⟩
  · rename_i hblank
    right
    split at h
    · cases h
    · rename_i token size htoken
      split at h
      · cases h
      · rename_i hlong
        split at h
        · cases h
        · rename_i later hlater
          cases h
          rcases takeToken_cut htoken with ⟨used, after, rfl, rfl, _, hcut⟩
          refine ⟨token, used, after, later, by simpa using hblank, rfl, by simpa using hlong, hcut,
            ?_, rfl⟩
          rw [Nat.add_sub_cancel, tokensFrom_skip (by simp), List.drop_left] at hlater
          rw [← hlater]
          congr 1
          omega

/-- A text is cut at a token: the tokens before it stand at earlier positions, and they are read of
what is before the token, whatever follows after a blank. -/
structure Cuts (position : Nat) (cs : List Char) (front : List Located) (t : Located)
    (before after : List Char) : Prop where
  text : cs = before ++ after
  place : t.position = position + before.length
  earlier : forall u, u ∈ front -> u.position < t.position
  kept : forall tail, lexed (before ++ ' ' :: tail) =
    (lexed tail).map (front.map Located.token ++ ·)

namespace Cuts

variable {front : List Located} {t : Located} {before after : List Char}

theorem here (token : Token) (cs : List Char) :
    Cuts position cs [] { token := token, position := position } [] cs where
  text := rfl
  place := rfl
  earlier := nofun
  kept := by
    intro tail
    rw [List.nil_append, lexed_blank (by decide)]
    exact (Option.map_id').symm

theorem blank {c : Char} (hc : isBlank c = true) (h : Cuts (position + 1) cs front t before after) :
    Cuts position (c :: cs) front t (c :: before) after where
  text := by rw [h.text, List.cons_append]
  place := by
    rw [h.place, List.length_cons]
    omega
  earlier := h.earlier
  kept := by
    intro tail
    rw [List.cons_append, lexed_blank hc, h.kept]

theorem token {c : Char} {used rest : List Char} {token : Token} (hc : isBlank c = false)
    (hlong : token.isTooLong (used.length + 1) = false)
    (htoken : forall other, IsCut rest other ->
      takeToken c (used ++ other) = .ok (token, used.length + 1))
    (h : Cuts (position + (used.length + 1)) rest front t before after) :
    Cuts position (c :: (used ++ rest)) ({ token := token, position := position } :: front) t
      (c :: (used ++ before)) after where
  text := by rw [h.text, List.cons_append, List.append_assoc]
  place := by
    rw [h.place, List.length_cons, List.length_append]
    omega
  earlier := by
    intro u hu
    rcases List.mem_cons.1 hu with rfl | hu
    · rw [h.place]
      show position < _
      omega
    · exact h.earlier u hu
  kept := by
    intro tail
    have hcut : IsCut rest (before ++ ' ' :: tail) := by
      rw [h.text]
      exact IsCut.blank.append before
    rw [List.cons_append, List.append_assoc, lexed_token _ hc (htoken _ hcut) hlong, h.kept,
      Option.map_map]
    rfl

end Cuts

theorem exists_cuts {front back : List Located} {t : Located}
    (h : tokensFrom 0 position cs = .ok (front ++ t :: back)) :
    exists before after, Cuts position cs front t before after := by
  induction hn : cs.length using Nat.strong_induction_on generalizing cs position front with
  | _ n ih =>
      cases cs with
      | nil =>
          rw [tokensFrom] at h
          cases front with
          | nil =>
              cases h
              exact ⟨[], [], .here _ _⟩
          | cons u front => simp at h
      | cons c rest =>
          rcases tokensFrom_cons_eq_ok h with
            ⟨hblank, hrest⟩ | ⟨token, used, after, later, hblank, rfl, hlong, hcut, hlater, hts⟩
          · rcases ih rest.length (by simp [← hn]) hrest rfl with ⟨before, last, hcuts⟩
            exact ⟨c :: before, last, hcuts.blank hblank⟩
          · cases front with
            | nil =>
                cases hts
                exact ⟨[], _, .here _ _⟩
            | cons u front =>
                cases hts
                rcases ih after.length (by simp [← hn]) hlater rfl with ⟨before, last, hcuts⟩
                exact ⟨c :: (used ++ before), last, hcuts.token hblank hlong hcut⟩

theorem filter_earlier {front back : List Located} {t : Located}
    (h : tokensFrom 0 position cs = .ok (front ++ t :: back)) :
    (front ++ t :: back).filter (fun u => u.position < t.position) = front := by
  rcases exists_cuts h with ⟨before, after, hcuts⟩
  have hback : forall u, u ∈ back -> t.position < u.position := by
    intro u hu
    rcases List.append_of_mem hu with ⟨between, last, rfl⟩
    have hsplit : front ++ t :: (between ++ u :: last) = (front ++ t :: between) ++ u :: last := by
      rw [List.append_assoc, List.cons_append]
    rw [hsplit] at h
    rcases exists_cuts h with ⟨_, _, hlater⟩
    exact hlater.earlier t (by simp)
  rw [List.filter_append, List.filter_cons_of_neg (by simp), List.filter_eq_self.2 ?_,
    List.filter_eq_nil_iff.2 ?_, List.append_nil]
  · intro u hu
    simpa using Nat.le_of_lt (hback u hu)
  · intro u hu
    simpa using hcuts.earlier u hu

/-!
# Completions
-/

def fillerChar : Token -> Char
  | .symbol .closeParen => ')'
  | .symbol .closeBracket => ']'
  | _ => '1'

def written (more : List Token) : List Char :=
  more.flatMap fun t => [fillerChar t, ' ']

theorem lexed_fillerChar {t : Token} (ht : t ∈ fillers) (rest : List Char) :
    lexed (fillerChar t :: ' ' :: rest) = (lexed (' ' :: rest)).map (t :: ·) := by
  simp only [fillers, List.mem_cons, List.not_mem_nil, or_false] at ht
  rcases ht with rfl | rfl | rfl
  · have hdigits : forall c, c ∈ ['1'] -> c.isDigit = true := by
      intro c hc
      rw [List.mem_singleton.1 hc]
      rfl
    have hone : Lexes (String.ofList ['1']) [.integer 1] :=
      lexes_digits nofun hdigits (by simp [digitLimit])
    have hdelimited : Delimited (' ' :: rest) := by
      show ' ' ∈ delimiters
      decide
    exact hone _ hdelimited
  · have hmem : (')', Symbol.closeParen) ∈ loneSymbols := by decide
    exact lexed_loneSymbol hmem _
  · have hmem : (']', Symbol.closeBracket) ∈ loneSymbols := by decide
    exact lexed_loneSymbol hmem _

theorem lexed_written {more : List Token} (h : forall t, t ∈ more -> t ∈ fillers) :
    lexed (written more) = some (more ++ [.finish]) := by
  induction more with
  | nil => rfl
  | cons t more ih =>
      rcases List.forall_mem_cons.1 h with ⟨ht, hmore⟩
      show lexed (fillerChar t :: ' ' :: written more) = _
      rw [lexed_fillerChar ht, lexed_blank (by decide), ih hmore]
      rfl

theorem lexed_of_blank (h : forall c, c ∈ cs -> isBlank c = true) : lexed cs = some [.finish] := by
  induction cs with
  | nil => rfl
  | cons c rest ih =>
      rcases List.forall_mem_cons.1 h with ⟨hc, hrest⟩
      rw [lexed_blank hc, ih hrest]

theorem ne_nil_of_isFragment {allowAssignment : Bool} {toks : List Token}
    (h : IsFragment allowAssignment toks) : toks ≠ [] := by
  rintro rfl
  rcases h with ⟨tree, h⟩
  generalize hall : [] ++ [Token.finish] = all at h
  cases h with
  | @expression _ body hd =>
      have hbody : [] = body := List.append_cancel_right hall
      have hpos := length_pos_of_derives hd
      rw [← hbody] at hpos
      exact Nat.lt_irrefl 0 hpos
  | assignment => cases hall

theorem exists_parse_of_lexed {allowAssignment : Bool} {text : String} {toks : List Token}
    (h : lexed text.toList = some (toks ++ [.finish]))
    (hfragment : IsFragment allowAssignment toks) :
    exists tree all, parse allowAssignment text = .ok tree ∧ tokenize text = .ok all ∧
      all.map Located.token = toks ++ [.finish] := by
  have hblank : isBlankText text = false := by
    rw [Bool.eq_false_iff]
    intro hblank
    rw [lexed_of_blank (List.all_eq_true.1 hblank)] at h
    have hnil : [] ++ [Token.finish] = toks ++ [.finish] := Option.some.inj h
    exact ne_nil_of_isFragment hfragment (List.append_cancel_right hnil).symm
  rcases hfragment with ⟨tree, hd⟩
  cases hall : tokenize text with
  | error e =>
      rw [tokenize] at hall
      rw [lexed, hall] at h
      cases h
  | ok all =>
      have htoks : all.map Located.token = toks ++ [.finish] := by
        rw [tokenize] at hall
        rw [lexed, hall] at h
        exact Option.some.inj h
      rw [← htoks] at hd
      exact ⟨tree, all, parse_eq_ok_iff.2 ⟨hblank, all, hall, fragment_complete hd⟩, rfl, htoks⟩

/-- What is before a token, if it can be completed, is the first part of a text that is parsed. -/
theorem exists_completed {allowAssignment : Bool} {source : String} {front back : List Located}
    {t : Located} (h : tokenize source = .ok (front ++ t :: back))
    (hbegins : Begins (IsFragment allowAssignment) (front.map Located.token)) :
    exists text tree all, parse allowAssignment text = .ok tree ∧ tokenize text = .ok all ∧
      front.map Located.token <+: all.map Located.token := by
  rcases hbegins with ⟨more, hmore, hfragment⟩
  rcases exists_cuts h with ⟨before, after, hcuts⟩
  have hlexed : lexed (String.ofList (before ++ ' ' :: written more)).toList =
      some ((front.map Located.token ++ more) ++ [.finish]) := by
    rw [String.toList_ofList, hcuts.kept, lexed_written hmore, List.append_assoc]
    rfl
  rcases exists_parse_of_lexed hlexed hfragment with ⟨tree, all, hparse, hall, htoks⟩
  refine ⟨_, tree, all, hparse, hall, ?_⟩
  rw [htoks, List.append_assoc]
  exact List.prefix_append ..

/-!
# Errors of fragments
-/

theorem position_le_length {source : String} {front back : List Located} {t : Located}
    (h : tokenize source = .ok (front ++ t :: back)) : t.position <= source.length := by
  rcases exists_cuts h with ⟨before, after, hcuts⟩
  rw [hcuts.place, ← String.length_toList, hcuts.text, List.length_append]
  omega

/-- A text that is not blank is parsed, or it is wrong at a place of it, unless an integer in it has
too many digits.  The tokens before that place are the first ones of some other text that is
parsed. -/
theorem parse_ok_or_stops {source : String} (allowAssignment : Bool)
    (hblank : isBlankText source = false) (hdigits : tokenize source ≠ .error .tooManyDigits) :
    (exists tree, parse allowAssignment source = .ok tree) ∨
      exists message position,
        parse allowAssignment source =
          .error (.user (.coded "E_EXPR_PARSE" message (some (caretHint source position))
            (some source))) ∧
        position <= source.length ∧
        forall ts, tokenize source = .ok ts ->
          exists text tree all, parse allowAssignment text = .ok tree ∧ tokenize text = .ok all ∧
            (ts.filter fun t => t.position < position).map Located.token <+:
              all.map Located.token := by
  have hparse : parse allowAssignment source =
      (parseTokens allowAssignment source).mapError (TokenError.toFailure source) := by
    rw [parse, hblank, if_neg Bool.false_ne_true]
  cases htokens : tokenize source with
  | error failure =>
      cases failure with
      | tooManyDigits => exact absurd htokens hdigits
      | malformed e =>
          right
          refine ⟨e.message, e.position, ?_, ?_, nofun⟩
          · rw [hparse, parseTokens, htokens]
            rfl
          · have hlt := position_of_malformed htokens
            rw [String.length_toList] at hlt
            omega
  | ok ts =>
      cases hread : fragment allowAssignment ts with
      | ok tree => exact Or.inl ⟨tree, parse_eq_ok_iff.2 ⟨hblank, ts, htokens, hread⟩⟩
      | error e =>
          right
          rcases fragment_viable (tokenize_endsOnce htokens) hread with
            ⟨front, t, back, rfl, he, hbegins⟩
          refine ⟨e.message, e.position, ?_, he ▸ position_le_length htokens, ?_⟩
          · rw [hparse, parseTokens, htokens, ok_bind, hread]
            rfl
          · intro ts hts
            cases hts
            rw [he, filter_earlier htokens]
            exact exists_completed htokens hbegins

/-- A call that is left open, with an operand missing at the end. -/
theorem parse_ok_or_stops_open :
    exists message position,
      parse true "f(x, [y, 2 *" =
        .error (.user (.coded "E_EXPR_PARSE" message (some (caretHint "f(x, [y, 2 *" position))
          (some "f(x, [y, 2 *"))) ∧
      position <= "f(x, [y, 2 *".length ∧
      forall ts, tokenize "f(x, [y, 2 *" = .ok ts ->
        exists text tree all, parse true text = .ok tree ∧ tokenize text = .ok all ∧
          (ts.filter fun t => t.position < position).map Located.token <+:
            all.map Located.token := by
  have hts : tokenize "f(x, [y, 2 *" =
      .ok [⟨.identifier "f", 0⟩, ⟨.symbol .openParen, 1⟩, ⟨.identifier "x", 2⟩, ⟨.symbol .comma, 3⟩,
        ⟨.symbol .openBracket, 5⟩, ⟨.identifier "y", 6⟩, ⟨.symbol .comma, 7⟩, ⟨.integer 2, 9⟩,
        ⟨.symbol .star, 11⟩, ⟨.finish, 12⟩] := rfl
  have hdigits : tokenize "f(x, [y, 2 *" ≠ .error .tooManyDigits := by
    rw [hts]
    nofun
  refine (parse_ok_or_stops true (by decide) hdigits).resolve_left ?_
  rintro ⟨tree, htree⟩
  rcases parse_eq_ok_iff.1 htree with ⟨_, ts, htokens, hread⟩
  cases hts.symm.trans htokens
  cases hread

end Grammar
end Wrangle
