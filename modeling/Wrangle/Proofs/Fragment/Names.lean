import Wrangle.Proofs.Fragment.Prefixes
import Wrangle.Proofs.Fragment.Rereading
import Wrangle.Proofs.Fragment.RoundTrip

/-!
# Names and their texts

A text may be put between backticks to make it the target of an assignment.  Where the fragment is
accepted, all of the text is inside one pair of backticks, since a quoted name stands before an
assignment sign at the start of a fragment only.  Still it is another name if there are
backslashes in it.

A name that is printed is the name itself, or the name between backticks.  It is read back as one
token exactly for two kinds of names: words of the basic alphabet that are no keywords, and names
that are not plain and have no backslash in them.
-/

namespace Wrangle

open Text

/-!
# The last quote of a text
-/

theorem exists_middle {cs tail front rest : List Char} {quote : Char}
    (h : cs ++ backtick :: tail = front ++ quote :: rest) (hquote : isQuote quote = true)
    (htail : IsUnquoted tail) :
    (exists middle, cs = front ++ quote :: middle ∧ rest = middle ++ backtick :: tail) ∨
      (front = cs ∧ quote = backtick ∧ rest = tail) := by
  rcases List.append_eq_append_iff.1 h with ⟨more, hfront, hrest⟩ | ⟨more, hcs, hrest⟩
  · cases more with
    | nil =>
        cases hrest
        right
        exact ⟨hfront.trans (List.append_nil _), rfl, rfl⟩
    | cons d more =>
        cases hrest
        have hnone := htail quote (List.mem_append_right _ List.mem_cons_self)
        rw [hquote] at hnone
        cases hnone
  · cases more with
    | nil =>
        cases hrest
        right
        exact ⟨(hcs.trans (List.append_nil _)).symm, rfl, rfl⟩
    | cons d more =>
        cases hrest
        exact Or.inl ⟨more, hcs, rfl⟩

theorem exists_middle_of_unquoted {cs tail used rest : List Char}
    (h : cs ++ backtick :: tail = used ++ rest) (hused : IsUnquoted used) :
    exists middle, cs = used ++ middle ∧ rest = middle ++ backtick :: tail := by
  rcases List.append_eq_append_iff.1 h with ⟨more, hfront, hrest⟩ | ⟨more, hcs, hrest⟩
  · cases more with
    | nil => exact ⟨[], by simpa using hfront.symm, hrest.symm⟩
    | cons d more =>
        cases hrest
        have hplain := hused backtick (by rw [hfront]; simp)
        cases hplain
  · exact ⟨more, hcs, hrest⟩

theorem lexed_cons_eq_some {c : Char} {cs : List Char} {toks : List Token}
    (hblank : isBlank c = false) (h : lexed (c :: cs) = some toks) :
    exists token size later, takeToken c cs = .ok (token, size) ∧
      lexed (cs.drop (size - 1)) = some later ∧ toks = token :: later := by
  rw [lexed, tokensFrom, hblank, if_neg Bool.false_ne_true] at h
  split at h
  · cases h
  · rename_i token size htoken
    split at h
    · cases h
    · have hmap := (tokensOnly_cons ⟨token, 0⟩ (tokensFrom (size - 1) (0 + 1) cs)).symm.trans h
      rw [tokensOnly_tokensFrom] at hmap
      rcases Option.map_eq_some_iff.1 hmap with ⟨later, hlater, rfl⟩
      exact ⟨token, size, later, htoken, hlater, rfl⟩

theorem lexed_quote_eq_some {quote : Char} {cs : List Char} {toks : List Token}
    (hquote : isQuote quote = true) (h : lexed (quote :: cs) = some toks) :
    exists taken inside rest later, cs = inside ++ quote :: rest ∧
      (taken = inside -> quote ∉ inside ∧ backslash ∉ inside) ∧
      lexed rest = some later ∧ toks = quotedToken quote taken :: later := by
  have hblank : isBlank quote = false := by
    simp only [isQuote, Bool.or_eq_true, beq_iff_eq] at hquote
    rcases hquote with (rfl | rfl) | rfl
    all_goals decide
  rcases lexed_cons_eq_some hblank h with ⟨token, size, later, htoken, hlater, rfl⟩
  unfold takeToken at htoken
  dsimp only at htoken
  rw [if_pos hquote] at htoken
  split at htoken
  · rename_i taken n hquoted
    cases htoken
    rcases takeQuoted_cut (ne_backslash_of_isQuote hquote) hquoted with
      ⟨inside, rest, rfl, rfl, _, hsame, _⟩
    refine ⟨taken, inside, rest, later, rfl, fun heq => (hsame (congrArg _ heq)).2, ?_, rfl⟩
    rw [← hlater]
    have hdrop : (inside ++ quote :: rest).drop (inside.length + 1) = rest := by
      rw [← List.singleton_append, ← List.append_assoc]
      exact List.drop_left' (by simp)
    rw [Nat.add_sub_cancel, hdrop]
  · cases htoken

/-- Where a text is read whose last quote is a backtick, it is the end of a quoted name. -/
theorem exists_quotedName_before {cs tail : List Char} (htail : IsUnquoted tail)
    {toks : List Token} (h : lexed (cs ++ backtick :: tail) = some toks) :
    exists front name last, toks = front ++ .quotedName name :: last ∧
      lexed tail = some last := by
  induction hsize : cs.length using Nat.strong_induction_on generalizing cs toks with
  | _ size ih =>
      cases cs with
      | nil =>
          rcases lexed_quote_eq_some (by decide) h with ⟨_, inside, rest, _, htailEq, _⟩
          have hnone := htail backtick (by rw [htailEq]; simp)
          cases hnone
      | cons c cs =>
          rw [List.cons_append] at h
          cases hblank : isBlank c with
          | true =>
              rw [lexed_blank hblank] at h
              exact ih _ (hsize ▸ Nat.lt_succ_self _) h rfl
          | false =>
              cases hquote : isQuote c with
              | true =>
                  rcases lexed_quote_eq_some hquote h with
                    ⟨taken, inside, rest, later, hcs, _, hlater, rfl⟩
                  rcases exists_middle hcs hquote htail with
                    ⟨middle, rfl, rfl⟩ | ⟨rfl, rfl, rfl⟩
                  · have hlt : middle.length < size := by
                      rw [← hsize]
                      simp only [List.length_cons, List.length_append]
                      omega
                    rcases ih _ hlt hlater rfl with ⟨front, name, last, rfl, hlast⟩
                    exact ⟨_ :: front, name, last, rfl, hlast⟩
                  · exact ⟨[], _, later, rfl, hlater⟩
              | false =>
                  rcases lexed_cons_eq_some hblank h with
                    ⟨token, n, later, htoken, hlater, rfl⟩
                  rcases takeToken_cut htoken with ⟨used, rest, hcs, rfl, hused, _⟩
                  rw [hcs, Nat.add_sub_cancel, List.drop_left] at hlater
                  rcases exists_middle_of_unquoted hcs (hused hquote) with ⟨middle, rfl, rfl⟩
                  have hlt : middle.length < size := by
                    rw [← hsize]
                    simp only [List.length_cons, List.length_append]
                    omega
                  rcases ih _ hlt hlater rfl with ⟨front, name, last, rfl, hlast⟩
                  exact ⟨_ :: front, name, last, rfl, hlast⟩

/-!
# Assignment signs
-/

namespace Grammar

open Number Wrangle.Parser

/-- A token may stand before another one, as far as assignment signs are concerned. -/
def Binds (front back : Token) : Prop :=
  back = .symbol .assign -> exists name, front = .identifier name

structure IsBound (toks : List Token) : Prop where
  chain : toks.IsChain Binds
  first : toks.head? ≠ some (.symbol .assign)

namespace IsBound

variable {front back toks : List Token} {t : Token}

theorem nil : IsBound [] where
  chain := List.isChain_nil
  first := nofun

theorem append (hfront : IsBound front) (hback : IsBound back) : IsBound (front ++ back) where
  chain := by
    refine List.isChain_append.2 ⟨hfront.chain, hback.chain, ?_⟩
    intro x _ y hy hassign
    rw [hassign] at hy
    exact absurd hy hback.first
  first := by
    cases front with
    | nil => exact hback.first
    | cons t rest => exact hfront.first

theorem single (ht : t ≠ .symbol .assign) : IsBound [t] where
  chain := List.isChain_singleton t
  first := by simpa using ht

theorem cons (ht : t ≠ .symbol .assign) (h : IsBound toks) : IsBound (t :: toks) :=
  (single ht).append h

theorem before (ht : t ≠ .symbol .assign) (h : IsBound toks) : IsBound (toks ++ [t]) :=
  h.append (single ht)

theorem named {name : String} (h : IsBound toks) :
    IsBound (.identifier name :: .symbol .assign :: toks) where
  chain := by
    refine List.isChain_cons_cons.2 ⟨fun _ => ⟨name, rfl⟩, ?_⟩
    cases toks with
    | nil => exact List.isChain_singleton _
    | cons t rest =>
        refine List.isChain_cons_cons.2 ⟨fun hassign => ?_, h.chain⟩
        exact absurd (congrArg some hassign) h.first
  first := nofun

end IsBound

theorem bound_of_derives {toks : List Token} {phrase : Phrase} (h : Derives toks phrase) :
    IsBound toks := by
  induction h with
  | tighter _ _ ih => exact ih
  | joined hsign _ _ ihfront ihback =>
      refine ihfront.append (ihback.cons ?_)
      rintro rfl
      cases hsign
  | inverted hsign _ ih =>
      refine ih.cons ?_
      rintro rfl
      revert hsign
      decide
  | negativeInt _ ih => exact ih.cons (by nofun)
  | negativeFloat _ ih => exact ih.cons (by nofun)
  | negative _ _ ih => exact ih.cons (by nofun)
  | positive _ ih => exact ih.cons (by nofun)
  | call _ ih => exact ((ih.before (by nofun)).cons (by nofun)).cons (by nofun)
  | marked _ ih => exact ih.cons (by nofun)
  | leaf hleaf =>
      refine .single ?_
      rintro rfl
      cases hleaf
  | enclosed _ ih => exact (ih.before (by nofun)).cons (by nofun)
  | emptyTuple => exact (IsBound.single (by nofun)).cons (by nofun)
  | tuple _ _ ihfront ihback =>
      exact (ihfront.append ((ihback.before (by nofun)).cons (by nofun))).cons (by nofun)
  | vector _ ih => exact (ih.before (by nofun)).cons (by nofun)
  | noItems => exact .nil
  | lastItem _ ih => exact ih
  | moreItems _ _ ihfront ihback => exact ihfront.append (ihback.cons (by nofun))
  | onlyNamed _ ih => exact ih
  | lastArgument _ ih => exact ih
  | moreArguments _ _ ihfront ihback => exact ihfront.append (ihback.cons (by nofun))
  | noNamed => exact .nil
  | lastNamed _ ih => exact ih.named
  | moreNamed _ _ ihfront ihback => exact (ihfront.append (ihback.cons (by nofun))).named

theorem no_quotedName_of_derives {toks front last : List Token} {tree : Node} {name : String}
    (h : Derives toks (.node .clause tree))
    (htoks : toks ++ [.finish] = front ++ .quotedName name :: .symbol .assign :: last) : False := by
  have hchain := ((bound_of_derives h).before (t := .finish) nofun).chain
  rw [htoks] at hchain
  rcases (List.isChain_cons_cons.1 (List.isChain_append.1 hchain).2.1).1 rfl with ⟨_, heq⟩
  cases heq

/-- A fragment has a quoted name before an assignment sign at its start only. -/
theorem no_quotedName_of_fragment {allowAssignment : Bool} {t : Token} {front last : List Token}
    {tree : Node} {name : String}
    (h : DerivesFragment allowAssignment
      (t :: (front ++ .quotedName name :: .symbol .assign :: last)) tree) : False := by
  generalize htoks : t :: (front ++ .quotedName name :: .symbol .assign :: last) = toks at h
  cases h with
  | @expression _ toks hd =>
      have hshape : toks ++ [.finish] =
          (t :: front) ++ .quotedName name :: .symbol .assign :: last := htoks.symm
      exact no_quotedName_of_derives hd hshape
  | assignment _ _ hd =>
      cases front with
      | nil => cases htoks
      | cons f front =>
          rcases List.cons.inj (List.cons.inj htoks).2 with ⟨_, hrest⟩
          exact no_quotedName_of_derives hd hrest.symm

/-- An assignment to a text between backticks, where it is accepted, is one to a single name.  This
is the text itself only if there are neither backticks nor backslashes in it. -/
theorem assignment_of_parse {name tail : String} {toks : List Token} {value tree : Node}
    (htail : IsUnquoted tail.toList)
    (htoks : lexed tail.toList = some (.symbol .assign :: (toks ++ [.finish])))
    (hvalue : Derives toks (.node .clause value))
    (h : parse true ("\x60" ++ name ++ "\x60" ++ tail) = .ok tree) :
    exists target, tree = .assignment target value ∧
      (target = name -> backtick ∉ name.toList ∧ backslash ∉ name.toList) := by
  rcases parse_eq_ok_iff.1 h with ⟨_, ts, hts, htree⟩
  have hlexed : lexed (backtick :: (name.toList ++ backtick :: tail.toList)) =
      some (ts.map Located.token) := by
    have htext : ("\x60" ++ name ++ "\x60" ++ tail).toList =
        backtick :: (name.toList ++ backtick :: tail.toList) := by
      simp only [String.toList_append, List.append_assoc]
      rfl
    rw [← htext, lexed]
    exact congrArg tokensOnly hts
  have hderives := fragment_sound (tokenize_endsOnce hts) htree
  rcases lexed_quote_eq_some (by decide) hlexed with
    ⟨taken, inside, rest, later, hcs, hsame, hlater, hall⟩
  rcases exists_middle hcs (by decide) htail with ⟨middle, hname, rfl⟩ | ⟨rfl, _, rfl⟩
  · -- the name ends inside of the text, and another one at the end of it
    rcases exists_quotedName_before htail hlater with ⟨front, other, last, rfl, hlast⟩
    rw [htoks] at hlast
    cases hlast
    rw [hall] at hderives
    exact (no_quotedName_of_fragment hderives).elim
  · rw [htoks] at hlater
    cases hlater
    have hassignment : DerivesFragment true (ts.map Located.token)
        (.assignment (String.ofList taken) value) := by
      rw [hall]
      exact .assignment rfl rfl hvalue
    cases htree.symm.trans (fragment_complete hassignment)
    refine ⟨_, rfl, fun heq => hsame ?_⟩
    rw [← heq, String.toList_ofList]

/-!
# Plain names
-/

theorem nameToken_ne_quotedName (cs : List Char) (name : String) :
    nameToken cs ≠ .quotedName name := by
  unfold nameToken
  split
  · nofun
  · nofun

theorem takeNumber_ne_quotedName {cs : List Char} {name : String} {size : Nat} :
    takeNumber cs ≠ some (.quotedName name, size) := by
  intro h
  unfold takeNumber at h
  split at h
  · cases h
  · dsimp only at h
    split at h
    · cases h
    · cases h

theorem isQuote_of_quotedName {c : Char} {rest : List Char} {name : String} {size : Nat}
    (h : takeToken c rest = .ok (.quotedName name, size)) : isQuote c = true := by
  cases hquote : isQuote c with
  | true => rfl
  | false =>
      unfold takeToken at h
      dsimp only at h
      rw [hquote, if_neg Bool.false_ne_true] at h
      split at h
      · cases h
      · split at h
        · cases h
        · split at h
          · rename_i hnumber
            cases h
            exact absurd hnumber takeNumber_ne_quotedName
          · split at h
            · cases h
            · split at h
              · rename_i hname
                cases h
                rw [takeName] at hname
                split at hname
                · have htoken := (Prod.mk.inj (Option.some.inj hname)).1
                  exact absurd htoken (nameToken_ne_quotedName _ name)
                · cases hname
              · cases h

theorem ne_quotedName_of_unquoted {skip position : Nat} {cs : List Char} {ts : List Located}
    (hcs : IsUnquoted cs) (h : tokensFrom skip position cs = .ok ts) {t : Located} (ht : t ∈ ts)
    (name : String) : t.token ≠ .quotedName name := by
  induction cs generalizing skip position ts with
  | nil =>
      rw [tokensFrom] at h
      cases h
      rw [List.mem_singleton.1 ht]
      intro hname
      cases hname
  | cons c rest ih =>
      have hrest : IsUnquoted rest := fun d hd => hcs d (List.mem_cons_of_mem c hd)
      cases skip with
      | succ skip => exact ih hrest h ht
      | zero =>
          rw [tokensFrom] at h
          split at h
          · exact ih hrest h ht
          · split at h
            · cases h
            · rename_i token size htoken
              split at h
              · cases h
              · split at h
                · cases h
                · rename_i later hlater
                  cases h
                  rcases List.mem_cons.1 ht with rfl | hmem
                  · rintro rfl
                    have hquote := isQuote_of_quotedName htoken
                    rw [hcs c List.mem_cons_self] at hquote
                    cases hquote
                  · exact ih hrest hlater hmem

theorem unquoted_of_plain {name : String} (h : isPlainName name = true) :
    IsUnquoted name.toList := by
  have hquotes : forall c, isQuote c = true -> isNameStart c = false ∧ isNameContinue c = false := by
    intro c hc
    simp only [isQuote, Bool.or_eq_true, beq_iff_eq] at hc
    rcases hc with (rfl | rfl) | rfl
    all_goals decide +kernel
  rw [isPlainName] at h
  cases hcs : name.toList with
  | nil => exact IsUnquoted.nil
  | cons c rest =>
      rw [hcs] at h
      rcases Bool.and_eq_true_iff.1 h with ⟨hstart, hall⟩
      refine IsUnquoted.cons ?_ (IsUnquoted.of_test (fun d hd => (hquotes d hd).2) ?_)
      · rw [Bool.eq_false_iff]
        intro hquote
        rw [(hquotes c hquote).1] at hstart
        cases hstart
      · exact List.all_eq_true.1 hall

theorem basic_of_plain {name : String} (hplain : isPlainName name = true)
    (hword : IsWord name.toList) : isBasicName name = true := by
  have hpoint : isNameStart '.' = false ∧ isNameContinue '.' = false := by
    decide +kernel
  rw [isPlainName] at hplain
  rw [isBasicName]
  cases hcs : name.toList with
  | nil =>
      rw [hcs] at hword
      cases hword
  | cons c rest =>
      rw [hcs] at hplain hword
      rcases Bool.and_eq_true_iff.1 hplain with ⟨hstart, hall⟩
      rcases hword with ⟨hhead, htail, _⟩
      rw [Bool.and_eq_true, List.all_eq_true]
      constructor
      · rw [isNameHead, Bool.or_eq_true] at hhead
        rcases hhead with hbasic | hdot
        · exact hbasic
        · rw [beq_iff_eq.1 hdot, hpoint.1] at hstart
          cases hstart
      · intro d hd
        have hdtail := htail d hd
        rw [isNameTail, Bool.or_eq_true] at hdtail
        rcases hdtail with hbasic | hdot
        · exact hbasic
        · have hcontinue := List.all_eq_true.1 hall d hd
          rw [beq_iff_eq.1 hdot, hpoint.2] at hcontinue
          cases hcontinue

/-!
# Names between backticks
-/

theorem takeQuoted_name_cons {c : Char} (hc : c ≠ backslash) (cs : List Char) :
    exists n, takeQuoted backtick (backtickedText (c :: cs) ++ [backtick]) =
      (takeQuoted backtick (backtickedText cs ++ [backtick])).map fun r => (c :: r.1, r.2 + n) := by
  rw [backtickedText_cons]
  by_cases hquote : c = backtick
  · refine ⟨2, ?_⟩
    subst hquote
    rw [if_pos (beq_self_eq_true backtick), List.append_assoc, List.cons_append,
      List.singleton_append, takeQuoted, if_pos (beq_self_eq_true backslash)]
  · refine ⟨1, ?_⟩
    have hne : backtickedText cs ++ [backtick] ≠ [] := by simp
    rw [if_neg (by simpa using hquote), List.append_assoc, List.singleton_append,
      takeQuoted_cons hc hquote hne]

/-- What is taken from between the backticks is no longer than the name, and shorter if there is a
backslash in the name: it takes the next character with it. -/
theorem length_taken {cs taken : List Char} {size : Nat}
    (h : takeQuoted backtick (backtickedText cs ++ [backtick]) = some (taken, size)) :
    taken.length ≤ cs.length ∧ (backslash ∈ cs -> taken.length < cs.length) := by
  have hnone : takeQuoted backtick (backtickedText [] ++ [backtick]) = some ([], 1) :=
    takeQuoted_end (by decide) []
  induction cs using keepsBackticks.induct generalizing taken size with
  | case1 =>
      cases hnone.symm.trans h
      exact ⟨Nat.le_refl _, fun hmem => absurd hmem List.not_mem_nil⟩
  | case2 c =>
      by_cases hc : c = backslash
      · subst hc
        cases h
      · rcases takeQuoted_name_cons hc [] with ⟨n, htaken⟩
        rw [htaken, hnone] at h
        cases h
        refine ⟨Nat.le_refl _, ?_⟩
        intro hmem
        exact absurd (List.mem_singleton.1 hmem).symm hc
  | case3 c d rest hslash ih =>
      have hc := beq_iff_eq.1 hslash
      subst hc
      have hplain : (backslash == backtick) = false := rfl
      by_cases hd : d = backtick
      · -- the backslash takes the one before the backtick, which is the end then
        subst hd
        have htext : backtickedText (backslash :: backtick :: rest) =
            backslash :: backslash :: backtick :: backtickedText rest := by
          rw [backtickedText_cons, backtickedText_cons, hplain, beq_self_eq_true backtick]
          rfl
        rw [htext, List.cons_append, List.cons_append, List.cons_append, takeQuoted,
          if_pos hslash, takeQuoted_end (by decide)] at h
        cases h
        simp
      · have htext : backtickedText (backslash :: d :: rest) =
            backslash :: d :: backtickedText rest := by
          rw [backtickedText_cons, backtickedText_cons, hplain, beq_eq_false_iff_ne.2 hd]
          rfl
        rw [htext, List.cons_append, List.cons_append, takeQuoted, if_pos hslash] at h
        rcases Option.map_eq_some_iff.1 h with ⟨⟨inner, m⟩, hinner, heq⟩
        cases heq
        have hle := (ih hinner).1
        simp only [List.length_cons]
        omega
  | case4 c d rest hslash ih =>
      have hc : c ≠ backslash := by simpa using hslash
      rcases takeQuoted_name_cons hc (d :: rest) with ⟨n, htaken⟩
      rw [htaken] at h
      rcases Option.map_eq_some_iff.1 h with ⟨⟨inner, m⟩, hinner, heq⟩
      cases heq
      rcases ih hinner with ⟨hle, hlt⟩
      refine ⟨Nat.succ_le_succ hle, ?_⟩
      intro hmem
      rcases List.mem_cons.1 hmem with hsame | hlater
      · exact absurd hsame.symm hc
      · exact Nat.succ_lt_succ (hlt hlater)

theorem exists_taken {cs : List Char} {token : Token} {size : Nat}
    (h : takeToken backtick cs = .ok (token, size)) :
    exists taken n, takeQuoted backtick cs = some (taken, n) ∧
      token = .quotedName (String.ofList taken) := by
  have hquote : isQuote backtick = true := by decide
  unfold takeToken at h
  dsimp only at h
  rw [if_pos hquote] at h
  split at h
  · rename_i taken n htaken
    rw [quotedToken, if_pos (beq_self_eq_true backtick)] at h
    cases h
    exact ⟨taken, n, htaken, rfl⟩
  · cases h

/-!
# All names
-/

/-- The text of a name is read as a single token, the name as it is or between backticks. -/
def IsReadBack (name : String) : Prop :=
  exists ts token, tokenize (nameText name) = .ok ts ∧ ts.map Located.token = [token, .finish] ∧
    (token = .identifier name ∨ token = .quotedName name)

/-- A name is read back exactly if it is a word of the basic alphabet that is no keyword, or if it
is put between backticks and has no backslash. -/
theorem isReadBack_iff (name : String) :
    IsReadBack name <-> (isBasicName name = true ∧ keywordOf? name = none) ∨
      (isPlainName name = false ∧ backslash ∉ name.toList) := by
  constructor
  · rintro ⟨ts, token, hts, htokens, hname⟩
    cases hplain : isPlainName name with
    | true =>
        rw [nameText, hplain, if_pos rfl] at hts
        have hmem : token ∈ ts.map Located.token := by
          rw [htokens]
          exact List.mem_cons_self
        rcases List.mem_map.1 hmem with ⟨t, ht, rfl⟩
        rcases hname with hword | hquoted
        · have hlegible := legible_of_tokensFrom hts t ht
          rw [hword] at hlegible
          exact Or.inl ⟨basic_of_plain hplain hlegible.1, hlegible.2⟩
        · exact absurd hquoted (ne_quotedName_of_unquoted (unquoted_of_plain hplain) hts ht name)
    | false =>
        have hlexed : lexed (backtick :: (backtickedText name.toList ++ [backtick])) =
            some [token, .finish] := by
          have htext : (nameText name).toList =
              backtick :: (backtickedText name.toList ++ [backtick]) := by
            rw [nameText, hplain, if_neg Bool.false_ne_true, String.toList_ofList]
            rfl
          rw [lexed, ← htext, ← htokens]
          exact congrArg tokensOnly hts
        rcases lexed_cons_eq_some (by decide) hlexed with ⟨_, size, later, htoken, _, heq⟩
        cases heq
        rcases exists_taken htoken with ⟨taken, n, htaken, rfl⟩
        rcases hname with hword | hquoted
        · cases hword
        · cases hquoted
          rw [String.toList_ofList] at htaken
          refine Or.inr ⟨rfl, ?_⟩
          rw [String.toList_ofList]
          intro hslash
          exact absurd ((length_taken htaken).2 hslash) (Nat.lt_irrefl _)
  · intro h
    rcases lexes_name h with ⟨token, htoken, hlexes, _⟩
    rcases tokenize_of_lexes hlexes with ⟨ts, hts, htokens⟩
    refine ⟨ts, token, hts, htokens, ?_⟩
    cases token with
    | identifier other =>
        cases htoken.1
        exact Or.inl rfl
    | quotedName other =>
        cases htoken.1
        exact Or.inr rfl
    | text other => cases htoken.1
    | _ => cases htoken.2

/-- A keyword, a letter of another alphabet, and a backslash between backticks. -/
theorem isReadBack_iff_failing :
    ¬ IsReadBack "in" ∧ ¬ IsReadBack "\u00e9" ∧ ¬ IsReadBack "a \\ b" := by
  refine ⟨?_, ?_, ?_⟩
  · rw [isReadBack_iff]
    decide +kernel
  · rw [isReadBack_iff]
    decide +kernel
  · rw [isReadBack_iff]
    decide +kernel

end Grammar
end Wrangle
