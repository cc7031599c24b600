import Wrangle.Proofs.Fragment.Lexing

/-!
# Texts that are cut off

Where a token is read depends on the characters that it takes, and on that it takes no more of
them.  So the tokens at the front of a text stay the same when the text is cut off behind them, as
long as a blank follows.
-/

namespace Wrangle

open Text Number

/-- A text that goes on like another one up to some place, and with a blank from there. -/
inductive IsCut : List Char -> List Char -> Prop where
  | blank {cs tail : List Char} : IsCut cs (' ' :: tail)
  | next {c : Char} {cs other : List Char} : IsCut cs other -> IsCut (c :: cs) (c :: other)

namespace IsCut

variable {cs back other : List Char}

theorem append (front : List Char) (h : IsCut back other) :
    IsCut (front ++ back) (front ++ other) := by
  induction front with
  | nil => exact h
  | cons c rest ih => exact ih.next

theorem takeWhile_eq_nil {test : Char -> Bool} (hblank : test ' ' = false) (h : IsCut back other)
    (hstop : back.takeWhile test = []) : other.takeWhile test = [] := by
  cases h with
  | blank => rw [List.takeWhile_cons, hblank, if_neg Bool.false_ne_true]
  | next h =>
      rw [List.takeWhile_eq_nil_iff] at hstop ⊢
      intro hlength
      exact hstop (Nat.succ_pos _)

theorem span {test : Char -> Bool} (hblank : test ' ' = false)
    (h : IsCut (cs.dropWhile test) other) :
    (cs.takeWhile test ++ other).takeWhile test = cs.takeWhile test ∧
      (cs.takeWhile test ++ other).dropWhile test = other := by
  have hall : forall c, c ∈ cs.takeWhile test -> test c = true := fun c hc =>
    List.mem_takeWhile_imp hc
  have hstop : (cs.dropWhile test).takeWhile test = [] := by
    rw [List.takeWhile_eq_nil_iff]
    intro hlength
    have hne : cs.dropWhile test ≠ [] := List.ne_nil_of_length_pos hlength
    simpa [List.head_eq_getElem] using List.head_dropWhile_not test hne
  have hnone := h.takeWhile_eq_nil hblank hstop
  have hdrop : other.dropWhile test = other := by
    have hall : other.takeWhile test ++ other.dropWhile test = other :=
      List.takeWhile_append_dropWhile
    rw [hnone] at hall
    exact hall
  rw [List.takeWhile_append_of_pos hall, List.dropWhile_append_of_pos hall, hnone, hdrop,
    List.append_nil]
  exact ⟨rfl, rfl⟩

end IsCut

/-!
# Numbers
-/

def IsUnquoted (cs : List Char) : Prop :=
  forall c, c ∈ cs -> isQuote c = false

namespace IsUnquoted

variable {cs ds : List Char}

theorem nil : IsUnquoted [] := fun c hc => by cases hc

theorem append (hcs : IsUnquoted cs) (hds : IsUnquoted ds) : IsUnquoted (cs ++ ds) := by
  intro c hc
  rcases List.mem_append.1 hc with hc | hc
  · exact hcs c hc
  · exact hds c hc

theorem cons {c : Char} (hc : isQuote c = false) (hcs : IsUnquoted cs) : IsUnquoted (c :: cs) :=
  List.forall_mem_cons.2 ⟨hc, hcs⟩

theorem of_test {test : Char -> Bool} (hquotes : forall c, isQuote c = true -> test c = false)
    (h : forall c, c ∈ cs -> test c = true) : IsUnquoted cs := by
  intro c hc
  rw [Bool.eq_false_iff]
  intro hquote
  have htest := h c hc
  rw [hquotes c hquote] at htest
  cases htest

end IsUnquoted

theorem quote_ends {c : Char} (h : isQuote c = true) :
    Text.isDigit c = false ∧ isNameTail c = false := by
  simp only [isQuote, Bool.or_eq_true, beq_iff_eq] at h
  rcases h with (rfl | rfl) | rfl
  all_goals decide

theorem takeDigits_cut {cs other : List Char} (h : IsCut (takeDigits cs).2 other) :
    takeDigits ((takeDigits cs).1 ++ other) = ((takeDigits cs).1, other) := by
  rcases h.span (by decide) with ⟨htake, hdrop⟩
  exact Prod.ext htake hdrop

theorem takeDigits_append (cs : List Char) : (takeDigits cs).1 ++ (takeDigits cs).2 = cs :=
  List.takeWhile_append_dropWhile

theorem takeDigits_unquoted (cs : List Char) : IsUnquoted (takeDigits cs).1 :=
  .of_test (fun _ h => (quote_ends h).1) fun _ hc => List.mem_takeWhile_imp hc

theorem splitSign_before {cs : List Char} {d : Char} {more : List Char}
    (h : (splitSign cs).2 = d :: more) : exists sign, cs = sign ++ d :: more ∧ IsUnquoted sign ∧
      forall other, splitSign (sign ++ d :: other) = ((splitSign cs).1, d :: other) := by
  unfold splitSign at h ⊢
  split at h
  · dsimp only at h
    subst h
    exact ⟨['-'], rfl, .cons (by decide) .nil, fun _ => rfl⟩
  · dsimp only at h
    subst h
    exact ⟨['+'], rfl, .cons (by decide) .nil, fun _ => rfl⟩
  · rename_i hminus hplus
    subst h
    refine ⟨[], rfl, .nil, fun other => ?_⟩
    rw [List.nil_append]
    split
    · rename_i heq
      cases heq
      exact absurd rfl (hminus more)
    · rename_i heq
      cases heq
      exact absurd rfl (hplus more)
    · rfl

theorem splitSign_cut {cs other : List Char} (h : IsCut cs other) :
    IsCut (splitSign cs).2 (splitSign other).2 := by
  cases h with
  | blank => exact .blank
  | @next c cs other h =>
      unfold splitSign
      split
      · rename_i heq
        cases heq
        exact h
      · rename_i heq
        cases heq
        exact h
      · rename_i hminus hplus
        split
        · rename_i heq
          cases heq
          exact absurd rfl (hminus cs)
        · rename_i heq
          cases heq
          exact absurd rfl (hplus cs)
        · exact h.next

theorem takeExponent_none {c : Char} {cs other : List Char}
    (hdigits : (takeDigits (splitSign cs).2).1 = []) (h : IsCut (c :: cs) other) :
    takeExponent other = (0, other) := by
  cases h with
  | blank => rfl
  | @next _ _ other h =>
      have hnone : (takeDigits (splitSign other).2).1 = [] :=
        (splitSign_cut h).takeWhile_eq_nil (by decide) hdigits
      unfold takeExponent
      dsimp only
      rw [hnone, List.isEmpty_nil, if_pos rfl, ite_self]

theorem takeExponent_cut (cs : List Char) :
    exists used, cs = used ++ (takeExponent cs).2 ∧ IsUnquoted used ∧
      forall other, IsCut (takeExponent cs).2 other ->
        takeExponent (used ++ other) = ((takeExponent cs).1, other) := by
  cases cs with
  | nil =>
      refine ⟨[], rfl, .nil, fun other hother => ?_⟩
      cases hother
      rfl
  | cons c cs =>
      by_cases hmark : (c == 'e' || c == 'E') = true
      · cases hdigits : (takeDigits (splitSign cs).2).1 with
        | nil =>
            have hsame : takeExponent (c :: cs) = (0, c :: cs) := by
              unfold takeExponent
              dsimp only
              rw [hdigits, List.isEmpty_nil, if_pos rfl, ite_self]
            rw [hsame]
            exact ⟨[], rfl, .nil, fun other hother => takeExponent_none hdigits hother⟩
        | cons d digits =>
            have hread : takeExponent (c :: cs) =
                (signed (splitSign cs).1 (digitsValue (d :: digits)),
                  (takeDigits (splitSign cs).2).2) := by
              unfold takeExponent
              dsimp only
              rw [if_pos hmark, hdigits]
              rfl
            have htail : (splitSign cs).2 =
                d :: (digits ++ (takeDigits (splitSign cs).2).2) := by
              rw [← List.cons_append, ← hdigits]
              exact (takeDigits_append _).symm
            rcases splitSign_before htail with ⟨sign, hcs, hsign, hsplit⟩
            have hunquoted := takeDigits_unquoted (splitSign cs).2
            rw [hdigits] at hunquoted
            refine ⟨c :: (sign ++ d :: digits), ?_, ?_, ?_⟩
            · rw [hread, List.cons_append, List.append_assoc, List.cons_append]
              exact congrArg (c :: ·) hcs
            · refine .cons ?_ (hsign.append hunquoted)
              rcases Bool.or_eq_true_iff.1 hmark with hmark | hmark
              · rw [beq_iff_eq.1 hmark]
                decide
              · rw [beq_iff_eq.1 hmark]
                decide
            · intro other hother
              rw [hread] at hother ⊢
              have hdigitsOf := takeDigits_cut hother
              rw [hdigits] at hdigitsOf
              rw [List.cons_append, List.append_assoc, List.cons_append]
              unfold takeExponent
              dsimp only
              rw [if_pos hmark, hsplit]
              dsimp only
              rw [← List.cons_append, hdigitsOf]
              rfl
      · have hsame : forall more, takeExponent (c :: more) = (0, c :: more) := fun more => by
          unfold takeExponent
          dsimp only
          rw [if_neg hmark]
        rw [hsame]
        refine ⟨[], rfl, .nil, fun other hother => ?_⟩
        cases hother with
        | blank => rfl
        | next => exact hsame _

theorem takeDecimal_point {cs whole after fraction last : List Char}
    (hcs : takeDigits cs = (whole, '.' :: after)) (hafter : takeDigits after = (fraction, last)) :
    takeDecimal cs = if (whole.isEmpty && fraction.isEmpty) = true then none
      else some (⟨digitsValue (whole ++ fraction),
        (takeExponent last).1 - Int.ofNat fraction.length⟩, (takeExponent last).2) := by
  unfold takeDecimal
  rw [hcs]
  dsimp only
  split
  · rename_i heq
    cases heq
    rw [hafter]
    dsimp only
    by_cases hnone : (whole.isEmpty && fraction.isEmpty) = true
    · have hwhole := (Bool.and_eq_true_iff.1 hnone).1
      rw [if_pos hnone, if_pos hnone, hwhole, List.isEmpty_nil, Bool.and_true, if_pos rfl]
    · rw [if_neg hnone, if_neg hnone]
  · rename_i hpoint
    exact absurd rfl (hpoint after)

theorem takeDecimal_plain {cs whole tail : List Char} (hcs : takeDigits cs = (whole, tail))
    (hpoint : forall after, tail ≠ '.' :: after) :
    takeDecimal cs = if whole.isEmpty = true then none
      else some (⟨digitsValue whole, (takeExponent tail).1⟩, (takeExponent tail).2) := by
  unfold takeDecimal
  rw [hcs]
  dsimp only
  split
  · exact absurd rfl (hpoint _)
  · rw [List.isEmpty_nil, Bool.and_true, List.append_nil, List.length_nil]
    show (if whole.isEmpty = true then none else some (DecimalNumeral.mk _ (_ - 0), _)) = _
    rw [Int.sub_zero]

theorem takeDecimal_cut {cs rest : List Char} {numeral : DecimalNumeral}
    (h : takeDecimal cs = some (numeral, rest)) :
    exists used, cs = used ++ rest ∧ used ≠ [] ∧ IsUnquoted used ∧
      forall other, IsCut rest other -> takeDecimal (used ++ other) = some (numeral, other) := by
  have hcs := takeDigits_append cs
  have hunquoted := takeDigits_unquoted cs
  have hcut : forall other, IsCut (takeDigits cs).2 other ->
      takeDigits ((takeDigits cs).1 ++ other) = ((takeDigits cs).1, other) :=
    fun _ hother => takeDigits_cut hother
  generalize hread : takeDigits cs = found at hcs hunquoted hcut
  rcases found with ⟨whole, tail⟩
  dsimp only at hcs hunquoted hcut
  by_cases hpoint : exists after, tail = '.' :: after
  · rcases hpoint with ⟨after, rfl⟩
    have hafter := takeDigits_append after
    have hfraction := takeDigits_unquoted after
    rw [takeDecimal_point hread Prod.mk.eta.symm] at h
    split at h
    · cases h
    · rename_i hsome
      cases h
      rcases takeExponent_cut (takeDigits after).2 with ⟨power, hlast, hpower, hpowerCut⟩
      refine ⟨whole ++ '.' :: ((takeDigits after).1 ++ power), ?_, by simp, ?_, ?_⟩
      · rw [List.append_assoc, List.cons_append, List.append_assoc, ← hlast, hafter, hcs]
      · exact hunquoted.append (.cons (by decide) (hfraction.append hpower))
      · intro other hother
        have hback : IsCut (takeDigits after).2 (power ++ other) := hlast ▸ hother.append power
        have hrest : IsCut ('.' :: after) ('.' :: ((takeDigits after).1 ++ (power ++ other))) := by
          have hall := hback.append (takeDigits after).1
          rw [hafter] at hall
          exact hall.next
        rw [List.append_assoc, List.cons_append, List.append_assoc,
          takeDecimal_point (hcut _ hrest) (takeDigits_cut hback), if_neg hsome,
          hpowerCut other hother]
  · have hnoPoint : forall after, tail ≠ '.' :: after := fun after heq => hpoint ⟨after, heq⟩
    rw [takeDecimal_plain hread hnoPoint] at h
    split at h
    · cases h
    · rename_i hsome
      cases h
      rcases takeExponent_cut tail with ⟨power, htail, hpower, hpowerCut⟩
      refine ⟨whole ++ power, ?_, ?_, hunquoted.append hpower, ?_⟩
      · rw [List.append_assoc, ← htail, hcs]
      · refine List.append_ne_nil_of_left_ne_nil ?_ power
        rintro rfl
        exact hsome rfl
      · intro other hother
        have hback : IsCut tail (power ++ other) := htail ▸ hother.append power
        have hothers : forall after, power ++ other ≠ '.' :: after := by
          intro after heq
          rw [heq] at hback
          cases hback
          exact hnoPoint _ rfl
        rw [List.append_assoc, takeDecimal_plain (hcut _ hback) hothers, if_neg hsome,
          hpowerCut other hother]

theorem takeNumber_cut {cs : List Char} {token : Token} {size : Nat}
    (h : takeNumber cs = some (token, size)) :
    exists used rest, cs = used ++ rest ∧ size = used.length ∧ used ≠ [] ∧ IsUnquoted used ∧
      forall other, IsCut rest other -> takeNumber (used ++ other) = some (token, size) := by
  unfold takeNumber at h
  split at h
  · cases h
  · rename_i numeral rest hdecimal
    rcases takeDecimal_cut hdecimal with ⟨used, rfl, hne, hunquoted, hcut⟩
    have hsize : forall other : List Char, (used ++ other).length - other.length = used.length := by
      intro other
      rw [List.length_append, Nat.add_sub_cancel]
    have hread : forall other, takeDecimal (used ++ other) = some (numeral, other) ->
        takeNumber (used ++ other) = some (token, size) ∧ size = used.length := by
      intro other hother
      unfold takeNumber
      rw [hother]
      dsimp only at h ⊢
      rw [hsize, List.take_left] at h ⊢
      refine ⟨h, ?_⟩
      split at h
      · cases h
        rfl
      · cases h
        rfl
    exact ⟨used, rest, rfl, (hread rest hdecimal).2, hne, hunquoted,
      fun other hother => (hread other (hcut other hother)).1⟩

theorem takeNumber_none_cut {c : Char} {cs other : List Char} (h : takeNumber (c :: cs) = none)
    (hcut : IsCut cs other) : takeNumber (c :: other) = none := by
  have hnone := takeDecimal_of_takeNumber h
  have hdigit : Text.isDigit c = false := by
    rw [Bool.eq_false_iff]
    intro hdigit
    have hwhole : (takeDigits (c :: cs)).1.isEmpty = false := by
      rw [takeDigits_isEmpty, startsWithDigit, hdigit]
      rfl
    unfold takeDecimal at hnone
    dsimp only at hnone
    rw [hwhole, Bool.false_and, if_neg Bool.false_ne_true] at hnone
    cases hnone
  rw [takeDecimal_eq_none_iff hdigit] at hnone
  refine takeNumber_eq_none_of ((takeDecimal_eq_none_iff hdigit).2 fun hpoint => ?_)
  have hstarts := hnone hpoint
  cases hcut with
  | blank =>
      show Text.isDigit ' ' = false
      decide
  | next h => exact hstarts

/-!
# Quoted text
-/

theorem takeQuoted_end {quote : Char} (hquote : quote ≠ backslash) (rest : List Char) :
    takeQuoted quote (quote :: rest) = some ([], 1) := by
  cases rest with
  | nil => rw [takeQuoted, if_pos (beq_self_eq_true quote)]
  | cons d rest =>
      rw [takeQuoted, if_neg (by simpa using hquote), if_pos (beq_self_eq_true quote)]

/-- A quoted text goes up to its closing quote, whatever follows.  It is as long as what is written
only if there is no quote and no backslash in it. -/
theorem takeQuoted_cut {quote : Char} (hquote : quote ≠ backslash) {cs taken : List Char}
    {size : Nat} (h : takeQuoted quote cs = some (taken, size)) :
    exists inside rest, cs = inside ++ quote :: rest ∧ size = inside.length + 1 ∧
      taken.length <= inside.length ∧
      (taken.length = inside.length -> taken = inside ∧ quote ∉ inside ∧ backslash ∉ inside) ∧
      forall other, takeQuoted quote (inside ++ quote :: other) = some (taken, size) := by
  have hempty : forall rest, exists inside after, quote :: rest = inside ++ quote :: after ∧
      1 = inside.length + 1 ∧ [].length <= inside.length ∧
      (([] : List Char).length = inside.length ->
        [] = inside ∧ quote ∉ inside ∧ backslash ∉ inside) ∧
      forall other, takeQuoted quote (inside ++ quote :: other) = some ([], 1) := fun rest =>
    ⟨[], rest, rfl, rfl, le_rfl, fun _ => ⟨rfl, List.not_mem_nil, List.not_mem_nil⟩,
      takeQuoted_end hquote⟩
  induction cs using takeQuoted.induct quote generalizing taken size with
  | case1 => cases h
  | case2 c hend =>
      rw [takeQuoted, if_pos hend] at h
      cases h
      cases beq_iff_eq.1 hend
      exact hempty []
  | case3 c hend =>
      rw [takeQuoted, if_neg hend] at h
      cases h
  | case4 c d rest hslash ih =>
      rw [takeQuoted, if_pos hslash] at h
      rcases Option.map_eq_some_iff.1 h with ⟨⟨found, n⟩, hfound, hpair⟩
      cases hpair
      rcases ih hfound with ⟨inside, after, rfl, rfl, hle, _, hread⟩
      refine ⟨c :: d :: inside, after, rfl, rfl, ?_, ?_, fun other => ?_⟩
      · exact Nat.le_succ_of_le (Nat.succ_le_succ hle)
      · intro hlength
        simp only [List.length_cons] at hlength
        omega
      · rw [List.cons_append, List.cons_append, takeQuoted, if_pos hslash, hread other]
        rfl
  | case5 c d rest hslash hend =>
      rw [takeQuoted, if_neg hslash, if_pos hend] at h
      cases h
      cases beq_iff_eq.1 hend
      exact hempty (d :: rest)
  | case6 c d rest hslash hend ih =>
      rw [takeQuoted, if_neg hslash, if_neg hend] at h
      rcases Option.map_eq_some_iff.1 h with ⟨⟨found, n⟩, hfound, hpair⟩
      cases hpair
      rcases ih hfound with ⟨inside, after, hrest, rfl, hle, hsame, hread⟩
      have hc : c ≠ backslash := fun heq => hslash (beq_iff_eq.2 heq)
      have hcq : c ≠ quote := fun heq => hend (beq_iff_eq.2 heq)
      refine ⟨c :: inside, after, ?_, rfl, Nat.succ_le_succ hle, ?_, fun other => ?_⟩
      · rw [hrest]
        rfl
      · intro hlength
        rcases hsame (Nat.succ.inj hlength) with ⟨rfl, hquotes, hslashes⟩
        refine ⟨rfl, ?_, ?_⟩
        · exact List.not_mem_cons_of_ne_of_not_mem hcq.symm hquotes
        · exact List.not_mem_cons_of_ne_of_not_mem hc.symm hslashes
      · rw [List.cons_append, takeQuoted_cons hc hcq (by simp), hread other]
        rfl

theorem ne_backslash_of_isQuote {c : Char} (h : isQuote c = true) : c ≠ backslash := by
  rintro rfl
  revert h
  decide

/-!
# Tokens
-/

theorem isMarker_cut {c : Char} {cs other : List Char} (h : isMarker (c :: cs) = false)
    (hcut : IsCut cs other) : isMarker (c :: other) = false := by
  unfold isMarker at h ⊢
  split
  · rename_i heq
    cases heq
    cases hcut
    cases h
  · rfl

theorem longSymbol?_cut {c : Char} {cs other : List Char} (h : longSymbol? (c :: cs) = none)
    (hcut : IsCut cs other) : longSymbol? (c :: other) = none := by
  cases hcut with
  | blank =>
      unfold longSymbol?
      split <;> first | rfl | simp_all
  | next _ =>
      unfold longSymbol? at h ⊢
      split <;> first | rfl | simp_all

theorem exists_of_longSymbol? {c : Char} {cs : List Char} {s : Symbol}
    (h : longSymbol? (c :: cs) = some s) : exists d rest, cs = d :: rest ∧ isQuote d = false ∧
      forall other, longSymbol? (c :: d :: other) = some s := by
  unfold longSymbol? at h
  split at h
  case h_8 => cases h
  all_goals
    rename_i heq
    cases heq
    cases h
    exact ⟨_, _, rfl, by decide, fun _ => rfl⟩

section Plain

variable {c : Char} {cs : List Char} (hquote : isQuote c = false)
  (hmarker : isMarker (c :: cs) = false)

include hquote hmarker

theorem takeToken_longSymbol {s : Symbol} (hlong : longSymbol? (c :: cs) = some s) :
    takeToken c cs = .ok (.symbol s, 2) := by
  unfold takeToken
  dsimp only
  rw [hquote, hmarker, hlong, if_neg Bool.false_ne_true, if_neg Bool.false_ne_true]

variable (hlong : longSymbol? (c :: cs) = none)

include hlong

theorem takeToken_number {found : Token × Nat} (hnumber : takeNumber (c :: cs) = some found) :
    takeToken c cs = .ok found := by
  unfold takeToken
  dsimp only
  rw [hquote, hmarker, hlong, hnumber, if_neg Bool.false_ne_true, if_neg Bool.false_ne_true]

variable (hnumber : takeNumber (c :: cs) = none)

include hnumber

theorem takeToken_shortSymbol {s : Symbol} (hshort : shortSymbol? c = some s) :
    takeToken c cs = .ok (.symbol s, 1) := by
  unfold takeToken
  dsimp only
  rw [hquote, hmarker, hlong, hnumber, hshort, if_neg Bool.false_ne_true,
    if_neg Bool.false_ne_true]

theorem takeToken_name (hshort : shortSymbol? c = none) {found : Token × Nat}
    (hname : takeName (c :: cs) = some found) : takeToken c cs = .ok found := by
  unfold takeToken
  dsimp only
  rw [hquote, hmarker, hlong, hnumber, hshort, hname, if_neg Bool.false_ne_true,
    if_neg Bool.false_ne_true]

end Plain

theorem takeName_cut {c : Char} {cs : List Char} {found : Token × Nat}
    (h : takeName (c :: cs) = some found) :
    found.2 = (cs.takeWhile isNameTail).length + 1 ∧
      forall other, IsCut (cs.dropWhile isNameTail) other ->
        takeName (c :: (cs.takeWhile isNameTail ++ other)) = some found := by
  rw [takeName] at h
  split at h
  · rename_i hhead
    cases h
    refine ⟨rfl, fun other hother => ?_⟩
    rw [takeName, if_pos hhead, (hother.span (by decide)).1]
  · cases h

/-- A token takes the characters at the front, among them quotes only if it starts with one, and is
read from them as well when the text is cut off behind them. -/
theorem takeToken_cut {c : Char} {cs : List Char} {token : Token} {size : Nat}
    (h : takeToken c cs = .ok (token, size)) :
    exists used rest, cs = used ++ rest ∧ size = used.length + 1 ∧
      (isQuote c = false -> IsUnquoted used) ∧
      forall other, IsCut rest other -> takeToken c (used ++ other) = .ok (token, size) := by
  have hread := h
  unfold takeToken at hread
  dsimp only at hread
  cases hquote : isQuote c with
  | true =>
      rw [hquote, if_pos rfl] at hread
      split at hread
      · rename_i text n hquoted
        cases hread
        rcases takeQuoted_cut (ne_backslash_of_isQuote hquote) hquoted with
          ⟨inside, rest, rfl, rfl, _, _, hcut⟩
        refine ⟨inside ++ [c], rest, by simp, by simp, nofun, fun other _ => ?_⟩
        unfold takeToken
        dsimp only
        rw [if_pos hquote, List.append_assoc, List.singleton_append, hcut other]
      · cases hread
  | false =>
      rw [hquote, if_neg Bool.false_ne_true] at hread
      cases hmarker : isMarker (c :: cs) with
      | true =>
          rw [hmarker, if_pos rfl] at hread
          cases hread
          unfold isMarker at hmarker
          split at hmarker
          · rename_i rest heq
            cases heq
            exact ⟨['!'], rest, rfl, rfl, fun _ => .cons (by decide) .nil, fun other _ => rfl⟩
          · cases hmarker
      | false =>
          rw [hmarker, if_neg Bool.false_ne_true] at hread
          split at hread
          · rename_i s hlong
            cases hread
            rcases exists_of_longSymbol? hlong with ⟨d, rest, rfl, hd, hlonger⟩
            refine ⟨[d], rest, rfl, rfl, fun _ => .cons hd .nil, fun other _ => ?_⟩
            refine takeToken_longSymbol hquote ?_ (hlonger other)
            unfold isMarker at hmarker ⊢
            split
            · rename_i heq
              cases heq
              cases hmarker
            · rfl
          · rename_i hlong
            split at hread
            · rename_i found hnumber
              cases hread
              rcases takeNumber_cut hnumber with ⟨used, rest, hcs, rfl, hne, hunquoted, hcut⟩
              cases used with
              | nil => exact absurd rfl hne
              | cons d used =>
                  cases hcs
                  refine ⟨used, rest, rfl, rfl, fun _ d hd =>
                    hunquoted d (List.mem_cons_of_mem _ hd), fun other hother => ?_⟩
                  have hback := hother.append used
                  exact takeToken_number hquote (isMarker_cut hmarker hback)
                    (longSymbol?_cut hlong hback) (hcut other hother)
            · rename_i hnumber
              split at hread
              · rename_i s hshort
                cases hread
                exact ⟨[], cs, rfl, rfl, fun _ => .nil, fun other hother =>
                  takeToken_shortSymbol hquote (isMarker_cut hmarker hother)
                    (longSymbol?_cut hlong hother) (takeNumber_none_cut hnumber hother) hshort⟩
              · rename_i hshort
                split at hread
                · rename_i found hname
                  cases hread
                  rcases takeName_cut hname with ⟨hsize, hcut⟩
                  have hall : cs.takeWhile isNameTail ++ cs.dropWhile isNameTail = cs :=
                    List.takeWhile_append_dropWhile
                  refine ⟨cs.takeWhile isNameTail, cs.dropWhile isNameTail, hall.symm, hsize,
                    fun _ => .of_test (fun _ h => (quote_ends h).2) fun _ hc =>
                      List.mem_takeWhile_imp hc, fun other hother => ?_⟩
                  have hback := hother.append (cs.takeWhile isNameTail)
                  rw [hall] at hback
                  exact takeToken_name hquote (isMarker_cut hmarker hback)
                    (longSymbol?_cut hlong hback) (takeNumber_none_cut hnumber hback) hshort
                    (hcut other hother)
                · cases hread

end Wrangle
