import Mathlib
import Wrangle.Fragment.Token
import Wrangle.Proofs.Number.Numeral

/-!
# Reading canonical text as tokens

A text is read piece by piece: what stands at the front is read as the same
tokens whatever follows, as long as that starts with a character that ends
names and numbers.
-/

namespace Wrangle

open Text Number

/-!
# Tokens without their positions
-/

def tokensOnly (found : Except TokenError (List Located)) : Option (List Token) :=
  found.toOption.map (List.map Located.token)

def lexed (cs : List Char) : Option (List Token) :=
  tokensOnly (tokensFrom 0 0 cs)

theorem tokensOnly_cons (t : Located) (found : Except TokenError (List Located)) :
    tokensOnly
      (match found with
      | .error e => .error e
      | .ok later => .ok (t :: later)) = (tokensOnly found).map (t.token :: ·) := by
  cases found with
  | error e => rfl
  | ok later => rfl

theorem tokensOnly_tokensFrom (skip position : Nat) (cs : List Char) :
    tokensOnly (tokensFrom skip position cs) = lexed (cs.drop skip) := by
  induction cs generalizing skip position with
  | nil =>
      rw [List.drop_nil, lexed, tokensFrom, tokensFrom]
      rfl
  | cons c rest ih =>
      cases skip with
      | succ skip =>
          rw [tokensFrom, List.drop_succ_cons]
          exact ih skip (position + 1)
      | zero =>
          rw [List.drop_zero, lexed, tokensFrom, tokensFrom]
          split
          · rw [ih, ih]
          · split
            · rfl
            · rename_i token size _
              split
              · rfl
              · refine (tokensOnly_cons ⟨token, position⟩ _).trans ?_
                refine Eq.trans ?_ (tokensOnly_cons ⟨token, 0⟩ _).symm
                rw [ih, ih]

theorem lexed_nil : lexed [] = some [.finish] := rfl

theorem lexed_blank {c : Char} (h : isBlank c = true) (rest : List Char) :
    lexed (c :: rest) = lexed rest := by
  rw [lexed, tokensFrom, if_pos h, tokensOnly_tokensFrom, List.drop_zero]

theorem lexed_token {c : Char} {cs : List Char} {token : Token} (rest : List Char)
    (hblank : isBlank c = false) (h : takeToken c (cs ++ rest) = .ok (token, cs.length + 1))
    (hlong : token.isTooLong (cs.length + 1) = false) :
    lexed (c :: (cs ++ rest)) = (lexed rest).map (token :: ·) := by
  rw [lexed, tokensFrom, hblank, if_neg Bool.false_ne_true, h]
  dsimp only
  rw [hlong, if_neg Bool.false_ne_true]
  refine (tokensOnly_cons ⟨token, 0⟩ _).trans ?_
  rw [tokensOnly_tokensFrom, Nat.add_sub_cancel, List.drop_left]

/-!
# Pieces of text
-/

def delimiters : List Char := [' ', '(', ')', ']', ',', ':']

def Delimited : List Char -> Prop
  | [] => True
  | c :: _ => c ∈ delimiters

def Lexes (text : String) (toks : List Token) : Prop :=
  forall rest, Delimited rest -> lexed (text.toList ++ rest) = (lexed rest).map (toks ++ ·)

def Separates (text : String) (sign : Token) : Prop :=
  forall rest, Delimited (text.toList ++ rest) ∧
    lexed (text.toList ++ rest) = (lexed rest).map (sign :: ·)

theorem Lexes.empty : Lexes "" [] := by
  intro rest _
  show lexed rest = (lexed rest).map (fun toks => toks)
  rw [Option.map_id']

theorem Lexes.around {a b sep : String} {front back : List Token} {sign : Token}
    (ha : Lexes a front) (hsep : Separates sep sign) (hb : Lexes b back) :
    Lexes (a ++ sep ++ b) (front ++ sign :: back) := by
  intro rest hrest
  rcases hsep (b.toList ++ rest) with ⟨hdelimited, hsign⟩
  rw [String.toList_append, String.toList_append, List.append_assoc, List.append_assoc,
    ha _ hdelimited, hsign, hb _ hrest, Option.map_map, Option.map_map]
  congr 1
  funext toks
  simp

theorem Lexes.before {a sep : String} {front : List Token} {sign : Token} (ha : Lexes a front)
    (hsep : Separates sep sign) : Lexes (a ++ sep) (front ++ [sign]) := by
  have h := ha.around hsep Lexes.empty
  rw [String.append_empty] at h
  exact h

theorem Lexes.after {c : Char} {text : String} {token : Token} {toks : List Token}
    (htoken : forall rest, lexed (c :: (text.toList ++ rest)) =
      (lexed (text.toList ++ rest)).map (token :: ·))
    (h : Lexes text toks) : Lexes (String.ofList [c] ++ text) (token :: toks) := by
  intro rest hrest
  rw [String.toList_append, String.toList_ofList, List.singleton_append, List.cons_append, htoken,
    h _ hrest, Option.map_map]
  rfl

/-!
# Symbols
-/

def loneSymbols : List (Char × Symbol) :=
  [('(', .openParen), (')', .closeParen), ('[', .openBracket), (']', .closeBracket),
   (',', .comma), (':', .colon), ('-', .minus)]

theorem lexed_loneSymbol {c : Char} {s : Symbol} (h : (c, s) ∈ loneSymbols) (rest : List Char) :
    lexed (c :: rest) = (lexed rest).map (.symbol s :: ·) := by
  have hstep : isBlank c = false ∧ takeToken c ([] ++ rest) = .ok (.symbol s, 1) := by
    simp only [loneSymbols, List.mem_cons, Prod.mk.injEq, List.not_mem_nil, or_false] at h
    rcases h with ⟨rfl, rfl⟩ | ⟨rfl, rfl⟩ | ⟨rfl, rfl⟩ | ⟨rfl, rfl⟩ | ⟨rfl, rfl⟩ | ⟨rfl, rfl⟩ |
      ⟨rfl, rfl⟩
    all_goals exact ⟨by decide, rfl⟩
  exact lexed_token rest hstep.1 hstep.2 rfl

theorem separates_lone {c : Char} {s : Symbol} (hmem : (c, s) ∈ loneSymbols)
    (hdelimiter : c ∈ delimiters) : Separates (String.ofList [c]) (.symbol s) := by
  intro rest
  rw [String.toList_ofList, List.singleton_append]
  exact ⟨hdelimiter, lexed_loneSymbol hmem rest⟩

theorem Lexes.between {o c : Char} {s s' : Symbol} {text : String} {toks : List Token}
    (h : Lexes text toks) (ho : (o, s) ∈ loneSymbols) (hc : (c, s') ∈ loneSymbols)
    (hdelimiter : c ∈ delimiters) :
    Lexes (String.ofList [o] ++ text ++ String.ofList [c])
      (.symbol s :: (toks ++ [.symbol s'])) := by
  rw [String.append_assoc]
  exact Lexes.after (fun rest => lexed_loneSymbol ho _) (h.before (separates_lone hc hdelimiter))

theorem lexed_bang {c : Char} (hbang : c ≠ '!') (hassign : c ≠ '=') (rest : List Char) :
    lexed ('!' :: c :: rest) = (lexed (c :: rest)).map (.symbol .bang :: ·) := by
  have hmarker : isMarker ('!' :: c :: rest) = false := by
    unfold isMarker
    split
    · rename_i heq
      cases heq
      exact absurd rfl hbang
    · rfl
  have hlong : longSymbol? ('!' :: c :: rest) = none := by
    unfold longSymbol?
    split <;> first | rfl | simp_all
  have htoken : takeToken '!' ([] ++ c :: rest) = .ok (.symbol .bang, 1) := by
    unfold takeToken
    dsimp only [List.nil_append]
    rw [hmarker, hlong]
    rfl
  exact lexed_token (c :: rest) (by decide) htoken rfl

theorem lexed_marker (rest : List Char) :
    lexed ('!' :: '!' :: rest) = (lexed rest).map (.marker :: ·) := by
  have htoken : takeToken '!' (['!'] ++ rest) = .ok (.marker, 2) := rfl
  exact lexed_token rest (by decide) htoken rfl

/-!
# Signs between operands
-/

def spacedSigns : List (String × Token) :=
  [("=>", .symbol .arrow), ("|", .symbol .bar), ("&", .symbol .ampersand),
   ("==", .symbol .equals), ("!=", .symbol .differs), (">=", .symbol .atLeast),
   ("<=", .symbol .atMost), (">", .symbol .greater), ("<", .symbol .less),
   ("in", .keyword .inWord), ("+", .symbol .plus), ("-", .symbol .minus),
   ("*", .symbol .star), ("/", .symbol .slash), ("%", .symbol .percent),
   ("^", .symbol .caret), ("=", .symbol .assign)]

theorem takeToken_spacedSign {text : String} {sign : Token} (h : (text, sign) ∈ spacedSigns) :
    exists c cs, text.toList = c :: cs ∧ isBlank c = false ∧
      (forall rest, takeToken c (cs ++ ' ' :: rest) = .ok (sign, cs.length + 1)) ∧
      sign.isTooLong (cs.length + 1) = false := by
  simp only [spacedSigns, List.mem_cons, Prod.mk.injEq, List.not_mem_nil, or_false] at h
  rcases h with ⟨rfl, rfl⟩ | ⟨rfl, rfl⟩ | ⟨rfl, rfl⟩ | ⟨rfl, rfl⟩ | ⟨rfl, rfl⟩ | ⟨rfl, rfl⟩ |
    ⟨rfl, rfl⟩ | ⟨rfl, rfl⟩ | ⟨rfl, rfl⟩ | ⟨rfl, rfl⟩ | ⟨rfl, rfl⟩ | ⟨rfl, rfl⟩ | ⟨rfl, rfl⟩ |
    ⟨rfl, rfl⟩ | ⟨rfl, rfl⟩ | ⟨rfl, rfl⟩ | ⟨rfl, rfl⟩
  all_goals exact ⟨_, _, rfl, by decide, fun _ => rfl, rfl⟩

theorem separates_spacedSign {text : String} {sign : Token} (h : (text, sign) ∈ spacedSigns) :
    Separates (" " ++ text ++ " ") sign := by
  rcases takeToken_spacedSign h with ⟨c, cs, htext, hblank, htoken, hlong⟩
  have hspaced : (" " ++ text ++ " ").toList = ' ' :: c :: (cs ++ [' ']) := by
    rw [String.toList_append, String.toList_append, htext]
    rfl
  intro rest
  rw [hspaced]
  constructor
  · exact List.mem_cons_self
  · show lexed (' ' :: c :: ((cs ++ [' ']) ++ rest)) = _
    rw [lexed_blank (by decide), List.append_assoc, List.singleton_append,
      lexed_token _ hblank (htoken rest) hlong, lexed_blank (by decide)]

theorem separates_colon : Separates ":" (.symbol .colon) := by
  intro rest
  constructor
  · show ':' ∈ delimiters
    decide
  · exact lexed_loneSymbol (by decide) rest

theorem separates_comma : Separates ", " (.symbol .comma) := by
  intro rest
  constructor
  · show ',' ∈ delimiters
    decide
  · show lexed (',' :: ' ' :: rest) = _
    have hcomma : (',', Symbol.comma) ∈ loneSymbols := by
      decide
    rw [lexed_loneSymbol hcomma, lexed_blank (by decide)]

/-!
# Words

Names and numbers start with a character that no quoted text and no long symbol
starts with, and end before a delimiter.
-/

def specialHeads : List Char :=
  [singleQuote, doubleQuote, backtick, '!', '=', '>', '<', '&', '|']

theorem plain_of_not_special {c : Char} (h : c ∉ specialHeads) (rest : List Char) :
    isQuote c = false ∧ isMarker (c :: rest) = false ∧ longSymbol? (c :: rest) = none := by
  simp only [specialHeads, List.mem_cons, List.not_mem_nil, or_false, not_or] at h
  rcases h with ⟨hsingle, hdouble, hbacktick, hbang, hequals, hgreater, hless, hand, hor⟩
  refine ⟨?_, ?_, ?_⟩
  · simp [isQuote, hsingle, hdouble, hbacktick]
  · unfold isMarker
    split
    · rename_i heq
      cases heq
      exact absurd rfl hbang
    · rfl
  · unfold longSymbol?
    split <;> first | rfl | simp_all

theorem delimiter_ends {c : Char} (h : c ∈ delimiters) :
    Text.isDigit c = false ∧ isNameTail c = false ∧ c ≠ '.' ∧ c ≠ 'e' ∧ c ≠ 'E' := by
  simp only [delimiters, List.mem_cons, List.not_mem_nil, or_false] at h
  rcases h with rfl | rfl | rfl | rfl | rfl | rfl
  all_goals decide

theorem span_of_delimited {test : Char -> Bool} {cs rest : List Char}
    (hcs : forall c, c ∈ cs -> test c = true)
    (htest : forall c, c ∈ delimiters -> test c = false) (hrest : Delimited rest) :
    (cs ++ rest).takeWhile test = cs ∧ (cs ++ rest).dropWhile test = rest := by
  have hnil : rest.takeWhile test = [] ∧ rest.dropWhile test = rest := by
    cases rest with
    | nil => exact ⟨rfl, rfl⟩
    | cons d rest =>
        have hd := htest d hrest
        constructor
        · rw [List.takeWhile_cons, hd, if_neg Bool.false_ne_true]
        · rw [List.dropWhile_cons, hd, if_neg Bool.false_ne_true]
  rw [List.takeWhile_append_of_pos hcs, List.dropWhile_append_of_pos hcs, hnil.1, hnil.2,
    List.append_nil]
  exact ⟨rfl, rfl⟩

/-!
# Integers
-/

theorem takeExponent_of_delimited {rest : List Char} (h : Delimited rest) :
    takeExponent rest = (0, rest) := by
  cases rest with
  | nil => rfl
  | cons c rest =>
      rcases delimiter_ends h with ⟨_, _, _, hsmall, hlarge⟩
      simp [takeExponent, hsmall, hlarge]

theorem takeDecimal_of_digits {cs rest : List Char} (hne : cs ≠ [])
    (hcs : forall c, c ∈ cs -> c.isDigit = true) (hrest : Delimited rest) :
    takeDecimal (cs ++ rest) = some (⟨digitsValue cs, 0⟩, rest) := by
  rcases span_of_delimited (fun c hc => isDigit_of_isDigit (hcs c hc))
    (fun c hc => (delimiter_ends hc).1) hrest with ⟨htake, hdrop⟩
  have hempty : cs.isEmpty = false := by
    rw [List.isEmpty_eq_false_iff]
    exact hne
  unfold takeDecimal takeDigits
  rw [htake, hdrop]
  dsimp only
  have hpoint : forall after, rest ≠ '.' :: after := by
    intro after heq
    rw [heq] at hrest
    exact (delimiter_ends hrest).2.2.1 rfl
  split
  · rename_i after
    exact absurd rfl (hpoint after)
  · rw [hempty, Bool.false_and, if_neg Bool.false_ne_true, takeExponent_of_delimited hrest,
      List.append_nil]
    rfl

theorem not_special_of_isDigit {c : Char} (h : c.isDigit = true) : c ∉ specialHeads := by
  have hall : (specialHeads.all fun d => !d.isDigit) = true := rfl
  intro hmem
  have hnot := List.all_eq_true.mp hall c hmem
  rw [h] at hnot
  cases hnot

theorem lexes_number {c : Char} {cs : List Char} {token : Token} (hc : c.isDigit = true)
    (hnumber : forall rest, Delimited rest ->
      takeNumber (c :: cs ++ rest) = some (token, (c :: cs).length))
    (hsize : token.isTooLong (c :: cs).length = false) :
    Lexes (String.ofList (c :: cs)) [token] := by
  intro rest hrest
  rw [String.toList_ofList]
  rcases plain_of_not_special (not_special_of_isDigit hc) (cs ++ rest)
    with ⟨hquote, hmarker, hlong⟩
  have htoken : takeToken c (cs ++ rest) = .ok (token, cs.length + 1) := by
    unfold takeToken
    dsimp only
    rw [hquote, hmarker, hlong, if_neg Bool.false_ne_true, if_neg Bool.false_ne_true]
    dsimp only
    rw [← List.cons_append, hnumber rest hrest]
    rfl
  exact lexed_token rest (not_blank_of_isDigit hc) htoken hsize

theorem lexes_digits {cs : List Char} (hne : cs ≠ []) (hcs : forall c, c ∈ cs -> c.isDigit = true)
    (hlimit : cs.length <= digitLimit) :
    Lexes (String.ofList cs) [.integer (Int.ofNat (digitsValue cs))] := by
  have hnumber : forall rest, Delimited rest -> takeNumber (cs ++ rest) =
      some (.integer (Int.ofNat (digitsValue cs)), cs.length) := by
    intro rest hrest
    have hplain : (cs.any fun c => c == '.' || c == 'e' || c == 'E') = false := by
      rw [List.any_eq_false]
      intro c hc
      have hdigit := hcs c hc
      simp only [Bool.or_eq_true, beq_iff_eq, not_or]
      refine ⟨⟨?_, ?_⟩, ?_⟩
      · rintro rfl
        cases hdigit
      · rintro rfl
        cases hdigit
      · rintro rfl
        cases hdigit
    have hsize : (cs ++ rest).length - rest.length = cs.length := by
      rw [List.length_append, Nat.add_sub_cancel]
    rw [takeNumber, takeDecimal_of_digits hne hcs hrest]
    dsimp only
    rw [hsize, List.take_left, hplain, if_neg Bool.false_ne_true]
  cases cs with
  | nil => exact absurd rfl hne
  | cons c cs =>
      refine lexes_number (hcs c List.mem_cons_self) hnumber ?_
      rw [Token.isTooLong, decide_eq_false_iff_not, Nat.not_lt]
      exact hlimit

theorem lexes_nat {n : Nat} (h : n < 10 ^ digitLimit) : Lexes n.repr [.integer (Int.ofNat n)] := by
  have hdigits : forall c, c ∈ Nat.toDigits 10 n -> c.isDigit = true := fun c hc =>
    Nat.isDigit_of_mem_toDigits (by decide) (by decide) hc
  have hlength : (Nat.toDigits 10 n).length <= digitLimit :=
    (Nat.length_toDigits_le_iff (by decide) (by decide)).mpr h
  have hlexes := lexes_digits Nat.toDigits_ne_nil hdigits hlength
  rw [digitsValue_eq_ofDigitChars hdigits, Nat.ofDigitChars_ten_toDigits] at hlexes
  rw [Nat.repr_eq_ofList_toDigits]
  exact hlexes

/-!
# Names
-/

def startsWithDigit : List Char -> Bool
  | [] => false
  | c :: _ => Text.isDigit c

def IsWord : List Char -> Prop
  | [] => False
  | c :: cs =>
      isNameHead c = true ∧ (forall d, d ∈ cs -> isNameTail d = true) ∧
        (c = '.' -> startsWithDigit cs = false)

theorem isAlpha_range {c : Char} (h : c.isAlpha = true) :
    (0x41 <= c.toNat ∧ c.toNat <= 0x5a) ∨ (0x61 <= c.toNat ∧ c.toNat <= 0x7a) := by
  simp only [Char.isAlpha, Char.isUpper, Char.isLower, Bool.or_eq_true, Bool.and_eq_true,
    decide_eq_true_eq, UInt32.le_iff_toNat_le] at h
  exact h

theorem isNameHead_range {c : Char} (h : isNameHead c = true) :
    c = '.' ∨ (0x41 <= c.toNat ∧ c.toNat <= 0x7a) := by
  simp only [isNameHead, Bool.or_eq_true, beq_iff_eq] at h
  rcases h with (halpha | rfl) | rfl
  · right
    rcases isAlpha_range halpha with ⟨hlow, hhigh⟩ | ⟨hlow, hhigh⟩
    · exact ⟨hlow, Nat.le_trans hhigh (by decide)⟩
    · exact ⟨Nat.le_trans (by decide) hlow, hhigh⟩
  · right
    decide
  · exact .inl rfl

theorem not_special_of_isNameHead {c : Char} (h : isNameHead c = true) : c ∉ specialHeads := by
  have hall : (specialHeads.all fun d => !isNameHead d) = true := rfl
  intro hmem
  have hnot := List.all_eq_true.mp hall c hmem
  rw [h] at hnot
  cases hnot

theorem not_blank_of_isNameHead {c : Char} (h : isNameHead c = true) : isBlank c = false := by
  have hall : forall r, r ∈ blankRanges -> r.2 < 0x2e ∨ 0x7a < r.1 := by
    decide
  have hrange : 0x2e <= c.toNat ∧ c.toNat <= 0x7a := by
    rcases isNameHead_range h with rfl | ⟨hlow, hhigh⟩
    · decide
    · exact ⟨Nat.le_trans (by decide) hlow, hhigh⟩
  rw [Bool.eq_false_iff]
  intro hblank
  rw [isBlank, CharRanges.contains, List.any_eq_true] at hblank
  rcases hblank with ⟨range, hmem, hin⟩
  simp only [Bool.and_eq_true, decide_eq_true_eq] at hin
  rcases hall range hmem with hlow | hhigh
  · omega
  · omega

theorem not_digit_of_isNameHead {c : Char} (h : isNameHead c = true) : Text.isDigit c = false := by
  rcases isNameHead_range h with rfl | ⟨hlow, hhigh⟩
  · decide
  · exact isDigit_eq_false (by omega) (.inr (by omega))

theorem shortSymbol?_of_isNameHead {c : Char} (h : isNameHead c = true) :
    shortSymbol? c = none := by
  unfold shortSymbol?
  split <;> first | rfl | cases h

theorem takeNumber_eq_none_of {cs : List Char} (h : takeDecimal cs = none) :
    takeNumber cs = none := by
  rw [takeNumber, h]

theorem takeDecimal_of_takeNumber {cs : List Char} (h : takeNumber cs = none) :
    takeDecimal cs = none := by
  unfold takeNumber at h
  split at h
  · rename_i hnone
    exact hnone
  · dsimp only at h
    split at h <;> cases h

theorem takeDigits_isEmpty (cs : List Char) :
    (takeDigits cs).1.isEmpty = !startsWithDigit cs := by
  cases cs with
  | nil => rfl
  | cons c cs =>
      rw [takeDigits, List.takeWhile_cons, startsWithDigit]
      cases Text.isDigit c <;> rfl

theorem takeDecimal_eq_none_iff {c : Char} {cs : List Char} (hdigit : Text.isDigit c = false) :
    takeDecimal (c :: cs) = none <-> (c = '.' -> startsWithDigit cs = false) := by
  have hwhole : takeDigits (c :: cs) = ([], c :: cs) := by
    rw [takeDigits, List.takeWhile_cons, List.dropWhile_cons, hdigit]
    rfl
  unfold takeDecimal
  rw [hwhole]
  dsimp only
  split
  · rename_i after heq
    cases heq
    have hempty := takeDigits_isEmpty cs
    cases hstarts : startsWithDigit cs with
    | true =>
        rw [hstarts] at hempty
        simp [hempty]
    | false =>
        rw [hstarts] at hempty
        simp [hempty]
  · rename_i hpoint
    refine iff_of_true rfl ?_
    rintro rfl
    exact absurd rfl (hpoint cs)

theorem takeNumber_of_word {c : Char} {cs rest : List Char} (h : IsWord (c :: cs))
    (hrest : Delimited rest) : takeNumber (c :: (cs ++ rest)) = none := by
  rcases h with ⟨hhead, _, hpoint⟩
  refine takeNumber_eq_none_of ((takeDecimal_eq_none_iff (not_digit_of_isNameHead hhead)).mpr ?_)
  intro hc
  cases cs with
  | cons d cs => exact hpoint hc
  | nil =>
      cases rest with
      | nil => rfl
      | cons d rest => exact (delimiter_ends hrest).1

theorem lexes_word {cs : List Char} (h : IsWord cs) :
    Lexes (String.ofList cs) [nameToken cs] := by
  intro rest hrest
  rw [String.toList_ofList]
  cases cs with
  | nil => cases h
  | cons c cs =>
      have hhead := h.1
      rcases plain_of_not_special (not_special_of_isNameHead hhead) (cs ++ rest)
        with ⟨hquote, hmarker, hlong⟩
      rcases span_of_delimited h.2.1 (fun d hd => (delimiter_ends hd).2.1) hrest with ⟨htake, _⟩
      have hname : takeName (c :: (cs ++ rest)) = some (nameToken (c :: cs), cs.length + 1) := by
        rw [takeName, hhead, if_pos rfl, htake]
        rfl
      have htoken : takeToken c (cs ++ rest) = .ok (nameToken (c :: cs), cs.length + 1) := by
        unfold takeToken
        dsimp only
        rw [hquote, hmarker, hlong, if_neg Bool.false_ne_true, if_neg Bool.false_ne_true]
        dsimp only
        rw [takeNumber_of_word h hrest, shortSymbol?_of_isNameHead hhead, hname]
      refine lexed_token rest (not_blank_of_isNameHead hhead) htoken ?_
      unfold nameToken
      split <;> rfl

/-!
# Quoted text
-/

theorem takeQuoted_cons {quote c : Char} (hslash : c ≠ backslash) (hquote : c ≠ quote)
    {rest : List Char} (hrest : rest ≠ []) :
    takeQuoted quote (c :: rest) = (takeQuoted quote rest).map fun r => (c :: r.1, r.2 + 1) := by
  cases rest with
  | nil => exact absurd rfl hrest
  | cons d rest =>
      rw [takeQuoted, beq_eq_false_iff_ne.mpr hslash, beq_eq_false_iff_ne.mpr hquote,
        if_neg Bool.false_ne_true, if_neg Bool.false_ne_true]

theorem takeQuoted_flatMap {quote : Char} {escape : Char -> List Char} {cs : List Char}
    (hquote : quote ≠ backslash)
    (hescape : forall c, c ∈ cs -> escape c = [backslash, c] ∨
      (escape c = [c] ∧ c ≠ backslash ∧ c ≠ quote)) (rest : List Char) :
    takeQuoted quote (cs.flatMap escape ++ quote :: rest) =
      some (cs, (cs.flatMap escape).length + 1) := by
  induction cs with
  | nil =>
      cases rest with
      | nil => simp [takeQuoted]
      | cons d rest => simp [takeQuoted, hquote]
  | cons c cs ih =>
      have ih := ih fun d hd => hescape d (List.mem_cons_of_mem _ hd)
      rw [List.flatMap_cons, List.append_assoc]
      rcases hescape c List.mem_cons_self with hc | ⟨hc, hslash, hother⟩
      · rw [hc]
        simp [takeQuoted, ih]
      · have hne : cs.flatMap escape ++ quote :: rest ≠ [] := by
          simp
        rw [hc, List.singleton_append, takeQuoted_cons hslash hother hne, ih]
        rfl

theorem lexes_between_quotes {quote : Char} {cs taken : List Char} (hquote : isQuote quote = true)
    (h : forall rest, takeQuoted quote (cs ++ quote :: rest) = some (taken, cs.length + 1)) :
    Lexes (String.ofList (quote :: (cs ++ [quote]))) [quotedToken quote taken] := by
  intro rest _
  have hblank : isBlank quote = false := by
    simp only [isQuote, Bool.or_eq_true, beq_iff_eq] at hquote
    rcases hquote with (rfl | rfl) | rfl
    · decide
    · decide
    · decide
  have htoken : takeToken quote ((cs ++ [quote]) ++ rest) =
      .ok (quotedToken quote taken, (cs ++ [quote]).length + 1) := by
    unfold takeToken
    dsimp only
    rw [hquote, if_pos rfl, List.append_assoc, List.singleton_append, h, List.length_append]
    rfl
  rw [String.toList_ofList, List.cons_append]
  refine lexed_token rest hblank htoken ?_
  unfold quotedToken
  split <;> rfl

theorem lexes_quoted {quote : Char} {escape : Char -> List Char} {cs : List Char}
    (hquote : isQuote quote = true) (hescape : forall c, c ∈ cs -> escape c = [backslash, c] ∨
      (escape c = [c] ∧ c ≠ backslash ∧ c ≠ quote)) :
    Lexes (String.ofList (quote :: (cs.flatMap escape ++ [quote]))) [quotedToken quote cs] := by
  have hne : quote ≠ backslash := by
    rintro rfl
    revert hquote
    decide
  exact lexes_between_quotes hquote fun rest => takeQuoted_flatMap hne hescape rest

end Wrangle
