import Wrangle.Fragment.Printer
import Wrangle.Proofs.Fragment.Grammar
import Wrangle.Proofs.Fragment.Legibility
import Wrangle.Proofs.Fragment.Lexing

/-!
# Trees that their text gives back

Each kind of tree is read back from its canonical text when the trees below it
are.  Canonical text puts an operand into parentheses when its strength is less than
its place asks for.  Every strength stands for a level of the grammar, and a
tree that is strong enough for a place derives at the level of that place.
-/

namespace Wrangle
namespace Grammar

open Node Text Number

/-!
# Levels of strengths
-/

def Level.ofStrength : Nat -> Level
  | 0 => clause
  | 1 => clause
  | 2 => disjunction
  | 3 => conjunction
  | 4 => negation
  | 5 => comparison
  | 6 => range
  | 7 => sum
  | 8 => product
  | 9 => signed
  | 10 => power
  | _ => application

namespace Level

theorem rank_ofStrength (n : Nat) : (ofStrength n).rank = min 12 (max 2 (13 - n)) := by
  match n with
  | 0 | 1 | 2 | 3 | 4 | 5 | 6 | 7 | 8 | 9 | 10 => rfl
  | n + 11 =>
      show 2 = _
      omega

theorem rank_ofStrength_le {m n : Nat} (h : m <= n) :
    (ofStrength n).rank <= (ofStrength m).rank := by
  rw [rank_ofStrength, rank_ofStrength]
  omega

theorem eq_of_rank_eq {a b : Level} (h : a.rank = b.rank) : a = b := by
  cases a <;> cases b <;> first | rfl | cases h

theorem exists_next? {level : Level} (h : 1 < level.rank) :
    exists inner, level.next? = some inner := by
  cases level with
  | atom => exact absurd h (by decide)
  | _ => exact ⟨_, rfl⟩

end Level

theorem derives_of_rank_le {inner level : Level} {tree : Node} {toks : List Token}
    (h : Derives toks (.node inner tree)) (hr : inner.rank <= level.rank) :
    Derives toks (.node level tree) := by
  induction hk : level.rank - inner.rank generalizing level with
  | zero =>
      have heq : inner = level := Level.eq_of_rank_eq (by omega)
      rw [← heq]
      exact h
  | succ k ih =>
      have hpos := inner.rank_pos
      have hlevel : 1 < level.rank := by
        omega
      rcases Level.exists_next? hlevel with ⟨middle, hmiddle⟩
      have hrank := Level.rank_of_next? hmiddle
      exact .tighter hmiddle (ih (by omega) (by omega))

/-!
# Written trees
-/

def Starts (text : String) : Prop :=
  exists c cs, text.toList = c :: cs ∧ c ≠ '=' ∧ Text.isBlank c = false

def Written (level : Level) (text : String) (tree : Node) : Prop :=
  exists toks, Derives toks (.node level tree) ∧ Lexes text toks ∧ Starts text

def Prints (tree : Node) : Prop :=
  Written (.ofStrength tree.strength) tree.unparse tree

theorem starts_append {a : String} (h : Starts a) (b : String) : Starts (a ++ b) := by
  rcases h with ⟨c, cs, hcs, hassign, hblank⟩
  exact ⟨c, cs ++ b.toList, by rw [String.toList_append, hcs, List.cons_append], hassign, hblank⟩

namespace Written

variable {inner level : Level} {text : String} {tree : Node}

theorem loosen (h : Written inner text tree) (hr : inner.rank <= level.rank) :
    Written level text tree := by
  rcases h with ⟨toks, hd, hlexes, hstarts⟩
  exact ⟨toks, derives_of_rank_le hd hr, hlexes, hstarts⟩

theorem parenthesized (h : Written .clause text tree) :
    Written .atom ("(" ++ text ++ ")") tree := by
  rcases h with ⟨toks, hd, hlexes, hstarts⟩
  refine ⟨_, .enclosed hd, ?_, starts_append (starts_append ⟨'(', [], rfl, by decide, by decide⟩ _) _⟩
  exact hlexes.between (by decide) (by decide) (by decide)

end Written

/-- A tree at a place that asks for some strength is read at every level of that strength. -/
theorem Prints.enclosed {tree : Node} (h : Prints tree) {least : Nat} {level : Level}
    (hlevel : (Level.ofStrength least).rank <= level.rank) :
    Written level (tree.enclosed least tree.unparse) tree := by
  unfold Node.enclosed
  split
  · exact (h.loosen (Level.rank_le _)).parenthesized.loosen level.rank_pos
  · rename_i hstrong
    exact h.loosen (Nat.le_trans (Level.rank_ofStrength_le (Nat.le_of_not_lt hstrong)) hlevel)

theorem Prints.clause {tree : Node} (h : Prints tree) : Written .clause tree.unparse tree :=
  h.loosen (Level.rank_le _)

/-!
# Signs between operands
-/

theorem Written.joined {level : Level} {build : Node -> Node -> Node} {sign : Token}
    {front sep back : String} {a b : Node} (ha : Written level.left front a)
    (hsign : join? sign = some (level, build)) (hsep : Separates sep sign)
    (hb : Written level.right back b) : Written level (front ++ sep ++ back) (build a b) := by
  rcases ha with ⟨toksA, hda, hlexesA, hstarts⟩
  rcases hb with ⟨toksB, hdb, hlexesB, _⟩
  exact ⟨_, .joined hsign hda hdb, hlexesA.around hsep hlexesB,
    starts_append (starts_append hstarts _) _⟩

/-- The least strength on the left of an operator, and the one on its right. -/
def operandStrengths (op : String) : Nat × Nat :=
  let own := Strength.ofSymbol op
  if op == "^" then (own + 1, own) else (own, own + 1)

theorem unparse_binary (op : String) (a b : Node) :
    (Node.binary op a b).unparse =
      a.enclosed (operandStrengths op).1 a.unparse ++ (" " ++ op ++ " ") ++
        b.enclosed (operandStrengths op).2 b.unparse := by
  show a.enclosed (if op == "^" then _ else _) a.unparse ++ " " ++ op ++ " " ++
    b.enclosed (if op == "^" then _ else _) b.unparse = _
  unfold operandStrengths
  cases op == "^" <;> simp only [String.append_assoc] <;> rfl

/-- What a sign makes of two operands: a pair, a range, or a call of an operator. -/
inductive Joins (level : Level) (build : Node -> Node -> Node) : Prop where
  | pair : level = .clause -> build = .pair -> Joins level build
  | range : level = .range -> build = .range -> Joins level build
  | binary {op : String} {sign : Token} :
      build = .binary op -> spacedSigns.lookup op = some sign -> join? sign = some (level, .binary op) ->
      level = .ofStrength (Strength.ofSymbol op) ->
      (Level.ofStrength (operandStrengths op).2).rank <= level.right.rank ->
      (level ≠ .comparison ->
        (Level.ofStrength (operandStrengths op).1).rank <= level.left.rank) ->
      Joins level build

theorem joins_of_join {sign : Token} {level : Level} {build : Node -> Node -> Node}
    (h : join? sign = some (level, build)) : Joins level build := by
  cases sign with
  | symbol s =>
      cases s <;> cases h
      all_goals first
        | exact .pair rfl rfl
        | exact .range rfl rfl
        | exact .binary rfl rfl rfl rfl (by decide) (by decide)
  | keyword k =>
      cases k <;> cases h
      all_goals exact .binary rfl rfl rfl rfl (by decide) (by decide)
  | _ => cases h

theorem prints_pair {a b : Node} (ha : Prints a) (hb : Prints b) : Prints (.pair a b) := by
  have hmem : ("=>", Token.symbol .arrow) ∈ spacedSigns := by
    decide
  have hsep : Separates " => " (.symbol .arrow) := separates_spacedSign hmem
  have hleft : Written Level.clause.left (a.enclosed 2 a.unparse) a := ha.enclosed (by decide)
  have hright : Written Level.clause.right (b.enclosed 2 b.unparse) b := hb.enclosed (by decide)
  exact hleft.joined rfl hsep hright

theorem prints_range {a b : Node} (ha : Prints a) (hb : Prints b) : Prints (.range a b) := by
  have hleft : Written Level.range.left (a.enclosed 7 a.unparse) a := ha.enclosed (by decide)
  have hright : Written Level.range.right (b.enclosed 7 b.unparse) b := hb.enclosed (by decide)
  have hsign : join? (.symbol .colon) = some (.range, .range) := rfl
  exact hleft.joined hsign separates_colon hright

theorem strength_of_comparison {op : String}
    (h : Level.comparison = .ofStrength (Strength.ofSymbol op)) :
    Strength.ofSymbol op = 5 ∧ (operandStrengths op).1 = 5 := by
  have hrank := Level.rank_ofStrength (Strength.ofSymbol op)
  rw [← h, Level.rank] at hrank
  have hfive : Strength.ofSymbol op = 5 := by
    omega
  refine ⟨hfive, ?_⟩
  unfold operandStrengths
  cases hop : op == "^" with
  | true =>
      rw [beq_iff_eq.mp hop] at hfive
      cases hfive
  | false => exact hfive

theorem prints_binary {level : Level} {op : String} {sign : Token} {a b : Node}
    (hlookup : spacedSigns.lookup op = some sign) (hsign : join? sign = some (level, .binary op))
    (hlevel : level = .ofStrength (Strength.ofSymbol op))
    (hright : (Level.ofStrength (operandStrengths op).2).rank <= level.right.rank)
    (hleft : level ≠ .comparison ->
      (Level.ofStrength (operandStrengths op).1).rank <= level.left.rank)
    (ha : Prints a) (hb : Prints b) (hcomparison : level = .comparison -> a.strength ≠ 5) :
    Prints (.binary op a b) := by
  rcases List.lookup_eq_some_iff.mp hlookup with ⟨before, after, hmem, _⟩
  have hsep : Separates (" " ++ op ++ " ") sign := by
    refine separates_spacedSign ?_
    rw [hmem]
    exact List.mem_append_right _ List.mem_cons_self
  have hfirst : Written level.left (a.enclosed (operandStrengths op).1 a.unparse) a := by
    by_cases hc : level = .comparison
    · have hne := hcomparison hc
      rw [hc] at hlevel
      have heq : a.enclosed (operandStrengths op).1 a.unparse = a.enclosed 6 a.unparse := by
        rw [(strength_of_comparison hlevel).2]
        unfold Node.enclosed
        by_cases hweak : a.strength < 5
        · rw [if_pos hweak, if_pos (by omega)]
        · rw [if_neg hweak, if_neg (by omega)]
      rw [heq, hc]
      exact ha.enclosed (by decide)
    · exact ha.enclosed (hleft hc)
  have hjoined := hfirst.joined hsign hsep (hb.enclosed hright)
  rw [← unparse_binary, hlevel] at hjoined
  exact hjoined

/-!
# Names
-/

/-- A name of letters, digits and underscores of the basic alphabet. -/
def isBasicName (name : String) : Bool :=
  match name.toList with
  | [] => false
  | c :: cs => (c.isAlpha || c == '_') && cs.all fun d => d.isAlphanum || d == '_'

/-- The keyword that a name is, in letters of any case. -/
def keywordOf? (name : String) : Option Keyword :=
  Keyword.ofText? (String.ofList (lowerAscii name.toList))

def IsRestorableName (name : String) : Prop :=
  (isBasicName name = true ∧ keywordOf? name = none) ∨
    (isPlainName name = false ∧ backslash ∉ name.toList)

theorem contains_of_mem {ranges : CharRanges} {c : Char} {low high : Nat}
    (hmem : (low, high) ∈ ranges) (hlow : low <= c.toNat) (hhigh : c.toNat <= high) :
    ranges.contains c = true := by
  rw [CharRanges.contains, List.any_eq_true]
  refine ⟨_, hmem, ?_⟩
  rw [decide_eq_true hlow, decide_eq_true hhigh]
  rfl

theorem isNameStart_of_basic {c : Char} (h : (c.isAlpha || c == '_') = true) :
    isNameStart c = true := by
  rw [Bool.or_eq_true, beq_iff_eq] at h
  rcases h with halpha | rfl
  · rcases isAlpha_range halpha with ⟨hlow, hhigh⟩ | ⟨hlow, hhigh⟩
    · exact contains_of_mem (by decide) hlow hhigh
    · exact contains_of_mem (by decide) hlow hhigh
  · decide

theorem isNameContinue_of_basic {c : Char} (h : (c.isAlphanum || c == '_') = true) :
    isNameContinue c = true := by
  rw [Bool.or_eq_true, beq_iff_eq, Char.isAlphanum, Bool.or_eq_true] at h
  rcases h with (halpha | hdigit) | rfl
  · rcases isAlpha_range halpha with ⟨hlow, hhigh⟩ | ⟨hlow, hhigh⟩
    · exact contains_of_mem (by decide) hlow hhigh
    · exact contains_of_mem (by decide) hlow hhigh
  · rcases Char.isDigit_iff_toNat.mp hdigit with ⟨hlow, hhigh⟩
    exact contains_of_mem (by decide) hlow hhigh
  · decide

theorem plain_of_basic {name : String} (h : isBasicName name = true) :
    isPlainName name = true ∧ IsWord name.toList := by
  rw [isBasicName] at h
  rw [isPlainName]
  cases hcs : name.toList with
  | nil =>
      rw [hcs] at h
      cases h
  | cons c cs =>
      rw [hcs] at h
      rcases Bool.and_eq_true_iff.mp h with ⟨hhead, hall⟩
      have htail := List.all_eq_true.mp hall
      constructor
      · dsimp only
        rw [isNameStart_of_basic hhead, Bool.true_and, List.all_eq_true]
        intro d hd
        exact isNameContinue_of_basic (htail d hd)
      · refine ⟨?_, ?_, ?_⟩
        · rw [isNameHead, hhead]
          rfl
        · intro d hd
          rw [isNameTail, htail d hd]
          rfl
        · rintro rfl
          cases hhead

def IsNameToken (token : Token) (name : String) : Prop :=
  leaf? token = some (.identifier name) ∧ target? token = some name

theorem starts_of_word {cs : List Char} (h : IsWord cs) : Starts (String.ofList cs) := by
  cases cs with
  | nil => cases h
  | cons c cs =>
      refine ⟨c, cs, String.toList_ofList, ?_, not_blank_of_isNameHead h.1⟩
      rintro rfl
      cases h.1

theorem lexes_quotedName {name : String} (hslash : backslash ∉ name.toList) :
    Lexes (String.ofList
      (backtick :: (replaceChar backtick [backslash, backtick] name.toList ++ [backtick])))
      [.quotedName name] := by
  have hescape : forall c, c ∈ name.toList ->
      (if c == backtick then [backslash, backtick] else [c]) = [backslash, c] ∨
        ((if c == backtick then [backslash, backtick] else [c]) = [c] ∧ c ≠ backslash ∧
          c ≠ backtick) := by
    intro c hc
    split
    · rename_i heq
      rw [beq_iff_eq.mp heq]
      exact .inl rfl
    · rename_i hne
      refine .inr ⟨rfl, ?_, ?_⟩
      · rintro rfl
        exact hslash hc
      · intro heq
        exact hne (beq_iff_eq.mpr heq)
  have htoken : quotedToken backtick name.toList = .quotedName name := by
    rw [quotedToken, beq_self_eq_true, if_pos rfl, String.ofList_toList]
  rw [← htoken]
  exact lexes_quoted rfl hescape

theorem lexes_name {name : String} (h : IsRestorableName name) :
    exists token, IsNameToken token name ∧ Lexes (nameText name) [token] ∧
      Starts (nameText name) := by
  rcases h with ⟨hbasic, hkeyword⟩ | ⟨hplain, hslash⟩
  · rcases plain_of_basic hbasic with ⟨hplain, hword⟩
    have htext : nameText name = String.ofList name.toList := by
      rw [nameText, hplain, if_pos rfl, String.ofList_toList]
    have htoken : nameToken name.toList = .identifier name := by
      unfold keywordOf? at hkeyword
      rw [nameToken, hkeyword, String.ofList_toList]
    refine ⟨.identifier name, ⟨rfl, rfl⟩, ?_, ?_⟩
    · rw [htext, ← htoken]
      exact lexes_word hword
    · rw [htext]
      exact starts_of_word hword
  · have htext : nameText name = String.ofList
        (backtick :: (replaceChar backtick [backslash, backtick] name.toList ++ [backtick])) := by
      rw [nameText, hplain, if_neg Bool.false_ne_true]
    refine ⟨.quotedName name, ⟨rfl, rfl⟩, ?_, ?_⟩
    · rw [htext]
      exact lexes_quotedName hslash
    · rw [htext]
      exact ⟨backtick, _, String.toList_ofList, by decide, by decide⟩

theorem prints_identifier {name : String} (h : IsRestorableName name) :
    Prints (.identifier name) := by
  rcases lexes_name h with ⟨token, htoken, hlexes, hstarts⟩
  exact ⟨[token], derives_of_rank_le (.leaf htoken.1) (Level.rank_pos _), hlexes, hstarts⟩

/-!
# Literals
-/

theorem prints_keyword {value : Value} {word : List Char} (hword : IsWord word)
    (hleaf : leaf? (nameToken word) = some (.literal value))
    (htext : (Node.literal value).unparse = String.ofList word) : Prints (.literal value) := by
  have hlexes := lexes_word hword
  have hstarts := starts_of_word hword
  rw [← htext] at hlexes hstarts
  exact ⟨_, derives_of_rank_le (.leaf hleaf) (Level.rank_pos _), hlexes, hstarts⟩

theorem prints_missing : Prints (.literal .missing) := by
  have hword : IsWord ['m', 'i', 's', 's', 'i', 'n', 'g'] :=
    ⟨rfl, List.all_eq_true.mp rfl, by decide⟩
  exact prints_keyword hword rfl rfl

theorem prints_bool (b : Bool) : Prints (.literal (.bool b)) := by
  cases b with
  | true =>
      have hword : IsWord ['t', 'r', 'u', 'e'] := ⟨rfl, List.all_eq_true.mp rfl, by decide⟩
      exact prints_keyword hword rfl rfl
  | false =>
      have hword : IsWord ['f', 'a', 'l', 's', 'e'] := ⟨rfl, List.all_eq_true.mp rfl, by decide⟩
      exact prints_keyword hword rfl rfl

def escapeInText (c : Char) : List Char :=
  if c == backslash || c == doubleQuote then [backslash, c] else [c]

theorem escapedText_eq (s : String) :
    escapedText s = String.ofList (s.toList.flatMap escapeInText) := by
  unfold escapedText replaceChar
  rw [List.flatMap_assoc]
  congr 2
  funext c
  unfold escapeInText
  cases hslash : c == backslash with
  | true =>
      rw [beq_iff_eq.mp hslash]
      rfl
  | false =>
      rw [if_neg Bool.false_ne_true, Bool.false_or, List.flatMap_singleton]
      split
      · rename_i hquote
        rw [beq_iff_eq.mp hquote]
      · rfl

theorem prints_str (s : String) : Prints (.literal (.str s)) := by
  have hescape : forall c, c ∈ s.toList -> escapeInText c = [backslash, c] ∨
      (escapeInText c = [c] ∧ c ≠ backslash ∧ c ≠ doubleQuote) := by
    intro c _
    unfold escapeInText
    split
    · exact .inl rfl
    · rename_i hplain
      simp only [Bool.or_eq_true, beq_iff_eq, not_or] at hplain
      exact .inr ⟨rfl, hplain⟩
  have htext : (Node.literal (.str s)).unparse =
      String.ofList (doubleQuote :: (s.toList.flatMap escapeInText ++ [doubleQuote])) := by
    show "\"" ++ escapedText s ++ "\"" = _
    rw [escapedText_eq, ← String.toList_inj]
    simp only [String.toList_append, String.toList_ofList]
    rfl
  have htoken : quotedToken doubleQuote s.toList = .text s := by
    rw [quotedToken, if_neg (by decide), String.ofList_toList]
  have hlexes : Lexes (Node.literal (.str s)).unparse [.text s] := by
    rw [htext, ← htoken]
    exact lexes_quoted rfl hescape
  refine ⟨_, derives_of_rank_le (.leaf rfl) (Level.rank_pos _), hlexes, ?_⟩
  rw [htext]
  exact ⟨doubleQuote, _, String.toList_ofList, by decide, by decide⟩

theorem starts_nat (n : Nat) : Starts n.repr := by
  have htext : n.repr.toList = Nat.toDigits 10 n := Nat.toList_repr
  cases hdigits : Nat.toDigits 10 n with
  | nil => exact absurd hdigits Nat.toDigits_ne_nil
  | cons c cs =>
      have hc : c.isDigit = true := by
        have hmem : c ∈ Nat.toDigits 10 n := by
          rw [hdigits]
          exact List.mem_cons_self
        exact Nat.isDigit_of_mem_toDigits (by decide) (by decide) hmem
      refine ⟨c, cs, htext.trans hdigits, ?_, not_blank_of_isDigit hc⟩
      rintro rfl
      cases hc

theorem Written.afterMinus {level : Level} {text : String} {tree whole : Node}
    (h : Written level text tree)
    (hd : forall {toks}, Derives toks (.node level tree) ->
      Derives (.symbol .minus :: toks) (.node .signed whole)) :
    Written .signed ("-" ++ text) whole := by
  rcases h with ⟨toks, hderives, hlexes, _⟩
  exact ⟨_, hd hderives, Lexes.after (fun rest => lexed_loneSymbol (by decide) _) hlexes,
    starts_append ⟨'-', [], rfl, by decide, by decide⟩ _⟩

theorem written_nat {n : Nat} (h : n < 10 ^ digitLimit) :
    Written .atom n.repr (.literal (.int (Int.ofNat n))) :=
  ⟨_, .leaf rfl, lexes_nat h, starts_nat n⟩

theorem prints_int {n : Int} (h : n.natAbs < 10 ^ digitLimit) : Prints (.literal (.int n)) := by
  cases n with
  | ofNat k => exact (written_nat h).loosen (Level.rank_pos _)
  | negSucc k =>
      have hsigned : Written .signed (k + 1).repr (.literal (.int (Int.ofNat (k + 1)))) :=
        (written_nat h).loosen (by decide)
      have hstrength : (Node.literal (.int (Int.negSucc k))).strength = Strength.negate := by
        show (if Int.negSucc k < 0 then _ else _) = _
        rw [if_pos (Int.negSucc_lt_zero k)]
      unfold Prints
      rw [hstrength]
      exact hsigned.afterMinus .negativeInt

/-!
# Signs before an operand
-/

theorem prints_minus {tree : Node} (hnumber : isNumber tree = false) (h : Prints tree) :
    Prints (.unary "-" tree) := by
  have hoperand : Written .signed (tree.enclosed Strength.negate tree.unparse) tree :=
    h.enclosed (by decide)
  exact hoperand.afterMinus (.negative hnumber)

theorem prints_not {tree : Node}
    (hbang : (tree.enclosed Strength.invert tree.unparse).toList.head? ≠ some '!')
    (h : Prints tree) : Prints (.unary "!" tree) := by
  have hoperand : Written .negation (tree.enclosed Strength.invert tree.unparse) tree :=
    h.enclosed (by decide)
  rcases hoperand with ⟨toks, hd, hlexes, c, cs, htext, hassign, _⟩
  rw [htext, List.head?_cons, Ne, Option.some.injEq] at hbang
  have hsign : Token.symbol .bang ∈ notSigns := by
    decide
  refine ⟨_, .inverted hsign hd, Lexes.after ?_ hlexes,
    starts_append ⟨'!', [], rfl, by decide, by decide⟩ _⟩
  intro rest
  show lexed ('!' :: ((tree.enclosed Strength.invert tree.unparse).toList ++ rest)) =
    (lexed ((tree.enclosed Strength.invert tree.unparse).toList ++ rest)).map _
  rw [htext, List.cons_append]
  exact lexed_bang hbang hassign _

theorem prints_interpolate {tree : Node} (h : Prints tree) : Prints (.interpolate tree) := by
  have hoperand : Written .application (tree.enclosed Strength.atom tree.unparse) tree :=
    h.enclosed (by decide)
  rcases hoperand with ⟨toks, hd, hlexes, _⟩
  refine ⟨_, derives_of_rank_le (.marked hd) (Level.rank_pos _), ?_,
    starts_append ⟨'!', ['!'], rfl, by decide, by decide⟩ _⟩
  intro rest hrest
  show lexed (("!!" ++ tree.enclosed Strength.atom tree.unparse).toList ++ rest) = _
  rw [String.toList_append, List.append_assoc]
  show lexed ('!' :: '!' :: ((tree.enclosed Strength.atom tree.unparse).toList ++ rest)) = _
  rw [lexed_marker, hlexes rest hrest, Option.map_map]
  rfl

/-!
# Lists

Canonical text has no comma after the last item, so a list of one item is a
derivation of its own.
-/

def ReadsAs (text : String) (phrase : Phrase) : Prop :=
  exists toks, Derives toks phrase ∧ Lexes text toks

theorem lexes_joined {text : String} {texts : List String} {front back : List Token}
    (h : Lexes text front) (hne : texts ≠ []) (hrest : Lexes (joined ", " texts) back) :
    Lexes (joined ", " (text :: texts)) (front ++ .symbol .comma :: back) := by
  rw [joined, String.intercalate_cons_of_ne_nil hne]
  exact h.around separates_comma hrest

theorem reads_items {trees : List Node} (h : forall tree, tree ∈ trees -> Prints tree) :
    ReadsAs (joined ", " (unparseAll trees)) (.items trees) := by
  induction trees with
  | nil => exact ⟨[], .noItems, Lexes.empty⟩
  | cons tree others ih =>
      rcases (h tree List.mem_cons_self).clause with ⟨front, hd, hlexes, _⟩
      rcases ih fun other hother => h other (List.mem_cons_of_mem _ hother) with ⟨back, hback, hrest⟩
      cases others with
      | nil =>
          refine ⟨front, .lastItem hd, ?_⟩
          rw [unparseAll, unparseAll, joined, String.intercalate_singleton]
          exact hlexes
      | cons other others =>
          refine ⟨_, .moreItems hd hback, lexes_joined hlexes ?_ hrest⟩
          intro hnil
          cases hnil

theorem lexes_named {name text : String} {toks : List Token}
    (hname : (Token.identifier name).IsLegible) (h : Lexes text toks) :
    Lexes (name ++ " = " ++ text) (.identifier name :: .symbol .assign :: toks) := by
  have hmem : ("=", Token.symbol .assign) ∈ spacedSigns := by
    decide
  have hsep : Separates " = " (.symbol .assign) := separates_spacedSign hmem
  have hword := lexes_word hname.1
  rw [String.ofList_toList, nameToken, hname.2, String.ofList_toList] at hword
  exact hword.around hsep h

theorem reads_named {kwargs : List (String × Node)}
    (hnames : forall entry, entry ∈ kwargs -> (Token.identifier entry.1).IsLegible)
    (h : forall entry, entry ∈ kwargs -> Prints entry.2) :
    ReadsAs (joined ", " (unparseNamed kwargs)) (.named kwargs) := by
  induction kwargs with
  | nil => exact ⟨[], .noNamed, Lexes.empty⟩
  | cons entry others ih =>
      rcases (h entry List.mem_cons_self).clause with ⟨front, hd, hlexes, _⟩
      have hfirst := lexes_named (hnames entry List.mem_cons_self) hlexes
      have hothers := ih (fun other hother => hnames other (List.mem_cons_of_mem _ hother))
        (fun other hother => h other (List.mem_cons_of_mem _ hother))
      rcases hothers with ⟨back, hback, hrest⟩
      cases others with
      | nil =>
          refine ⟨_, .lastNamed hd, ?_⟩
          rw [unparseNamed, unparseNamed, joined, String.intercalate_singleton]
          exact hfirst
      | cons other others =>
          refine ⟨_, .moreNamed hd hback, lexes_joined hfirst ?_ hrest⟩
          intro hnil
          cases hnil

theorem reads_arguments {args : List Node} {kwargs : List (String × Node)}
    (hargs : forall tree, tree ∈ args -> Prints tree)
    (hkwargs : ReadsAs (joined ", " (unparseNamed kwargs)) (.named kwargs)) :
    ReadsAs (joined ", " (unparseAll args ++ unparseNamed kwargs)) (.arguments args kwargs) := by
  induction args with
  | nil =>
      rcases hkwargs with ⟨toks, hd, hlexes⟩
      exact ⟨toks, .onlyNamed hd, hlexes⟩
  | cons tree args ih =>
      rcases (hargs tree List.mem_cons_self).clause with ⟨front, hd, hlexes, _⟩
      rcases ih fun other hother => hargs other (List.mem_cons_of_mem _ hother)
        with ⟨back, hback, hrest⟩
      rw [unparseAll, List.cons_append]
      cases htexts : unparseAll args ++ unparseNamed kwargs with
      | nil =>
          rcases List.append_eq_nil_iff.mp htexts with ⟨hnoArgs, hnoKwargs⟩
          have hargsNil : args = [] := by
            cases args with
            | nil => rfl
            | cons arg args => cases hnoArgs
          have hkwargsNil : kwargs = [] := by
            cases kwargs with
            | nil => rfl
            | cons entry kwargs => cases hnoKwargs
          rw [hargsNil, hkwargsNil, joined, String.intercalate_singleton]
          exact ⟨front, .lastArgument hd, hlexes⟩
      | cons text texts =>
          rw [htexts] at hrest
          refine ⟨_, .moreArguments hd hback, lexes_joined hlexes ?_ hrest⟩
          intro hnil
          cases hnil

/-!
# Brackets
-/

theorem written_call {head text : String} {args : List Node} {kwargs : List (String × Node)}
    (hhead : (Token.identifier head).IsLegible) (h : ReadsAs text (.arguments args kwargs)) :
    Written .application (head ++ "(" ++ text ++ ")") (.call head args kwargs false) := by
  rcases h with ⟨toks, hd, hlexes⟩
  have hopen : Separates "(" (.symbol .openParen) := separates_lone (by decide) (by decide)
  have hclose : Separates ")" (.symbol .closeParen) := separates_lone (by decide) (by decide)
  have hword := lexes_word hhead.1
  have hstarts := starts_of_word hhead.1
  rw [String.ofList_toList, nameToken, hhead.2, String.ofList_toList] at hword
  rw [String.ofList_toList] at hstarts
  exact ⟨_, .call hd, (hword.around hopen hlexes).before hclose,
    starts_append (starts_append (starts_append hstarts _) _) _⟩

theorem prints_call {head : String} {args : List Node} {kwargs : List (String × Node)}
    (hhead : (Token.identifier head).IsLegible)
    (h : ReadsAs (joined ", " (unparseAll args ++ unparseNamed kwargs)) (.arguments args kwargs)) :
    Prints (.call head args kwargs false) := by
  have htext : (Node.call head args kwargs false).unparse =
      callText head (unparseAll args) (unparseNamed kwargs) := by
    rw [unparse]
    all_goals
      intros
      contradiction
  unfold Prints
  rw [htext]
  exact written_call hhead h

theorem prints_vector {trees : List Node} (h : forall tree, tree ∈ trees -> Prints tree) :
    Prints (.vector trees) := by
  rcases reads_items h with ⟨toks, hd, hlexes⟩
  refine ⟨_, derives_of_rank_le (.vector hd) (Level.rank_pos _), ?_,
    starts_append (starts_append ⟨'[', [], rfl, by decide, by decide⟩ _) _⟩
  show Lexes ("[" ++ joined ", " (unparseAll trees) ++ "]") _
  exact hlexes.between (by decide) (by decide) (by decide)

theorem prints_emptyTuple : Prints (.tuple []) := by
  refine ⟨_, derives_of_rank_le .emptyTuple (Level.rank_pos _), ?_, '(', [')'], rfl, by decide,
    by decide⟩
  exact Lexes.empty.between (by decide) (by decide) (by decide)

/-- A tuple of one item has a comma, as it would be that item otherwise. -/
theorem prints_singleTuple {tree : Node} (h : Prints tree) : Prints (.tuple [tree]) := by
  rcases h.clause with ⟨toks, hd, hlexes, _⟩
  have hcomma : Separates "," (.symbol .comma) := separates_lone (by decide) (by decide)
  refine ⟨_, derives_of_rank_le (.tuple hd .noItems) (Level.rank_pos _), ?_,
    starts_append (starts_append ⟨'(', [], rfl, by decide, by decide⟩ _) _⟩
  have hbetween : Lexes ("(" ++ (tree.unparse ++ ",") ++ ")")
      (.symbol .openParen :: ((toks ++ [.symbol .comma]) ++ [.symbol .closeParen])) :=
    (hlexes.before hcomma).between (by decide) (by decide) (by decide)
  rw [List.append_assoc, ← String.append_assoc, String.append_assoc] at hbetween
  exact hbetween

theorem prints_tuple {trees : List Node} (h : forall tree, tree ∈ trees -> Prints tree) :
    Prints (.tuple trees) := by
  cases trees with
  | nil => exact prints_emptyTuple
  | cons first others =>
      have hfirst := h first List.mem_cons_self
      have hothers := fun other hother => h other (List.mem_cons_of_mem first hother)
      cases hcons : others with
      | nil => exact prints_singleTuple hfirst
      | cons second rest =>
          rw [← hcons]
          have hne : unparseAll others ≠ [] := by
            rw [hcons]
            intro hnil
            cases hnil
          rcases hfirst.clause with ⟨front, hfront, hlexes, _⟩
          rcases reads_items hothers with ⟨back, hback, hrest⟩
          have htext : (Node.tuple (first :: others)).unparse =
              "(" ++ joined ", " (first.unparse :: unparseAll others) ++ ")" := by
            rw [hcons]
            rfl
          have hbetween : Lexes ("(" ++ joined ", " (first.unparse :: unparseAll others) ++ ")")
              (.symbol .openParen :: ((front ++ .symbol .comma :: back) ++ [.symbol .closeParen])) :=
            (lexes_joined hlexes hne hrest).between (by decide) (by decide) (by decide)
          rw [← htext, List.append_assoc, List.cons_append] at hbetween
          refine ⟨_, derives_of_rank_le (.tuple hfront hback) (Level.rank_pos _), hbetween, ?_⟩
          rw [htext]
          exact starts_append (starts_append ⟨'(', [], rfl, by decide, by decide⟩ _) _

end Grammar
end Wrangle
