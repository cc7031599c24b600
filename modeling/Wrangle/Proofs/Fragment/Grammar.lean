import Wrangle.Fragment.Parser
import Wrangle.Proofs.Outcome

/-!
# The grammar of fragments

The grammar says which trees a sequence of tokens may be read as, without saying
how a tree is found.  Its operators stand at levels, from the loosest to the
tightest; every level takes in the levels below it.  What stands between two
operands is given by a table: the levels of the operands, and what a sign makes
of them.
-/

namespace Wrangle
namespace Grammar

/-!
# Levels
-/

inductive Level where
  | clause
  | disjunction
  | conjunction
  | negation
  | comparison
  | range
  | sum
  | product
  | signed
  | power
  | application
  | atom
  deriving DecidableEq, Repr

namespace Level

def next? : Level -> Option Level
  | clause => some disjunction
  | disjunction => some conjunction
  | conjunction => some negation
  | negation => some comparison
  | comparison => some range
  | range => some sum
  | sum => some product
  | product => some signed
  | signed => some power
  | power => some application
  | application => some atom
  | atom => none

def rank : Level -> Nat
  | clause => 12
  | disjunction => 11
  | conjunction => 10
  | negation => 9
  | comparison => 8
  | range => 7
  | sum => 6
  | product => 5
  | signed => 4
  | power => 3
  | application => 2
  | atom => 1

/-!
# Signs between operands

Disjunctions, conjunctions, sums and products take one of their own kind on the
left.  Clauses, comparisons and ranges do not, so there is at most one sign of
them in a row.  A power takes signs on its right only.
-/

/-- The level of the operand on the left of a sign. -/
def left : Level -> Level
  | clause => disjunction
  | disjunction => disjunction
  | conjunction => conjunction
  | comparison => range
  | range => sum
  | sum => sum
  | product => product
  | _ => application

/-- The level of the operand on the right of a sign. -/
def right : Level -> Level
  | clause => disjunction
  | disjunction => conjunction
  | conjunction => negation
  | comparison => range
  | range => sum
  | sum => product
  | _ => signed

end Level

/-- The level at which a sign stands between operands, and what it makes of them. -/
def join? : Token -> Option (Level × (Node -> Node -> Node))
  | .symbol .arrow => some (.clause, .pair)
  | .symbol .tilde => some (.clause, .pair)
  | .symbol .bar => some (.disjunction, .binary "|")
  | .symbol .orOr => some (.disjunction, .binary "|")
  | .keyword .orWord => some (.disjunction, .binary "|")
  | .symbol .ampersand => some (.conjunction, .binary "&")
  | .symbol .andAnd => some (.conjunction, .binary "&")
  | .keyword .andWord => some (.conjunction, .binary "&")
  | .symbol .equals => some (.comparison, .binary "==")
  | .symbol .differs => some (.comparison, .binary "!=")
  | .symbol .atLeast => some (.comparison, .binary ">=")
  | .symbol .atMost => some (.comparison, .binary "<=")
  | .symbol .greater => some (.comparison, .binary ">")
  | .symbol .less => some (.comparison, .binary "<")
  | .keyword .inWord => some (.comparison, .binary "in")
  | .symbol .colon => some (.range, .range)
  | .symbol .plus => some (.sum, .binary "+")
  | .symbol .minus => some (.sum, .binary "-")
  | .symbol .star => some (.product, .binary "*")
  | .symbol .slash => some (.product, .binary "/")
  | .symbol .percent => some (.product, .binary "%")
  | .symbol .caret => some (.power, .binary "^")
  | _ => none

/-!
# Single tokens
-/

def notSigns : List Token := [.symbol .bang, .keyword .notWord]

def leaf? : Token -> Option Node
  | .identifier name => some (.identifier name)
  | .quotedName name => some (.identifier name)
  | .text s => some (.literal (.str s))
  | .integer n => some (.literal (.int n))
  | .decimal x => some (.literal (.ofFloat x))
  | .keyword k => k.value?.map .literal
  | _ => none

def target? : Token -> Option String
  | .identifier name => some name
  | .quotedName name => some name
  | .text s => some s
  | _ => none

def isNumber : Node -> Bool
  | .literal (.int _) => true
  | .literal (.float _ _) => true
  | _ => false

/-!
# Derivations
-/

/-- A part of a fragment, with what it is read as. -/
inductive Phrase where
  | node (level : Level) (tree : Node)
  | items (trees : List Node)
  | arguments (args : List Node) (kwargs : List (String × Node))
  | named (kwargs : List (String × Node))

/-- The tokens of a phrase.  Lists of items and of arguments may end with a comma. -/
inductive Derives : List Token -> Phrase -> Prop where
  | tighter {level inner tree ts} :
      level.next? = some inner -> Derives ts (.node inner tree) -> Derives ts (.node level tree)
  | joined {level : Level} {sign build a b front back} :
      join? sign = some (level, build) ->
      Derives front (.node level.left a) -> Derives back (.node level.right b) ->
      Derives (front ++ sign :: back) (.node level (build a b))
  | inverted {sign tree ts} :
      sign ∈ notSigns -> Derives ts (.node .negation tree) ->
      Derives (sign :: ts) (.node .negation (.unary "!" tree))
  | negativeInt {n ts} :
      Derives ts (.node .signed (.literal (.int n))) ->
      Derives (.symbol .minus :: ts) (.node .signed (.literal (.int (-n))))
  | negativeFloat {x origin ts} :
      Derives ts (.node .signed (.literal (.float x origin))) ->
      Derives (.symbol .minus :: ts) (.node .signed (.literal (.ofFloat (-x))))
  | negative {tree ts} :
      isNumber tree = false -> Derives ts (.node .signed tree) ->
      Derives (.symbol .minus :: ts) (.node .signed (.unary "-" tree))
  | positive {tree ts} :
      Derives ts (.node .signed tree) -> Derives (.symbol .plus :: ts) (.node .signed tree)
  | call {head args kwargs ts} :
      Derives ts (.arguments args kwargs) ->
      Derives (.identifier head :: .symbol .openParen :: (ts ++ [.symbol .closeParen]))
        (.node .application (.call head args kwargs false))
  | marked {tree ts} :
      Derives ts (.node .application tree) ->
      Derives (.marker :: ts) (.node .atom (.interpolate tree))
  | leaf {t tree} :
      leaf? t = some tree -> Derives [t] (.node .atom tree)
  | enclosed {tree ts} :
      Derives ts (.node .clause tree) ->
      Derives (.symbol .openParen :: (ts ++ [.symbol .closeParen])) (.node .atom tree)
  | emptyTuple :
      Derives [.symbol .openParen, .symbol .closeParen] (.node .atom (.tuple []))
  | tuple {first others front back} :
      Derives front (.node .clause first) -> Derives back (.items others) ->
      Derives (.symbol .openParen :: (front ++ .symbol .comma :: (back ++ [.symbol .closeParen])))
        (.node .atom (.tuple (first :: others)))
  | vector {trees ts} :
      Derives ts (.items trees) ->
      Derives (.symbol .openBracket :: (ts ++ [.symbol .closeBracket]))
        (.node .atom (.vector trees))
  | noItems : Derives [] (.items [])
  | lastItem {tree ts} :
      Derives ts (.node .clause tree) -> Derives ts (.items [tree])
  | moreItems {tree others front back} :
      Derives front (.node .clause tree) -> Derives back (.items others) ->
      Derives (front ++ .symbol .comma :: back) (.items (tree :: others))
  | onlyNamed {kwargs ts} :
      Derives ts (.named kwargs) -> Derives ts (.arguments [] kwargs)
  | lastArgument {tree ts} :
      Derives ts (.node .clause tree) -> Derives ts (.arguments [tree] [])
  | moreArguments {tree args kwargs front back} :
      Derives front (.node .clause tree) -> Derives back (.arguments args kwargs) ->
      Derives (front ++ .symbol .comma :: back) (.arguments (tree :: args) kwargs)
  | noNamed : Derives [] (.named [])
  | lastNamed {name tree ts} :
      Derives ts (.node .clause tree) ->
      Derives (.identifier name :: .symbol .assign :: ts) (.named [(name, tree)])
  | moreNamed {name tree kwargs front back} :
      Derives front (.node .clause tree) -> Derives back (.named kwargs) ->
      Derives (.identifier name :: .symbol .assign :: (front ++ .symbol .comma :: back))
        (.named ((name, tree) :: kwargs))

/-- The tokens of a whole fragment, up to the one that stands for its end. -/
inductive DerivesFragment (allowAssignment : Bool) : List Token -> Node -> Prop where
  | expression {tree ts} :
      Derives ts (.node .clause tree) -> DerivesFragment allowAssignment (ts ++ [.finish]) tree
  | assignment {t name tree ts} :
      allowAssignment = true -> target? t = some name -> Derives ts (.node .clause tree) ->
      DerivesFragment allowAssignment (t :: .symbol .assign :: (ts ++ [.finish]))
        (.assignment name tree)

/-!
# Readers of the levels

The reader of a level takes an operand of the next tighter level, and goes on
with the signs that the level has.  This module names the reader of each level,
and what it does after its first operand, so that the table of signs describes
all of them at once.
-/

open Wrangle.Parser

/-!
# Tests of the next token
-/

theorem eq_cons_of_next_token {ts : List Located} {token : Token}
    (h : (next ts).token = token) (hne : token ≠ .finish) :
    exists t, t.token = token ∧ ts = t :: ts.tail := by
  cases ts with
  | nil =>
      exact absurd h.symm hne
  | cons t more =>
      exact ⟨t, h, rfl⟩

theorem exists_around {ts : List Located} {front back : List Token} {sign : Token}
    (h : ts.map Located.token = front ++ sign :: back) :
    exists start t last, ts = start ++ t :: last ∧ start.map Located.token = front ∧
      t.token = sign ∧ last.map Located.token = back := by
  rcases List.map_eq_append_iff.mp h with ⟨start, others, rfl, hstart, hothers⟩
  rcases List.map_eq_cons_iff.mp hothers with ⟨t, last, rfl, ht, hlast⟩
  exact ⟨start, t, last, rfl, hstart, ht, hlast⟩

theorem exists_before {ts : List Located} {front : List Token} {closer : Token}
    (h : ts.map Located.token = front ++ [closer]) :
    exists start c, ts = start ++ [c] ∧ start.map Located.token = front ∧ c.token = closer := by
  rcases exists_around h with ⟨start, c, last, rfl, hstart, hc, hlast⟩
  rw [List.map_eq_nil_iff.mp hlast]
  exact ⟨start, c, rfl, hstart, hc⟩

theorem isSymbol_iff {s : Symbol} {ts : List Located} :
    isSymbol s ts = true <-> (next ts).token = .symbol s := by
  simp [isSymbol]

theorem isSymbol_cons_iff {s : Symbol} {t : Located} {ts : List Located} :
    isSymbol s (t :: ts) = true <-> t.token = .symbol s := isSymbol_iff

theorem isNot_iff {ts : List Located} : isNot ts = true <-> (next ts).token ∈ notSigns := by
  simp [isNot, isSymbol, isKeyword, notSigns]

/-!
# The table of signs and the tests of the parser
-/

def Level.join (level : Level) (sign : Token) : Option (Node -> Node -> Node) :=
  match join? sign with
  | some (home, build) => if home = level then some build else none
  | none => none

theorem join_eq_some_iff {level : Level} {sign : Token} {build : Node -> Node -> Node} :
    level.join sign = some build <-> join? sign = some (level, build) := by
  unfold Level.join
  cases join? sign with
  | none => simp
  | some found => simp [Prod.ext_iff]

theorem clause_join (ts : List Located) :
    Level.clause.join (next ts).token = if isClause ts then some .pair else none := by
  unfold isClause isSymbol
  cases (next ts).token with
  | symbol s => cases s <;> rfl
  | keyword k => cases k <;> rfl
  | _ => rfl

theorem disjunction_join (ts : List Located) :
    Level.disjunction.join (next ts).token = if isOr ts then some (.binary "|") else none := by
  unfold isOr isSymbol isKeyword
  cases (next ts).token with
  | symbol s => cases s <;> rfl
  | keyword k => cases k <;> rfl
  | _ => rfl

theorem conjunction_join (ts : List Located) :
    Level.conjunction.join (next ts).token = if isAnd ts then some (.binary "&") else none := by
  unfold isAnd isSymbol isKeyword
  cases (next ts).token with
  | symbol s => cases s <;> rfl
  | keyword k => cases k <;> rfl
  | _ => rfl

theorem comparison_join (ts : List Located) :
    Level.comparison.join (next ts).token = (comparison? ts).map .binary := by
  unfold comparison?
  cases (next ts).token with
  | symbol s => cases s <;> rfl
  | keyword k => cases k <;> rfl
  | _ => rfl

theorem range_join (ts : List Located) :
    Level.range.join (next ts).token = if isSymbol .colon ts then some .range else none := by
  unfold isSymbol
  cases (next ts).token with
  | symbol s => cases s <;> rfl
  | keyword k => cases k <;> rfl
  | _ => rfl

theorem sum_join (ts : List Located) :
    Level.sum.join (next ts).token = (additive? ts).map .binary := by
  unfold additive?
  cases (next ts).token with
  | symbol s => cases s <;> rfl
  | keyword k => cases k <;> rfl
  | _ => rfl

theorem product_join (ts : List Located) :
    Level.product.join (next ts).token = (multiplicative? ts).map .binary := by
  unfold multiplicative?
  cases (next ts).token with
  | symbol s => cases s <;> rfl
  | keyword k => cases k <;> rfl
  | _ => rfl

theorem power_join (ts : List Located) :
    Level.power.join (next ts).token =
      if isSymbol .caret ts then some (.binary "^") else none := by
  unfold isSymbol
  cases (next ts).token with
  | symbol s => cases s <;> rfl
  | keyword k => cases k <;> rfl
  | _ => rfl

/-!
# Readers
-/

namespace Level

def isJoining : Level -> Bool
  | negation => false
  | signed => false
  | application => false
  | atom => false
  | _ => true

def isChain : Level -> Bool
  | disjunction => true
  | conjunction => true
  | sum => true
  | product => true
  | _ => false

def read : Level -> Nat -> List Located -> Except ParseError (Read Node)
  | clause => Parser.expression
  | disjunction => Parser.disjunction
  | conjunction => Parser.conjunction
  | negation => Parser.negation
  | comparison => Parser.comparison
  | range => Parser.range
  | sum => Parser.sum
  | product => Parser.product
  | signed => Parser.signed
  | power => Parser.power
  | application => Parser.application
  | atom => Parser.atom

def once (level : Level) (depth : Nat) (left : Node) (ts : List Located) :
    Except ParseError (Read Node) :=
  match level.join (next ts).token with
  | some build => do
      let (right, rest) <- level.right.read depth ts.tail
      .ok (build left right, rest)
  | none => .ok (left, ts)

def resume : Level -> Nat -> Node -> List Located -> Except ParseError (Read Node)
  | disjunction => moreDisjuncts
  | conjunction => moreConjuncts
  | sum => moreTerms
  | product => moreFactors
  | level => level.once

theorem isJoining_of_join {level : Level} {sign : Token} {build}
    (h : join? sign = some (level, build)) : level.isJoining = true := by
  cases sign with
  | symbol s => cases s <;> cases h <;> rfl
  | keyword k => cases k <;> cases h <;> rfl
  | _ => cases h

theorem left_eq_of_chain {level : Level} (h : level.isChain = true) : level.left = level := by
  cases level <;> first | rfl | cases h

theorem next?_of_chain {level : Level} (h : level.isChain = true) :
    level.next? = some level.right := by
  cases level <;> first | rfl | cases h

theorem next?_of_single {level : Level} (hj : level.isJoining = true)
    (h : level.isChain = false) : level.next? = some level.left := by
  cases level <;> first | rfl | contradiction

theorem rank_of_next? {level inner : Level} (h : level.next? = some inner) :
    level.rank = inner.rank + 1 := by
  cases level <;> cases h <;> rfl

theorem rank_le (level : Level) : level.rank <= 12 := by
  cases level <;> decide

theorem rank_pos (level : Level) : 0 < level.rank := by
  cases level <;> decide

theorem resume_eq_once {level : Level} (h : level.isChain = false) :
    level.resume = level.once := by
  cases level <;> first | rfl | cases h

theorem read_joining {level inner : Level} (hj : level.isJoining = true)
    (hn : level.next? = some inner) (depth : Nat) (ts : List Located) :
    level.read (depth + 1) ts =
      (inner.read depth ts >>= fun r => level.resume depth r.1 r.2) := by
  cases level with
  | clause =>
      cases hn
      show Parser.expression (depth + 1) ts = _
      rw [Parser.expression]
      refine congrArg (Parser.disjunction depth ts >>= ·) (funext fun r => ?_)
      simp only [resume, once, clause_join]
      split <;> rfl
  | disjunction => cases hn; rfl
  | conjunction => cases hn; rfl
  | comparison =>
      cases hn
      show Parser.comparison (depth + 1) ts = _
      rw [Parser.comparison]
      refine congrArg (Parser.range depth ts >>= ·) (funext fun r => ?_)
      simp only [resume, once, comparison_join]
      cases comparison? r.2 <;> rfl
  | range =>
      cases hn
      show Parser.range (depth + 1) ts = _
      rw [Parser.range]
      refine congrArg (Parser.sum depth ts >>= ·) (funext fun r => ?_)
      simp only [resume, once, range_join]
      split <;> rfl
  | sum => cases hn; rfl
  | product => cases hn; rfl
  | power =>
      cases hn
      show Parser.power (depth + 1) ts = _
      rw [Parser.power]
      refine congrArg (Parser.application depth ts >>= ·) (funext fun r => ?_)
      simp only [resume, once, power_join]
      split <;> rfl
  | negation => cases hj
  | signed => cases hj
  | application => cases hj
  | atom => cases hj

theorem resume_chain {level : Level} (h : level.isChain = true) (depth : Nat) (left : Node)
    (ts : List Located) :
    level.resume (depth + 1) left ts =
      match level.join (next ts).token with
      | some build =>
          level.right.read depth ts.tail >>= fun r => level.resume depth (build left r.1) r.2
      | none => .ok (left, ts) := by
  cases level with
  | disjunction =>
      show moreDisjuncts (depth + 1) left ts = _
      rw [moreDisjuncts, disjunction_join]
      split <;> rfl
  | conjunction =>
      show moreConjuncts (depth + 1) left ts = _
      rw [moreConjuncts, conjunction_join]
      split <;> rfl
  | sum =>
      show moreTerms (depth + 1) left ts = _
      rw [moreTerms, sum_join]
      cases additive? ts <;> rfl
  | product =>
      show moreFactors (depth + 1) left ts = _
      rw [moreFactors, product_join]
      cases multiplicative? ts <;> rfl
  | _ => cases h

end Level

end Grammar
end Wrangle
