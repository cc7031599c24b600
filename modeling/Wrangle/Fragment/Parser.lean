import Wrangle.Fragment.Node
import Wrangle.Fragment.Token
import Wrangle.Outcome

/-!
# Parsing

A fragment is parsed by descent through the levels of its operators, from the
loosest to the tightest: clauses, disjunctions, conjunctions, negations,
comparisons, ranges, sums, products, signs, powers, calls and atoms.

Every reader takes the tokens that are left and returns a tree with the tokens
after it.  The first argument bounds the depth of the descent; `depthFor` is
enough for any sequence of tokens, since a descent passes each level once before
it takes a token.
-/

namespace Wrangle

namespace Parser

/-- What was read, with the tokens that are left. -/
abbrev Read (alpha : Type) := alpha × List Located

/-!
# Looking at tokens
-/

def endOfTokens : Located :=
  { token := .finish, position := 0 }

def next : List Located -> Located
  | [] => endOfTokens
  | t :: _ => t

def isSymbol (s : Symbol) (ts : List Located) : Bool :=
  (next ts).token == .symbol s

def isKeyword (k : Keyword) (ts : List Located) : Bool :=
  (next ts).token == .keyword k

def expect (s : Symbol) (ts : List Located) : Except ParseError (Read Unit) :=
  let t := next ts
  match t.token with
  | .symbol found =>
      if found = s then .ok ((), ts.tail)
      else
        .error { message := "Expected '" ++ s.text ++ "' but found '" ++ found.text ++ "'."
                 position := t.position }
  | other =>
      .error { message := "Expected " ++ s.text ++ " but found " ++ other.shown ++ "."
               position := t.position }

def expectFinish (ts : List Located) : Except ParseError Unit :=
  let t := next ts
  match t.token with
  | .finish => .ok ()
  | other =>
      .error { message := "Expected EOF but found " ++ other.shown ++ "."
               position := t.position }

def unexpected (t : Located) : ParseError :=
  let shown :=
    match t.token with
    | .finish => "end of input"
    | other => other.shown
  { message := "Unexpected token '" ++ shown ++ "' in expression.", position := t.position }

def misplacedArgument (t : Located) : ParseError :=
  { message := "Positional argument follows keyword argument.", position := t.position }

def tooDeep : ParseError :=
  { message := "Expression is nested too deeply.", position := 0 }

/-!
# Operators of each level
-/

def isOr (ts : List Located) : Bool :=
  isSymbol .bar ts || isSymbol .orOr ts || isKeyword .orWord ts

def isAnd (ts : List Located) : Bool :=
  isSymbol .ampersand ts || isSymbol .andAnd ts || isKeyword .andWord ts

def isNot (ts : List Located) : Bool :=
  isSymbol .bang ts || isKeyword .notWord ts

def isClause (ts : List Located) : Bool :=
  isSymbol .arrow ts || isSymbol .tilde ts

def comparison? (ts : List Located) : Option String :=
  match (next ts).token with
  | .symbol .equals => some "=="
  | .symbol .differs => some "!="
  | .symbol .atLeast => some ">="
  | .symbol .atMost => some "<="
  | .symbol .greater => some ">"
  | .symbol .less => some "<"
  | .keyword .inWord => some "in"
  | _ => none

def additive? (ts : List Located) : Option String :=
  match (next ts).token with
  | .symbol .plus => some "+"
  | .symbol .minus => some "-"
  | _ => none

def multiplicative? (ts : List Located) : Option String :=
  match (next ts).token with
  | .symbol .star => some "*"
  | .symbol .slash => some "/"
  | .symbol .percent => some "%"
  | _ => none

/-- A minus sign is taken into a number; before anything else it is an operator. -/
def negated : Node -> Node
  | .literal (.int n) => .literal (.int (-n))
  | .literal (.float x _) => .literal (.ofFloat (-x))
  | node => .unary "-" node

/-!
# Readers
-/

mutual

def expression : Nat -> List Located -> Except ParseError (Read Node)
  | 0, _ => .error tooDeep
  | depth + 1, ts => do
      let (left, rest) <- disjunction depth ts
      if isClause rest then
        let (right, rest) <- disjunction depth rest.tail
        .ok (.pair left right, rest)
      else .ok (left, rest)

def disjunction : Nat -> List Located -> Except ParseError (Read Node)
  | 0, _ => .error tooDeep
  | depth + 1, ts => do
      let (left, rest) <- conjunction depth ts
      moreDisjuncts depth left rest

def moreDisjuncts : Nat -> Node -> List Located -> Except ParseError (Read Node)
  | 0, _, _ => .error tooDeep
  | depth + 1, left, ts =>
      if isOr ts then do
        let (right, rest) <- conjunction depth ts.tail
        moreDisjuncts depth (.binary "|" left right) rest
      else .ok (left, ts)

def conjunction : Nat -> List Located -> Except ParseError (Read Node)
  | 0, _ => .error tooDeep
  | depth + 1, ts => do
      let (left, rest) <- negation depth ts
      moreConjuncts depth left rest

def moreConjuncts : Nat -> Node -> List Located -> Except ParseError (Read Node)
  | 0, _, _ => .error tooDeep
  | depth + 1, left, ts =>
      if isAnd ts then do
        let (right, rest) <- negation depth ts.tail
        moreConjuncts depth (.binary "&" left right) rest
      else .ok (left, ts)

def negation : Nat -> List Located -> Except ParseError (Read Node)
  | 0, _ => .error tooDeep
  | depth + 1, ts =>
      if isNot ts then do
        let (operand, rest) <- negation depth ts.tail
        .ok (.unary "!" operand, rest)
      else comparison depth ts

def comparison : Nat -> List Located -> Except ParseError (Read Node)
  | 0, _ => .error tooDeep
  | depth + 1, ts => do
      let (left, rest) <- range depth ts
      match comparison? rest with
      | some symbol =>
          let (right, rest) <- range depth rest.tail
          .ok (.binary symbol left right, rest)
      | none => .ok (left, rest)

def range : Nat -> List Located -> Except ParseError (Read Node)
  | 0, _ => .error tooDeep
  | depth + 1, ts => do
      let (start, rest) <- sum depth ts
      if isSymbol .colon rest then
        let (stop, rest) <- sum depth rest.tail
        .ok (.range start stop, rest)
      else .ok (start, rest)

def sum : Nat -> List Located -> Except ParseError (Read Node)
  | 0, _ => .error tooDeep
  | depth + 1, ts => do
      let (left, rest) <- product depth ts
      moreTerms depth left rest

def moreTerms : Nat -> Node -> List Located -> Except ParseError (Read Node)
  | 0, _, _ => .error tooDeep
  | depth + 1, left, ts =>
      match additive? ts with
      | some symbol => do
          let (right, rest) <- product depth ts.tail
          moreTerms depth (.binary symbol left right) rest
      | none => .ok (left, ts)

def product : Nat -> List Located -> Except ParseError (Read Node)
  | 0, _ => .error tooDeep
  | depth + 1, ts => do
      let (left, rest) <- signed depth ts
      moreFactors depth left rest

def moreFactors : Nat -> Node -> List Located -> Except ParseError (Read Node)
  | 0, _, _ => .error tooDeep
  | depth + 1, left, ts =>
      match multiplicative? ts with
      | some symbol => do
          let (right, rest) <- signed depth ts.tail
          moreFactors depth (.binary symbol left right) rest
      | none => .ok (left, ts)

def signed : Nat -> List Located -> Except ParseError (Read Node)
  | 0, _ => .error tooDeep
  | depth + 1, ts =>
      if isSymbol .minus ts then do
        let (operand, rest) <- signed depth ts.tail
        .ok (negated operand, rest)
      else if isSymbol .plus ts then signed depth ts.tail
      else power depth ts

/-- A power binds tighter than a sign on its left, and takes signs on its right. -/
def power : Nat -> List Located -> Except ParseError (Read Node)
  | 0, _ => .error tooDeep
  | depth + 1, ts => do
      let (base, rest) <- application depth ts
      if isSymbol .caret rest then
        let (exponent, rest) <- signed depth rest.tail
        .ok (.binary "^" base exponent, rest)
      else .ok (base, rest)

def application : Nat -> List Located -> Except ParseError (Read Node)
  | 0, _ => .error tooDeep
  | depth + 1, ts =>
      match (next ts).token with
      | .identifier head =>
          if isSymbol .openParen ts.tail then do
            let ((args, kwargs), rest) <- arguments depth ts.tail.tail
            let ((), rest) <- expect .closeParen rest
            .ok (.call head args kwargs false, rest)
          else atom depth ts
      | _ => atom depth ts

def arguments : Nat -> List Located -> Except ParseError (Read (List Node × List (String × Node)))
  | 0, _ => .error tooDeep
  | depth + 1, ts =>
      if isSymbol .closeParen ts then .ok (([], []), ts)
      else
        match (next ts).token, isSymbol .assign ts.tail with
        | .identifier _, true => do
            let (named, rest) <- namedArguments depth ts
            .ok (([], named), rest)
        | _, _ => do
            let (node, rest) <- expression depth ts
            if isSymbol .comma rest then
              let ((args, kwargs), rest) <- arguments depth rest.tail
              .ok ((node :: args, kwargs), rest)
            else .ok (([node], []), rest)

def namedArguments : Nat -> List Located -> Except ParseError (Read (List (String × Node)))
  | 0, _ => .error tooDeep
  | depth + 1, ts =>
      if isSymbol .closeParen ts then .ok ([], ts)
      else
        match (next ts).token, isSymbol .assign ts.tail with
        | .identifier name, true => do
            let (node, rest) <- expression depth ts.tail.tail
            if isSymbol .comma rest then
              let (named, rest) <- namedArguments depth rest.tail
              .ok ((name, node) :: named, rest)
            else .ok ([(name, node)], rest)
        | _, _ => .error (misplacedArgument (next ts))

def items : Nat -> Symbol -> List Located -> Except ParseError (Read (List Node))
  | 0, _, _ => .error tooDeep
  | depth + 1, closer, ts =>
      if isSymbol closer ts then .ok ([], ts)
      else do
        let (node, rest) <- expression depth ts
        if isSymbol .comma rest then
          let (nodes, rest) <- items depth closer rest.tail
          .ok (node :: nodes, rest)
        else .ok ([node], rest)

def atom : Nat -> List Located -> Except ParseError (Read Node)
  | 0, _ => .error tooDeep
  | depth + 1, ts =>
      match (next ts).token with
      | .marker => do
          let (inner, rest) <- application depth ts.tail
          .ok (.interpolate inner, rest)
      | .symbol .openParen =>
          if isSymbol .closeParen ts.tail then .ok (.tuple [], ts.tail.tail)
          else do
            let (first, rest) <- expression depth ts.tail
            if isSymbol .closeParen rest then .ok (first, rest.tail)
            else
              let ((), rest) <- expect .comma rest
              let (others, rest) <- items depth .closeParen rest
              let ((), rest) <- expect .closeParen rest
              .ok (.tuple (first :: others), rest)
      | .symbol .openBracket => do
          let (nodes, rest) <- items depth .closeBracket ts.tail
          let ((), rest) <- expect .closeBracket rest
          .ok (.vector nodes, rest)
      | .identifier name => .ok (.identifier name, ts.tail)
      | .quotedName name => .ok (.identifier name, ts.tail)
      | .integer n => .ok (.literal (.int n), ts.tail)
      | .decimal x => .ok (.literal (.ofFloat x), ts.tail)
      | .text s => .ok (.literal (.str s), ts.tail)
      | .keyword k =>
          match k.value? with
          | some value => .ok (.literal value, ts.tail)
          | none => .error (unexpected (next ts))
      | _ => .error (unexpected (next ts))

end

/-!
# Whole fragments
-/

def depthFor (ts : List Located) : Nat :=
  16 * ts.length + 16

def target? (ts : List Located) : Option String :=
  if isSymbol .assign ts.tail then
    match (next ts).token with
    | .identifier name => some name
    | .quotedName name => some name
    | .text s => some s
    | _ => none
  else none

def fragment (allowAssignment : Bool) (ts : List Located) : Except ParseError Node := do
  let target := if allowAssignment then target? ts else none
  match target with
  | some name =>
      let (value, rest) <- expression (depthFor ts) ts.tail.tail
      expectFinish rest
      .ok (.assignment name value)
  | none =>
      let (node, rest) <- expression (depthFor ts) ts
      expectFinish rest
      .ok node

end Parser

/-!
# Errors of fragments
-/

def caretHint (source : String) (position : Nat) : String :=
  let label := "At position " ++ toString position ++ ": "
  label ++ source ++ "\n" ++ String.ofList (List.replicate (position + label.length) ' ') ++ "^"

def ParseError.toUserError (source : String) (e : ParseError) : UserError :=
  .coded "E_EXPR_PARSE" e.message (some (caretHint source e.position)) (some source)

/-- The error for a fragment that is no text or only blanks; it is given as it is written out. -/
def blankFragment (shown : String) : UserError :=
  .coded "E_EXPR_PARSE" "Expected a non-empty expression string."
    (some "Example: mutate(data, 'total = price * qty')") (some shown)

def isBlankText (source : String) : Bool :=
  source.toList.all Text.isBlank

/-- An error about a place is one for the user; an integer with too many digits is a fault. -/
def TokenError.toFailure (source : String) : TokenError -> Failure
  | .malformed e => .user (e.toUserError source)
  | .tooManyDigits => .fault Fault.tooManyDigits

def parseTokens (allowAssignment : Bool) (source : String) : Except TokenError Node := do
  let ts <- tokenize source
  (Parser.fragment allowAssignment ts).mapError .malformed

def parse (allowAssignment : Bool) (source : String) : Outcome Node :=
  if isBlankText source then Outcome.reject (blankFragment (Text.quoted source))
  else (parseTokens allowAssignment source).mapError (TokenError.toFailure source)

end Wrangle
