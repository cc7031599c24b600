import Wrangle.Number.FloatText
import Wrangle.Text.Quoted
import Wrangle.Value.Basic

/-!
# Tokens

A fragment is read as a sequence of tokens.  Blanks separate tokens and are
dropped.  Of the tokens that could start at a place, quoted text comes first,
then the marker, symbols of two characters, numbers, symbols of one character
and names.
-/

namespace Wrangle

open Text Number

/-!
# Kinds of tokens
-/

inductive Symbol where
  | equals
  | differs
  | atLeast
  | atMost
  | arrow
  | andAnd
  | orOr
  | greater
  | less
  | openParen
  | closeParen
  | openBracket
  | closeBracket
  | comma
  | assign
  | plus
  | minus
  | star
  | slash
  | percent
  | caret
  | colon
  | tilde
  | bang
  | ampersand
  | bar
  deriving DecidableEq, Repr

def Symbol.text : Symbol -> String
  | equals => "=="
  | differs => "!="
  | atLeast => ">="
  | atMost => "<="
  | arrow => "=>"
  | andAnd => "&&"
  | orOr => "||"
  | greater => ">"
  | less => "<"
  | openParen => "("
  | closeParen => ")"
  | openBracket => "["
  | closeBracket => "]"
  | comma => ","
  | assign => "="
  | plus => "+"
  | minus => "-"
  | star => "*"
  | slash => "/"
  | percent => "%"
  | caret => "^"
  | colon => ":"
  | tilde => "~"
  | bang => "!"
  | ampersand => "&"
  | bar => "|"

inductive Keyword where
  | andWord
  | orWord
  | notWord
  | inWord
  | trueWord
  | falseWord
  | missingWord
  | nullWord
  | naWord
  | noneWord
  deriving DecidableEq, Repr

def Keyword.text : Keyword -> String
  | andWord => "and"
  | orWord => "or"
  | notWord => "not"
  | inWord => "in"
  | trueWord => "true"
  | falseWord => "false"
  | missingWord => "missing"
  | nullWord => "null"
  | naWord => "na"
  | noneWord => "none"

def Keyword.value? : Keyword -> Option Value
  | trueWord => some (.bool true)
  | falseWord => some (.bool false)
  | missingWord | nullWord | naWord | noneWord => some .missing
  | _ => none

def Keyword.all : List Keyword :=
  [.andWord, .orWord, .notWord, .inWord, .trueWord, .falseWord, .missingWord, .nullWord,
   .naWord, .noneWord]

def Keyword.ofText? (text : String) : Option Keyword :=
  Keyword.all.find? fun k => k.text == text

inductive Token where
  | identifier (name : String)
  | quotedName (name : String)
  | text (s : String)
  | marker
  | symbol (s : Symbol)
  | integer (n : Int)
  | decimal (x : Float)
  | keyword (k : Keyword)
  | finish
  deriving DecidableEq, Repr

def Token.shown : Token -> String
  | identifier name => name
  | quotedName name => name
  | text s => s
  | marker => "!!"
  | symbol s => s.text
  | integer n => toString n
  | decimal x => floatText x
  | keyword k => k.text
  | finish => "EOF"

/-- A token and the position of its first character. -/
structure Located where
  token : Token
  position : Nat
  deriving DecidableEq, Repr

/-- What is wrong with a fragment, and where. -/
structure ParseError where
  message : String
  position : Nat
  deriving DecidableEq, Repr

/-- Why a text is no sequence of tokens. -/
inductive TokenError where
  | malformed (e : ParseError)
  | tooManyDigits
  deriving DecidableEq, Repr

/-!
# Single tokens

Each reader is given the text from its token on, and returns the token with the
number of its characters.
-/

/-- Read up to the closing quote; a backslash keeps the next character as it is. -/
def takeQuoted (quote : Char) : List Char -> Option (List Char × Nat)
  | [] => none
  | [c] => if c == quote then some ([], 1) else none
  | c :: d :: rest =>
      if c == backslash then (takeQuoted quote rest).map fun r => (d :: r.1, r.2 + 2)
      else if c == quote then some ([], 1)
      else (takeQuoted quote (d :: rest)).map fun r => (c :: r.1, r.2 + 1)

def backtick : Char := '\x60'

def isQuote (c : Char) : Bool :=
  c == singleQuote || c == doubleQuote || c == backtick

def quotedToken (quote : Char) (cs : List Char) : Token :=
  if quote == backtick then .quotedName (String.ofList cs) else .text (String.ofList cs)

def longSymbol? : List Char -> Option Symbol
  | '=' :: '=' :: _ => some .equals
  | '!' :: '=' :: _ => some .differs
  | '>' :: '=' :: _ => some .atLeast
  | '<' :: '=' :: _ => some .atMost
  | '=' :: '>' :: _ => some .arrow
  | '&' :: '&' :: _ => some .andAnd
  | '|' :: '|' :: _ => some .orOr
  | _ => none

def shortSymbol? : Char -> Option Symbol
  | '>' => some .greater
  | '<' => some .less
  | '(' => some .openParen
  | ')' => some .closeParen
  | '[' => some .openBracket
  | ']' => some .closeBracket
  | ',' => some .comma
  | '=' => some .assign
  | '+' => some .plus
  | '-' => some .minus
  | '*' => some .star
  | '/' => some .slash
  | '%' => some .percent
  | '^' => some .caret
  | ':' => some .colon
  | '~' => some .tilde
  | '!' => some .bang
  | '&' => some .ampersand
  | '|' => some .bar
  | _ => none

def isMarker : List Char -> Bool
  | '!' :: '!' :: _ => true
  | _ => false

/-- A number; it is a float when it has a point or an exponent. -/
def takeNumber (cs : List Char) : Option (Token × Nat) :=
  match takeDecimal cs with
  | none => none
  | some (numeral, rest) =>
      let size := cs.length - rest.length
      let written := cs.take size
      if written.any fun c => c == '.' || c == 'e' || c == 'E' then
        some (.decimal (numeral.toFloat false), size)
      else some (.integer (Int.ofNat numeral.digits), size)

/-- Whether a token is an integer with more digits than integers may be read with. -/
def Token.isTooLong (token : Token) (size : Nat) : Bool :=
  match token with
  | integer _ => decide (digitLimit < size)
  | _ => false

def isNameHead (c : Char) : Bool :=
  c.isAlpha || c == '_' || c == '.'

def isNameTail (c : Char) : Bool :=
  c.isAlphanum || c == '_' || c == '.'

def nameToken (cs : List Char) : Token :=
  match Keyword.ofText? (String.ofList (lowerAscii cs)) with
  | some k => .keyword k
  | none => .identifier (String.ofList cs)

def takeName : List Char -> Option (Token × Nat)
  | [] => none
  | c :: rest =>
      if isNameHead c then
        let name := c :: rest.takeWhile isNameTail
        some (nameToken name, name.length)
      else none

def takeToken (c : Char) (rest : List Char) : Except String (Token × Nat) :=
  let cs := c :: rest
  if isQuote c then
    match takeQuoted c rest with
    | some (text, size) => .ok (quotedToken c text, size + 1)
    | none => .error "Unterminated quoted text in expression."
  else if isMarker cs then .ok (.marker, 2)
  else
    match longSymbol? cs with
    | some s => .ok (.symbol s, 2)
    | none =>
        match takeNumber cs with
        | some found => .ok found
        | none =>
            match shortSymbol? c with
            | some s => .ok (.symbol s, 1)
            | none =>
                match takeName cs with
                | some found => .ok found
                | none =>
                    .error ("Unexpected character " ++ quoted (String.ofList [c]) ++
                      " in expression.")

/-!
# Sequences of tokens
-/

def tokensFrom : Nat -> Nat -> List Char -> Except TokenError (List Located)
  | _, position, [] => .ok [{ token := .finish, position := position }]
  | skip + 1, position, _ :: rest => tokensFrom skip (position + 1) rest
  | 0, position, c :: rest =>
      if isBlank c then tokensFrom 0 (position + 1) rest
      else
        match takeToken c rest with
        | .error message => .error (.malformed { message := message, position := position })
        | .ok (token, size) =>
            if token.isTooLong size then .error .tooManyDigits
            else
              match tokensFrom (size - 1) (position + 1) rest with
              | .error e => .error e
              | .ok later => .ok ({ token := token, position := position } :: later)

def tokenize (source : String) : Except TokenError (List Located) :=
  tokensFrom 0 0 source.toList

end Wrangle
