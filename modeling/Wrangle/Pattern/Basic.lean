import Wrangle.Text.Casing
import Wrangle.Text.CharRanges
import Wrangle.Text.Word

/-!
# Sets of characters

A pattern matches single characters by their code, by a range of codes, or by a
class such as the digits.  Case can be ignored, and the classes can be confined
to the characters of seven bits.
-/

namespace Wrangle
namespace Pattern

open Text

/-!
# Case
-/

def caseVariants : List (Nat × Nat) := [
  (0x131, 0x69), (0x17f, 0x73), (0xb5, 0x3bc), (0x345, 0x3b9), (0x1fbe, 0x3b9), (0x1fd3, 0x390),
  (0x1fe3, 0x3b0), (0x3d0, 0x3b2), (0x3f5, 0x3b5), (0x3d1, 0x3b8), (0x3f0, 0x3ba), (0x3d6, 0x3c0),
  (0x3f1, 0x3c1), (0x3c2, 0x3c3), (0x3d5, 0x3c6), (0x1c80, 0x432), (0x1c81, 0x434),
  (0x1c82, 0x43e), (0x1c83, 0x441), (0x1c84, 0x442), (0x1c85, 0x442), (0x1c86, 0x44a),
  (0x1c87, 0x463), (0x1c88, 0xa64b), (0x1e9b, 0x1e61), (0xfb05, 0xfb06)]

def lowerCode (plain : Bool) (code : Nat) : Nat :=
  if plain then if 0x41 <= code && code <= 0x5a then code + 0x20 else code
  else
    let c := Char.ofNat code
    if c.toNat == code then (lowerChar c).toNat else code

/-- The code that stands for all characters equal to one when case is ignored. -/
def caseKey (plain : Bool) (code : Nat) : Nat :=
  let low := lowerCode plain code
  if plain then low else (caseVariants.lookup low).getD low

/-- The lower-case codes that are equal to one of them when case is ignored. -/
def caseEquals (plain : Bool) (low : Nat) : List Nat :=
  if plain then [low]
  else
    let key := caseKey plain low
    key :: (caseVariants.filter fun entry => entry.2 == key).map Prod.fst

def loweredTo (plain : Bool) (low : Nat) : List Nat :=
  low ::
    if plain then if 0x61 <= low && low <= 0x7a then [low - 0x20] else []
    else (raisedForms (Char.ofNat low)).map Char.toNat

/-!
# Classes
-/

inductive CharClass where
  | digit
  | blank
  | word
  deriving DecidableEq, Repr

def CharClass.contains (plain : Bool) (c : Char) : CharClass -> Bool
  | digit => if plain then c.isDigit else isDigit c
  | blank => if plain then c == ' ' || (9 <= c.toNat && c.toNat <= 13) else isBlank c
  | word => if plain then c.isAlphanum || c == '_' else isWordChar c

inductive CharItem where
  | code (n : Nat)
  | range (low high : Nat)
  | ofClass (kind : CharClass) (negated : Bool)
  deriving DecidableEq, Repr

structure CharSet where
  items : List CharItem
  negated : Bool
  deriving DecidableEq, Repr

structure MatchStyle where
  ignoreCase : Bool
  plain : Bool
  deriving DecidableEq, Repr

def basicLimit : Nat := 0xffff

/--
Whether a range has a character when case is ignored.  In the basic plane some
member has to be equal to it; a range that reaches beyond is also met by the
lower case or by the first capital of the character.
-/
def rangeMeets (plain : Bool) (first last low : Nat) : Bool :=
  let within (limit code : Nat) := decide (first <= code) && decide (code <= limit)
  let basic := (caseEquals plain low).any fun code =>
    (loweredTo plain code).any (within (min last basicLimit))
  let capital := ((upperChars (Char.ofNat low)).map Char.toNat).headD low
  basic || (decide (basicLimit < last) && (within last low || within last capital))

def CharItem.contains (style : MatchStyle) (c : Char) (item : CharItem) : Bool :=
  let low := lowerCode style.plain c.toNat
  match item with
  | code n =>
      if !style.ignoreCase then n == c.toNat
      else if basicLimit < n then n == low
      else caseKey style.plain n == caseKey style.plain c.toNat
  | range first last =>
      if style.ignoreCase then rangeMeets style.plain first last low
      else decide (first <= c.toNat) && decide (c.toNat <= last)
  | ofClass kind negated =>
      kind.contains style.plain (if style.ignoreCase then Char.ofNat low else c) != negated

/--
Whether a set has a character.  A set of one code compares lower cases; among
other members a code beyond the basic plane stands for itself.
-/
def CharSet.contains (style : MatchStyle) (set : CharSet) (c : Char) : Bool :=
  let found :=
    match set.items with
    | [.code n] =>
        if style.ignoreCase then caseKey style.plain n == caseKey style.plain c.toNat
        else n == c.toNat
    | items => items.any fun item => item.contains style c
  found != set.negated

end Pattern

/-!
# Patterns

A pattern describes texts: characters one after another, choices, repetitions,
groups that can be referred to, and conditions on the place where it stands.
-/

/-- How many repetitions are tried first, and whether fewer or more are tried later. -/
inductive Greed where
  | greedy
  | reluctant
  | possessive
  deriving DecidableEq, Repr

inductive Anchor where
  | lineStart
  | lineEnd
  | textStart
  | textEnd
  | lastLineEnd
  | wordEdge (plain negated : Bool)
  deriving DecidableEq, Repr

inductive Pattern where
  | empty
  | anyChar (newline : Bool)
  | oneOf (style : Pattern.MatchStyle) (set : Pattern.CharSet)
  | anchor (place : Anchor)
  | sequence (first second : Pattern)
  | choice (first second : Pattern)
  | repetition (least : Nat) (most : Option Nat) (greed : Greed) (body : Pattern)
  | group (index : Nat) (body : Pattern)
  | flagged (body : Pattern)
  | reference (style : Pattern.MatchStyle) (index least : Nat) (most : Option Nat)
  | lookAhead (negated : Bool) (body : Pattern)
  | lookBehind (negated : Bool) (width : Nat) (body : Pattern)
  | atomic (body : Pattern)
  | conditional (index : Nat) (whenSet : Pattern) (otherwise : Option Pattern)
  deriving Repr

namespace Pattern

/-!
# Widths
-/

def addMost : Option Nat -> Option Nat -> Option Nat
  | some m, some n => some (m + n)
  | _, _ => none

def maxMost : Option Nat -> Option Nat -> Option Nat
  | some m, some n => some (max m n)
  | _, _ => none

def timesMost : Option Nat -> Option Nat -> Option Nat
  | some m, some n => some (m * n)
  | some 0, none => some 0
  | none, some 0 => some 0
  | _, _ => none

def leastWidth : Pattern -> Nat
  | anyChar _ => 1
  | oneOf _ _ => 1
  | sequence first second => leastWidth first + leastWidth second
  | choice first second => min (leastWidth first) (leastWidth second)
  | repetition least _ _ body => least * leastWidth body
  | group _ body => leastWidth body
  | flagged body => leastWidth body
  | reference _ _ least _ => least
  | atomic body => leastWidth body
  | conditional _ whenSet (some otherwise) => min (leastWidth whenSet) (leastWidth otherwise)
  | _ => 0

def mostWidth : Pattern -> Option Nat
  | anyChar _ => some 1
  | oneOf _ _ => some 1
  | sequence first second => addMost (mostWidth first) (mostWidth second)
  | choice first second => maxMost (mostWidth first) (mostWidth second)
  | repetition _ most _ body => timesMost most (mostWidth body)
  | group _ body => mostWidth body
  | flagged body => mostWidth body
  | reference _ _ _ most => most
  | atomic body => mostWidth body
  | conditional _ whenSet none => mostWidth whenSet
  | conditional _ whenSet (some otherwise) => maxMost (mostWidth whenSet) (mostWidth otherwise)
  | _ => some 0

def fixedWidth? (p : Pattern) : Option Nat :=
  if p.mostWidth == some p.leastWidth then some p.leastWidth else none

/-!
# Sequences and choices

Branches that begin with the same characters share them, and a choice between
single characters is a set.
-/

def ofList (ps : List Pattern) : Pattern :=
  ps.foldr sequence empty

def toList : Pattern -> List Pattern
  | empty => []
  | sequence p rest => p :: toList rest
  | p => [p]

theorem toList_ofList (ps : List Pattern) : toList (ofList ps) = ps := by
  induction ps with
  | nil => rfl
  | cons p rest ih => simpa [ofList, toList] using ih

def isSameLeaf : Pattern -> Pattern -> Bool
  | anyChar m, anyChar n => m == n
  | oneOf style set, oneOf style' set' => style == style' && set == set'
  | anchor place, anchor place' => place == place'
  | reference style index _ _, reference style' index' _ _ => style == style' && index == index'
  | _, _ => false

def sharedStart : List Pattern -> List (List Pattern) -> List Pattern × List (List Pattern)
  | [], others => ([], [] :: others)
  | p :: rest, others =>
      if others.all fun branch => branch.head?.any p.isSameLeaf then
        let (shared, left) := sharedStart rest (others.map List.tail)
        (p :: shared, left)
      else ([], (p :: rest) :: others)

def members? : List Pattern -> Option (MatchStyle × List CharItem)
  | [oneOf style set] => if set.negated then none else some (style, set.items)
  | _ => none

def choiceOf : List (List Pattern) -> Pattern
  | [] => empty
  | [branch] => ofList branch
  | branch :: others => choice (ofList branch) (choiceOf others)

def ofBranches : List (List Pattern) -> Pattern
  | [] => empty
  | [branch] => ofList branch
  | first :: others =>
      let (shared, left) := sharedStart first others
      let last :=
        match left.mapM members? with
        | some ((style, items) :: more) =>
            let items := (items ++ more.flatMap Prod.snd).eraseDups
            oneOf style { items := items, negated := false }
        | _ => choiceOf left
      ofList (shared ++ [last])

end Pattern
end Wrangle
