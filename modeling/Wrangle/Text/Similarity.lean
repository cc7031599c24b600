/-!
# Similar names

Two texts are compared by their matching blocks: the longest common block
comes first, the earliest one if there are several, and the parts before it
and after it are matched in the same way.  The similarity of two texts is twice
the number of matched characters over the number of all characters.
-/

namespace Wrangle
namespace Text

/-!
# Longest common block
-/

structure Block where
  left : Nat
  right : Nat
  size : Nat
  deriving DecidableEq, Repr

def commonStart (usable : Char -> Bool) : List Char -> List Char -> Nat
  | a :: as, b :: bs => if a == b && usable b then commonStart usable as bs + 1 else 0
  | _, _ => 0

def Block.orLonger (best other : Block) : Block :=
  if best.size < other.size then other else best

def longestHere (usable : Char -> Bool) (left : Nat) (as : List Char) :
    Nat -> List Char -> Block -> Block
  | _, [], best => best
  | right, b :: bs, best =>
      longestHere usable left as (right + 1) bs
        (best.orLonger { left := left, right := right, size := commonStart usable as (b :: bs) })

def longestFrom (usable : Char -> Bool) (bs : List Char) : Nat -> List Char -> Block -> Block
  | _, [], best => best
  | left, a :: as, best =>
      longestFrom usable bs (left + 1) as (longestHere usable left (a :: as) 0 bs best)

def Block.grow (as bs : List Char) (block : Block) : Block :=
  let before :=
    commonStart (fun _ => true) (as.take block.left).reverse (bs.take block.right).reverse
  let after :=
    commonStart (fun _ => true) (as.drop (block.left + block.size))
      (bs.drop (block.right + block.size))
  { left := block.left - before
    right := block.right - before
    size := before + block.size + after }

def longestBlock (usable : Char -> Bool) (as bs : List Char) : Block :=
  let block := longestFrom usable bs 0 as { left := 0, right := 0, size := 0 }
  block.grow as bs

/-!
# Matched characters
-/

/-- The number of characters in matching blocks; each round matches at least one character. -/
def matchedWithin (usable : Char -> Bool) : Nat -> List Char -> List Char -> Nat
  | 0, _, _ => 0
  | rounds + 1, as, bs =>
      let block := longestBlock usable as bs
      if block.size = 0 then 0
      else
        matchedWithin usable rounds (as.take block.left) (bs.take block.right) +
          block.size +
          matchedWithin usable rounds (as.drop (block.left + block.size))
            (bs.drop (block.right + block.size))

/-- In texts of 200 characters or more, frequent characters do not start a block. -/
def usableIn (bs : List Char) (c : Char) : Bool :=
  bs.length < 200 || decide (bs.count c <= bs.length / 100 + 1)

def matched (as bs : List Char) : Nat :=
  matchedWithin (usableIn bs) as.length as bs

/-!
# Close matches
-/

structure Candidate where
  name : String
  hits : Nat
  total : Nat

def Candidate.ofName (word name : String) : Candidate :=
  { name := name
    hits := matched name.toList word.toList
    total := name.length + word.length }

def Candidate.isClose (c : Candidate) : Bool :=
  c.total = 0 || decide (3 * c.total <= 5 * (2 * c.hits))

def Candidate.less (a b : Candidate) : Bool :=
  let left := a.hits * b.total
  let right := b.hits * a.total
  left < right || (left == right && a.name < b.name)

def bestOf : List Candidate -> Option Candidate
  | [] => none
  | c :: rest =>
      match bestOf rest with
      | none => some c
      | some best => if c.less best then some best else some c

def closestName? (word : String) (names : List String) : Option String :=
  (bestOf ((names.map (Candidate.ofName word)).filter Candidate.isClose)).map Candidate.name

end Text
end Wrangle
