import Wrangle.Number.Rounding
import Wrangle.Value.Equality

/-!
# The order of sets

A set keeps its members in a table and lists them by their places.  The code of
a member's value tells where to look for a free place; equal numbers have the same
code, whatever their kind.  The table grows when three fifths of it are taken, and
its members are then placed anew.

Texts that are not empty, days, times and missing have no code that their value
fixes.  A set with one of them lists its members in the order they came in.
-/

namespace Wrangle

open Number

namespace Value

/-!
# Codes
-/

def codePrime : Nat := Nat.pow 2 61 - 1

def codeLimit : Nat := Nat.pow 2 64

def infiniteCode : Nat := 314159

/-- A signed code as a natural number; minus one is taken for other uses. -/
def signedCode (n : Int) : Nat :=
  ((if n = -1 then -2 else n) % (codeLimit : Int)).toNat

def numberCode (q : Rat) : Nat :=
  let size :=
    match inverseMod? q.den codePrime with
    | some inverse => q.num.natAbs * inverse % codePrime
    | none => infiniteCode
  signedCode (if q < 0 then -Int.ofNat size else size)

def extendedCode : Extended -> Option Nat
  | .finite q => some (numberCode q)
  | .infinite negative =>
      some (signedCode (if negative then -Int.ofNat infiniteCode else infiniteCode))
  | .undefined => none

/-- Mix the code of one more item into that of the items before it. -/
def mixCode (mixed code : Nat) : Nat :=
  let sum := (mixed + code * 14029467366897019727) % codeLimit
  let turned := sum * Nat.pow 2 31 % codeLimit + sum / Nat.pow 2 33
  turned * 11400714785074694791 % codeLimit

def tupleCode (codes : List Nat) : Nat :=
  let mixed := codes.foldl mixCode 2870177450012600261
  let code := (mixed + (codes.length ^^^ (2870177450012600261 ^^^ 3527539))) % codeLimit
  if code + 1 = codeLimit then 1546275796 else code

mutual

def codeOf : Value -> Option Nat
  | str s => if s.isEmpty then some 0 else none
  | complex re im _ =>
      match extendedCode (.ofFloat re), extendedCode (.ofFloat im) with
      | some m, some n =>
          let code := (m + 1000003 * n) % codeLimit
          some (if code + 1 = codeLimit then codeLimit - 2 else code)
      | _, _ => none
  | duration d =>
      some (tupleCode
        [signedCode d.days, numberCode ((d.microseconds / 1000000 % 86400 : Int) : Rat),
          numberCode ((d.microseconds % 1000000 : Int) : Rat)])
  | tuple items => (codesOf items).map tupleCode
  | value => value.extended?.bind extendedCode

def codesOf : List Value -> Option (List Nat)
  | [] => some []
  | value :: rest =>
      match codeOf value, codesOf rest with
      | some code, some codes => some (code :: codes)
      | _, _ => none

end

/-!
# Tables
-/

/-- A table with places for members, each with its code, and how many are taken. -/
structure Table where
  places : Array (Option (Nat × Value))
  taken : Nat

namespace Table

def ofSize (size : Nat) : Table :=
  { places := Array.replicate size none, taken := 0 }

/-- A free place: next to the place tried, or further along the walk that a code leads to. -/
def freePlace (table : Table) : Nat -> Nat -> Nat -> Nat
  | 0, place, _ => place
  | rounds + 1, place, code =>
      let size := table.places.size
      let near := if place + 9 < size then 10 else 1
      match (List.range near).find? fun k => (table.places[place + k]?).any Option.isNone with
      | some k => place + k
      | none =>
          let left := code / 32
          freePlace table rounds ((place * 5 + 1 + left) % size) left

def place (table : Table) (member : Nat × Value) : Table :=
  let size := table.places.size
  let free := table.freePlace (size + 16) (member.1 % size) member.1
  { places := table.places.setIfInBounds free (some member), taken := table.taken + 1 }

def toList (table : Table) : List (Nat × Value) :=
  table.places.toList.filterMap id

def sizeAbove (least : Nat) : Nat -> Nat -> Nat
  | 0, size => size
  | rounds + 1, size => if size <= least then sizeAbove least rounds (2 * size) else size

def insert (table : Table) (member : Nat × Value) : Table :=
  let full := table.place member
  if full.taken * 5 < (full.places.size - 1) * 3 then full
  else
    let least := if 50000 < full.taken then 2 * full.taken else 4 * full.taken
    full.toList.foldl place (ofSize (sizeAbove least 64 8))

end Table

def inPlace (items : List Value) : List Value :=
  match codesOf items with
  | some codes =>
      let table := (codes.zip items).foldl Table.insert (Table.ofSize 8)
      table.toList.map Prod.snd
  | none => items

/-- The set of some values; those the same as an earlier one are dropped. -/
def setOf (items : List Value) : Value :=
  set (inPlace (distinct items))

end Value
end Wrangle
