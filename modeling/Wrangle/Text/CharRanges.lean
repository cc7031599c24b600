/-!
# Character ranges

A set of characters is written as a list of inclusive code point ranges in
ascending order.  The tables of characters follow version 14 of the Unicode
character database.
-/

namespace Wrangle
namespace Text

abbrev CharRanges := List (Nat × Nat)

def CharRanges.contains (ranges : CharRanges) (c : Char) : Bool :=
  ranges.any fun range => decide (range.1 <= c.toNat) && decide (c.toNat <= range.2)

theorem CharRanges.contains_nil (c : Char) : CharRanges.contains [] c = false := rfl

/-!
# Blank characters

White space of any script.  Blanks separate tokens, and stripping a text takes
them off both ends.
-/

def blankRanges : CharRanges := [
  (0x9, 0xd), (0x1c, 0x20), (0x85, 0x85), (0xa0, 0xa0), (0x1680, 0x1680),
  (0x2000, 0x200a), (0x2028, 0x2029), (0x202f, 0x202f), (0x205f, 0x205f), (0x3000, 0x3000)]

def isBlank (c : Char) : Bool :=
  blankRanges.contains c

/-!
# Stripping
-/

def dropBlanks (cs : List Char) : List Char :=
  cs.dropWhile isBlank

def stripChars (cs : List Char) : List Char :=
  (dropBlanks (dropBlanks cs).reverse).reverse

def strip (s : String) : String :=
  String.ofList (stripChars s.toList)

def stripWhere (test : Char -> Bool) (s : String) : String :=
  String.ofList (((s.toList.dropWhile test).reverse.dropWhile test).reverse)

/-!
# Space around numerals

The control characters that separate records are blank, but they are not space
that may stand around a numeral.
-/

def isSpace (c : Char) : Bool :=
  isBlank c && !(0x1c <= c.toNat && c.toNat <= 0x1f)

def dropSpaces (cs : List Char) : List Char :=
  cs.dropWhile isSpace

def stripSpaces (cs : List Char) : List Char :=
  (dropSpaces (dropSpaces cs).reverse).reverse

/-!
# Decimal digits

The decimal digits of every script come in runs of ten.  The value of a digit
is its distance from the zero of its run.
-/

def digitZeros : List Nat := [
  0x30, 0x660, 0x6f0, 0x7c0, 0x966, 0x9e6, 0xa66, 0xae6, 0xb66, 0xbe6,
  0xc66, 0xce6, 0xd66, 0xde6, 0xe50, 0xed0, 0xf20, 0x1040, 0x1090, 0x17e0,
  0x1810, 0x1946, 0x19d0, 0x1a80, 0x1a90, 0x1b50, 0x1bb0, 0x1c40, 0x1c50, 0xa620,
  0xa8d0, 0xa900, 0xa9d0, 0xa9f0, 0xaa50, 0xabf0, 0xff10, 0x104a0, 0x10d30, 0x11066,
  0x110f0, 0x11136, 0x111d0, 0x112f0, 0x11450, 0x114d0, 0x11650, 0x116c0, 0x11730, 0x118e0,
  0x11950, 0x11c50, 0x11d50, 0x11da0, 0x16a60, 0x16ac0, 0x16b50, 0x1d7ce, 0x1d7d8, 0x1d7e2,
  0x1d7ec, 0x1d7f6, 0x1e140, 0x1e2f0, 0x1e950, 0x1fbf0]

def digitValue? (c : Char) : Option Nat :=
  (digitZeros.find? fun start => decide (start <= c.toNat) && decide (c.toNat < start + 10)).map
    fun start => c.toNat - start

def isDigit (c : Char) : Bool :=
  (digitValue? c).isSome

def pushDigit (n : Nat) (c : Char) : Nat :=
  10 * n + (digitValue? c).getD 0

def digitsValue (cs : List Char) : Nat :=
  cs.foldl pushDigit 0

end Text
end Wrangle
