/-!
# Layout of text

Padding, joining and cutting of lines, counted in characters.
-/

namespace Wrangle
namespace Text

def joined (separator : String) (texts : List String) : String :=
  String.intercalate separator texts

def spaces (n : Nat) : String :=
  String.ofList (List.replicate n ' ')

def lengthsText (lengths : List Nat) : String :=
  "[" ++ joined ", " ((lengths.mergeSort fun a b => decide (a <= b)).map toString) ++ "]"

def padRight (width : Nat) (s : String) : String :=
  s ++ spaces (width - s.length)

def padLeft (width : Nat) (s : String) : String :=
  spaces (width - s.length) ++ s

def zeroPadded (width n : Nat) : String :=
  let digits := toString n
  String.ofList (List.replicate (width - digits.length) '0') ++ digits

/-- The first characters of a text; a negative count leaves that many out at the end. -/
def cutTo (width : Int) (s : String) : String :=
  let count := if width < 0 then (s.length : Int) + width else width
  String.ofList (s.toList.take count.toNat)

def startsWith (cs part : List Char) : Bool :=
  part.isPrefixOf cs

def occursIn (part : List Char) : List Char -> Bool
  | [] => part.isEmpty
  | c :: rest => part.isPrefixOf (c :: rest) || occursIn part rest

def replaceChar (c : Char) (text : List Char) (cs : List Char) : List Char :=
  cs.flatMap fun d => if d == c then text else [d]

end Text
end Wrangle
