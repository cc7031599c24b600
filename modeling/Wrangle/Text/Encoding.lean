import Wrangle.Outcome
import Wrangle.Text.Casing
import Wrangle.Text.CodePage
import Wrangle.Text.Quoted

/-!
# Encodings

Texts as bytes and back.  Bytes that stand for no character, and characters that
an encoding has no bytes for, are dealt with by a remedy.
-/

namespace Wrangle
namespace Text

inductive Encoding where
  | utf8
  | utf8Marked
  | ascii
  | latin
  | page (high : List Char)
  | utf16
  | utf16Little
  | utf16Big
  | utf32
  | utf32Little
  | utf32Big
  deriving DecidableEq, Repr

/-- What to do where a text cannot be read or written. -/
inductive Remedy where
  | refuse
  | skip
  | replace
  | escape
  | reference
  | unknown
  deriving DecidableEq, Repr

/-!
# Names
-/

/-- Letters and digits of a name in lower case, with one underscore for all between them. -/
def encodingKey (name : String) : String :=
  let keep (c : Char) : Bool := c.isAlphanum || c == '.'
  let words := (name.toList.splitBy fun a b => keep a == keep b).filter fun word => word.all keep
  String.intercalate "_" (words.map fun word => String.ofList (word.map Char.toLower))

namespace Encoding

def names : List (Encoding × List String) := [
  (utf8, ["utf_8", "u8", "utf", "utf8", "utf8_ucs2", "utf8_ucs4", "cp65001", "locale"]),
  (utf8Marked, ["utf_8_sig"]),
  (ascii, ["ascii", "646", "ansi_x3.4_1968", "ansi_x3_4_1968", "ansi_x3.4_1986", "cp367",
    "csascii", "ibm367", "iso646_us", "iso_646.irv_1991", "iso_ir_6", "us", "us_ascii"]),
  (latin, ["latin_1", "8859", "cp819", "csisolatin1", "ibm819", "iso8859", "iso8859_1",
    "iso_8859_1", "iso_8859_1_1987", "iso_ir_100", "l1", "latin", "latin1"]),
  (utf16, ["utf_16", "u16", "utf16"]),
  (utf16Little, ["utf_16_le", "unicodelittleunmarked", "utf_16le"]),
  (utf16Big, ["utf_16_be", "unicodebigunmarked", "utf_16be"]),
  (utf32, ["utf_32", "u32", "utf32"]),
  (utf32Little, ["utf_32_le", "utf_32le"]),
  (utf32Big, ["utf_32_be", "utf_32be"])]

def ofName? (name : String) : Option Encoding :=
  let key := encodingKey name
  match names.find? fun entry => entry.2.contains key with
  | some entry => some entry.1
  | none => (CodePage.ofName? key).map fun found => page found.high.toList

end Encoding

def Remedy.ofName (name : String) : Remedy :=
  match name with
  | "strict" | "surrogateescape" | "surrogatepass" => .refuse
  | "ignore" => .skip
  | "replace" => .replace
  | "backslashreplace" => .escape
  | "xmlcharrefreplace" => .reference
  | _ => .unknown

/-!
# Remedies
-/

def Remedy.read (remedy : Remedy) (bytes : List UInt8) : Except Fault (List Char) :=
  match remedy with
  | .refuse => .error .undecodable
  | .skip => .ok []
  | .replace => .ok ['\uFFFD']
  | .escape => .ok (bytes.flatMap fun b => '\\' :: 'x' :: hexDigits 2 b.toNat)
  | .reference => .error .badType
  | .unknown => .error .unknownName

/-- What is written in the place of a character that there are no bytes for. -/
def Remedy.written (remedy : Remedy) (c : Char) : Except Fault (List Char) :=
  match remedy with
  | .refuse => .error .unencodable
  | .skip => .ok []
  | .replace => .ok ['?']
  | .escape => .ok (codeEscape c)
  | .reference => .ok ('&' :: '#' :: (toString c.toNat).toList ++ [';'])
  | .unknown => .error .unknownName

/-!
# Sequences of one to four bytes
-/

/-- The number of bytes that follow a first one, and the range of the next of them. -/
def leadByte (b : UInt8) : Option (Nat × Nat × UInt8 × UInt8) :=
  if b < 0x80 then some (b.toNat, 0, 0x80, 0xBF)
  else if 0xC2 <= b && b <= 0xDF then some (b.toNat - 0xC0, 1, 0x80, 0xBF)
  else if b == 0xE0 then some (0, 2, 0xA0, 0xBF)
  else if b == 0xED then some (0xD, 2, 0x80, 0x9F)
  else if 0xE1 <= b && b <= 0xEF then some (b.toNat - 0xE0, 2, 0x80, 0xBF)
  else if b == 0xF0 then some (0, 3, 0x90, 0xBF)
  else if 0xF1 <= b && b <= 0xF3 then some (b.toNat - 0xF0, 3, 0x80, 0xBF)
  else if b == 0xF4 then some (4, 3, 0x80, 0x8F)
  else none

/-- Read the bytes that follow a first one; the value is there when all of them are.  The count
is the number of bytes that belong together. -/
def tailBytes (value : Nat) : Nat -> UInt8 -> UInt8 -> List UInt8 -> Option Nat × Nat
  | 0, _, _, _ => (some value, 0)
  | _ + 1, _, _, [] => (none, 0)
  | more + 1, low, high, b :: rest =>
      if low <= b && b <= high then
        let (found, count) := tailBytes (value * 64 + (b.toNat - 0x80)) more 0x80 0xBF rest
        (found, count + 1)
      else (none, 0)

/-- Read characters one after another, with a remedy for bytes that stand for none. -/
def readSequences (remedy : Remedy) : Nat -> List UInt8 -> Except Fault (List Char)
  | _, [] => .ok []
  | 0, _ => .ok []
  | fuel + 1, b :: rest => do
      let (found, count) :=
        match leadByte b with
        | some (value, more, low, high) => tailBytes value more low high rest
        | none => (none, 0)
      let first <-
        match found with
        | some code => .ok [Char.ofNat code]
        | none => remedy.read (b :: rest.take count)
      let others <- readSequences remedy fuel (rest.drop count)
      .ok (first ++ others)

def decodeUtf8 (remedy : Remedy) (bytes : ByteArray) : Except Fault String :=
  match String.fromUTF8? bytes with
  | some s => .ok s
  | none => (readSequences remedy bytes.size bytes.toList).map String.ofList

theorem decodeUtf8_toUTF8 (remedy : Remedy) (s : String) :
    decodeUtf8 remedy s.toUTF8 = .ok s := by
  have read : String.fromUTF8? s.toUTF8 = some s := by
    simp only [String.fromUTF8?, Option.dite_none_right_eq_some]
    exact Exists.intro s.isValidUTF8 rfl
  unfold decodeUtf8
  rw [read]

def byteOrderMark : Char := '\uFEFF'

/-- Whether a text ends before its mark is complete; nothing is read of it. -/
def isMarkBegun (bytes : List UInt8) : Bool :=
  bytes == [0xEF] || bytes == [0xEF, 0xBB]

def dropMark (s : String) : String :=
  match s.toList with
  | c :: rest => if c == byteOrderMark then String.ofList rest else s
  | [] => s

/-!
# Single bytes
-/

def charOfByte (encoding : Encoding) (b : UInt8) : Option Char :=
  if b < 0x80 then some (Char.ofNat b.toNat)
  else
    match encoding with
    | .latin => some (Char.ofNat b.toNat)
    | .page high => (high[b.toNat - 0x80]?).filter fun c => c != CodePage.unused
    | _ => none

def byteOfChar (encoding : Encoding) (c : Char) : Option UInt8 :=
  if c.toNat < 0x80 then some (UInt8.ofNat c.toNat)
  else
    match encoding with
    | .latin => if c.toNat < 0x100 then some (UInt8.ofNat c.toNat) else none
    | .page high => (high.findIdx? fun found => found == c).map fun i => UInt8.ofNat (0x80 + i)
    | _ => none

def readBytes (encoding : Encoding) (remedy : Remedy) : List UInt8 -> Except Fault (List Char)
  | [] => .ok []
  | b :: rest => do
      let first <-
        match charOfByte encoding b with
        | some c => .ok [c]
        | none => remedy.read [b]
      let others <- readBytes encoding remedy rest
      .ok (first ++ others)

def writeBytes (encoding : Encoding) (remedy : Remedy) : List Char -> Except Fault (List UInt8)
  | [] => .ok []
  | c :: rest => do
      let first <-
        match byteOfChar encoding c with
        | some b => .ok [b]
        | none => (remedy.written c).map fun cs => cs.filterMap (byteOfChar encoding)
      let others <- writeBytes encoding remedy rest
      .ok (first ++ others)

/-!
# Pairs of bytes
-/

def pairValue (big : Bool) (a b : UInt8) : Nat :=
  if big then a.toNat * 256 + b.toNat else b.toNat * 256 + a.toNat

def isHighHalf (n : Nat) : Bool := 0xD800 <= n && n < 0xDC00

def isLowHalf (n : Nat) : Bool := 0xDC00 <= n && n < 0xE000

def readPairs (big : Bool) (remedy : Remedy) : Nat -> List UInt8 -> Except Fault (List Char)
  | _, [] => .ok []
  | 0, _ => .ok []
  | fuel + 1, a :: b :: rest =>
      let high := pairValue big a b
      if isHighHalf high then
        match rest with
        | c :: d :: others =>
            let low := pairValue big c d
            if isLowHalf low then do
              let cs <- readPairs big remedy fuel others
              .ok (Char.ofNat (0x10000 + (high - 0xD800) * 0x400 + (low - 0xDC00)) :: cs)
            else do
              let first <- remedy.read [a, b]
              let cs <- readPairs big remedy fuel rest
              .ok (first ++ cs)
        | _ => remedy.read (a :: b :: rest)
      else if isLowHalf high then do
        let first <- remedy.read [a, b]
        let cs <- readPairs big remedy fuel rest
        .ok (first ++ cs)
      else do
        let cs <- readPairs big remedy fuel rest
        .ok (Char.ofNat high :: cs)
  | _ + 1, [a] => remedy.read [a]

def pairBytes (big : Bool) (n : Nat) : List UInt8 :=
  let high := UInt8.ofNat (n / 256)
  let low := UInt8.ofNat (n % 256)
  if big then [high, low] else [low, high]

def charPairs (big : Bool) (c : Char) : List UInt8 :=
  if c.toNat < 0x10000 then pairBytes big c.toNat
  else
    let n := c.toNat - 0x10000
    pairBytes big (0xD800 + n / 0x400) ++ pairBytes big (0xDC00 + n % 0x400)

def wholePairs : List UInt8 -> List UInt8
  | a :: b :: rest =>
      if rest.length < 2 && isHighHalf (pairValue false a b) then []
      else a :: b :: wholePairs rest
  | _ => []

/-- A mark at the start tells which byte of a pair comes first; it has to be there. -/
def readMarkedPairs (remedy : Remedy) (bytes : List UInt8) : Except Fault (List Char) :=
  match bytes with
  | 0xFF :: 0xFE :: rest => readPairs false remedy rest.length rest
  | 0xFE :: 0xFF :: rest => readPairs true remedy rest.length rest
  | _ :: _ :: _ => do
      let _ <- readPairs false remedy bytes.length (wholePairs bytes)
      .error .unmarked
  | _ => readPairs false remedy bytes.length bytes

/-!
# Fours of bytes
-/

def bytesValue (bytes : List UInt8) : Nat :=
  bytes.foldl (fun n b => n * 256 + b.toNat) 0

def readFours (big : Bool) (remedy : Remedy) : List UInt8 -> Except Fault (List Char)
  | [] => .ok []
  | a :: b :: c :: d :: rest => do
      let code := bytesValue (if big then [a, b, c, d] else [d, c, b, a])
      let first <-
        if code.isValidChar then .ok [Char.ofNat code] else remedy.read [a, b, c, d]
      let others <- readFours big remedy rest
      .ok (first ++ others)
  | bytes => remedy.read bytes

def charFour (big : Bool) (c : Char) : List UInt8 :=
  let high := pairBytes big (c.toNat / 0x10000)
  let low := pairBytes big (c.toNat % 0x10000)
  if big then high ++ low else low ++ high

/-- A mark at the start tells which byte comes first; it has to be there. -/
def readMarkedFours (remedy : Remedy) (bytes : List UInt8) : Except Fault (List Char) :=
  match bytes with
  | 0xFF :: 0xFE :: 0 :: 0 :: rest => readFours false remedy rest
  | 0 :: 0 :: 0xFE :: 0xFF :: rest => readFours true remedy rest
  | _ :: _ :: _ :: _ :: _ => do
      let _ <- readFours false remedy (bytes.take (bytes.length / 4 * 4))
      .error .unmarked
  | _ => readFours false remedy bytes

/-!
# Texts
-/

namespace Encoding

def decode (encoding : Encoding) (remedy : Remedy) (bytes : ByteArray) : Except Fault String :=
  match encoding with
  | utf8 => decodeUtf8 remedy bytes
  | utf8Marked =>
      if isMarkBegun bytes.toList then .ok "" else (decodeUtf8 remedy bytes).map dropMark
  | utf16 => (readMarkedPairs remedy bytes.toList).map String.ofList
  | utf16Little => (readPairs false remedy bytes.size bytes.toList).map String.ofList
  | utf16Big => (readPairs true remedy bytes.size bytes.toList).map String.ofList
  | utf32 => (readMarkedFours remedy bytes.toList).map String.ofList
  | utf32Little => (readFours false remedy bytes.toList).map String.ofList
  | utf32Big => (readFours true remedy bytes.toList).map String.ofList
  | _ => (readBytes encoding remedy bytes.toList).map String.ofList

def bytesOf (bytes : List UInt8) : ByteArray :=
  ByteArray.mk bytes.toArray

def marked (s : String) : List Char :=
  if s.isEmpty then [] else byteOrderMark :: s.toList

def encode (encoding : Encoding) (remedy : Remedy) (s : String) : Except Fault ByteArray :=
  match encoding with
  | utf8 => .ok s.toUTF8
  | utf8Marked => .ok (String.ofList (marked s)).toUTF8
  | utf16 => .ok (bytesOf ((marked s).flatMap (charPairs false)))
  | utf16Little => .ok (bytesOf (s.toList.flatMap (charPairs false)))
  | utf16Big => .ok (bytesOf (s.toList.flatMap (charPairs true)))
  | utf32 => .ok (bytesOf ((marked s).flatMap (charFour false)))
  | utf32Little => .ok (bytesOf (s.toList.flatMap (charFour false)))
  | utf32Big => .ok (bytesOf (s.toList.flatMap (charFour true)))
  | _ => (writeBytes encoding remedy s.toList).map bytesOf

end Encoding
end Text
end Wrangle
