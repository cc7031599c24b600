import Wrangle.Number.Numeral
import Wrangle.Outcome
import Wrangle.Pattern.Basic
import Wrangle.Text.Name
import Wrangle.Text.Quoted

/-!
# Reading patterns

The text of a pattern is read from left to right; every way in which it can be
malformed is the same fault.
-/

namespace Wrangle
namespace Pattern

open Text

/-!
# Flags
-/

structure Flags where
  ignoreCase : Bool
  multiline : Bool
  dotAll : Bool
  plain : Bool
  verbose : Bool
  deriving DecidableEq

namespace Flags

def none : Flags :=
  { ignoreCase := false, multiline := false, dotAll := false, plain := false, verbose := false }

def set (flags : Flags) (on : Bool) (c : Char) : Flags :=
  match c with
  | 'i' => { flags with ignoreCase := on }
  | 'm' => { flags with multiline := on }
  | 's' => { flags with dotAll := on }
  | 'x' => { flags with verbose := on }
  | 'a' => { flags with plain := on }
  | 'u' => { flags with plain := !on }
  | _ => flags

def setAll (flags : Flags) (on : Bool) (cs : List Char) : Flags :=
  cs.foldl (fun current c => current.set on c) flags

def style (flags : Flags) : MatchStyle :=
  { ignoreCase := flags.ignoreCase, plain := flags.plain }

end Flags

/-!
# State of reading
-/

/--
What is left to read, the characters that have names, the flags of the whole
pattern and the letters that set them, and what is known of the groups before it.
A pattern that is refused is read to its end.
-/
structure Scan where
  rest : List Char
  character? : String -> Option Char
  flags : Flags
  letters : List Char
  repeats : Bool
  refused : Bool
  nextGroup : Nat
  widths : List (Nat × Nat × Option Nat)
  names : List (String × Nat)
  groupsBeforeLook : Option Nat
  conditions : List Nat

abbrev Scanner := StateT Scan (Except Fault)

namespace Scanner

def fail : Scanner alpha :=
  throw .badPattern

def peek? : Scanner (Option Char) := do
  return (<- get).rest.head?

def drop (count : Nat) : Scanner Unit :=
  modify fun scan => { scan with rest := scan.rest.drop count }

def next : Scanner Char := do
  match <- peek? with
  | some c => drop 1; return c
  | none => fail

def skip? (c : Char) : Scanner Bool := do
  if (<- peek?) == some c then drop 1; return true
  else return false

def expect (c : Char) : Scanner Unit := do
  unless <- skip? c do fail

def takeWhile (test : Char -> Bool) (limit : Nat) : Scanner (List Char) := do
  let taken := ((<- get).rest.take limit).takeWhile test
  drop taken.length
  return taken

def nameUntil (close : Char) : Scanner String := do
  let rest := (<- get).rest
  let name := rest.takeWhile fun c => c != close
  if name.isEmpty || name.length == rest.length then fail
  drop (name.length + 1)
  return String.ofList name

end Scanner

open Scanner

/-!
# Escapes
-/

def isOctal (c : Char) : Bool := decide ('0' <= c) && decide (c <= '7')

def isHex (c : Char) : Bool :=
  c.isDigit || (decide ('a' <= c) && decide (c <= 'f')) || (decide ('A' <= c) && decide (c <= 'F'))

def hexValue (cs : List Char) : Nat :=
  cs.foldl (fun n c => 16 * n +
    (if c.isDigit then c.toNat - 48 else (c.toNat ||| 32) - 87)) 0

def octalValue (cs : List Char) : Nat :=
  cs.foldl (fun n c => 8 * n + (c.toNat - 48)) 0

def decimalValue (cs : List Char) : Nat :=
  cs.foldl (fun n c => 10 * n + (c.toNat - 48)) 0

def hexCode (count : Nat) : Scanner Nat := do
  let digits <- takeWhile isHex count
  let code := hexValue digits
  if digits.length != count || 0x10ffff < code then fail
  return code

def controlCode? (c : Char) : Option Nat :=
  match c with
  | 'a' => some 7
  | 'f' => some 12
  | 'n' => some 10
  | 'r' => some 13
  | 't' => some 9
  | 'v' => some 11
  | _ => none

def classItem? (c : Char) : Option CharItem :=
  match c with
  | 'd' => some (.ofClass .digit false)
  | 'D' => some (.ofClass .digit true)
  | 's' => some (.ofClass .blank false)
  | 'S' => some (.ofClass .blank true)
  | 'w' => some (.ofClass .word false)
  | 'W' => some (.ofClass .word true)
  | _ => none

def namedCode : Scanner Nat := do
  expect '\x7b'
  let name <- nameUntil '\x7d'
  match (<- get).character? name with
  | some c => return c.toNat
  | none => fail

def escapedCode (c : Char) : Scanner Nat := do
  match controlCode? c with
  | some code => return code
  | none =>
      if c == 'N' then namedCode
      else if c == 'x' then hexCode 2
      else if c == 'u' then hexCode 4
      else if c == 'U' then hexCode 8
      else if c.isAlpha then fail
      else return c.toNat

/-!
# Sets
-/

def setEscape : Scanner CharItem := do
  let c <- next
  match classItem? c with
  | some item => return item
  | none =>
      if c == 'b' then return .code 8
      else if isOctal c then
        let more <- takeWhile isOctal 2
        let code := octalValue (c :: more)
        if 0o377 < code then fail
        return .code code
      else if c.isDigit then fail
      else return .code (<- escapedCode c)

def setMember (c : Char) : Scanner CharItem :=
  if c == backslash then setEscape else return .code c.toNat

def setItems : Nat -> List CharItem -> Scanner (List CharItem)
  | 0, _ => fail
  | rounds + 1, items => do
      let c <- next
      if c == ']' && !items.isEmpty then return items.reverse
      let low <- setMember c
      if <- skip? '-' then
        let d <- next
        if d == ']' then return (.code '-'.toNat :: low :: items).reverse
        let high <- setMember d
        match low, high with
        | .code m, .code n =>
            if n < m then fail
            setItems rounds (.range m n :: items)
        | _, _ => fail
      else setItems rounds (low :: items)

def charSet : Scanner CharSet := do
  let negated <- skip? '^'
  let items <- setItems ((<- get).rest.length + 1) []
  return { items := items.eraseDups, negated := negated }

/-!
# References
-/

def isClosed (scan : Scan) (index : Nat) : Bool :=
  (scan.widths.lookup index).isSome

def checkBehind (index : Nat) : Scanner Unit := do
  let scan <- get
  match scan.groupsBeforeLook with
  | some before => if !isClosed scan index || before <= index then fail
  | none => return

def referenceTo (flags : Flags) (index : Nat) : Scanner Pattern := do
  checkBehind index
  match (<- get).widths.lookup index with
  | some (least, most) => return .reference flags.style index least most
  | none => fail

def numberedEscape (flags : Flags) (c : Char) : Scanner Pattern := do
  let rest := (<- get).rest
  match rest with
  | d :: e :: _ =>
      if isOctal c && isOctal d && isOctal e then
        drop 2
        let code := octalValue [c, d, e]
        if 0o377 < code then fail
        return .oneOf flags.style { items := [.code code], negated := false }
      else numbered
  | _ => numbered
where
  numbered : Scanner Pattern := do
    let more <- takeWhile Char.isDigit 1
    referenceTo flags (decimalValue (c :: more))

def literal (flags : Flags) (code : Nat) : Pattern :=
  .oneOf flags.style { items := [.code code], negated := false }

def escape (flags : Flags) : Scanner Pattern := do
  let c <- next
  match classItem? c with
  | some item => return .oneOf flags.style { items := [item], negated := false }
  | none =>
      match c with
      | 'A' => return .anchor .textStart
      | 'Z' => return .anchor .textEnd
      | 'b' => return .anchor (.wordEdge flags.plain false)
      | 'B' => return .anchor (.wordEdge flags.plain true)
      | '0' =>
          let more <- takeWhile isOctal 2
          return literal flags (octalValue more)
      | _ =>
          if c.isDigit then numberedEscape flags c
          else return literal flags (<- escapedCode c)

/-!
# Repetitions
-/

def repetitionLimit : Nat := 4294967295

def bounds? : Scanner (Option (Nat × Option Nat)) := do
  let start <- get
  let low <- takeWhile Char.isDigit start.rest.length
  let comma <- skip? ','
  let high <- if comma then takeWhile Char.isDigit start.rest.length else pure low
  if (low.isEmpty && high.isEmpty && !comma) || !(<- skip? '\x7d') then
    set start
    return none
  if Number.digitLimit < low.length || Number.digitLimit < high.length then throw .tooManyDigits
  let least := decimalValue low
  let most := if high.isEmpty then none else some (decimalValue high)
  if repetitionLimit <= least || most.any (fun n => decide (repetitionLimit <= n)) then
    throw .overflow
  if most.any fun n => decide (n < least) then fail
  return some (least, most)

def quantifier? (c : Char) : Scanner (Option (Nat × Option Nat)) := do
  match c with
  | '?' => return some (0, some 1)
  | '*' => return some (0, none)
  | '+' => return some (1, none)
  | '\x7b' => bounds?
  | _ => return none

def isQuantifier (c : Char) : Bool :=
  c == '?' || c == '*' || c == '+' || c == '\x7b'

def isAnchor : Pattern -> Bool
  | .anchor _ => true
  | _ => false

def isRepetition : Pattern -> Bool
  | .repetition _ _ _ _ => true
  | _ => false

def greed : Scanner Greed := do
  if <- skip? '?' then return .reluctant
  else if <- skip? '+' then return .possessive
  else return .greedy

def repeatLast (items : List Pattern) (least : Nat) (most : Option Nat) :
    Scanner (List Pattern) := do
  match items with
  | [] => fail
  | last :: before =>
      if isAnchor last || isRepetition last then fail
      modify fun scan => { scan with repeats := true }
      return .repetition least most (<- greed) last :: before

/-!
# Flags in groups
-/

def isFlagChar (c : Char) : Bool := ['i', 'm', 's', 'x', 'a', 'u', 't'].contains c

/-- How flags end: for the whole pattern, or for a group with others switched off. -/
inductive FlagChange where
  | everywhere (on : List Char)
  | inGroup (on off : List Char)

def flagChange : Scanner FlagChange := do
  let on <- takeWhile isFlagChar (<- get).rest.length
  if on.contains 'a' && on.contains 'u' then fail
  let close <- next
  if close == ')' then
    if on.isEmpty then fail
    return .everywhere on
  if on.contains 't' then fail
  if close == ':' then return .inGroup on []
  if close != '-' then fail
  let off <- takeWhile isFlagChar (<- get).rest.length
  expect ':'
  if off.isEmpty || off.any (fun c => ['a', 'u', 't'].contains c || on.contains c) then fail
  return .inGroup on off

/-!
# Groups
-/

def openGroup (name : Option String) : Scanner Nat := do
  let scan <- get
  match name with
  | some name =>
      if (scan.names.lookup name).isSome then fail
      set { scan with nextGroup := scan.nextGroup + 1, names := (name, scan.nextGroup) :: scan.names }
  | none => set { scan with nextGroup := scan.nextGroup + 1 }
  return scan.nextGroup

def closeGroup (index : Nat) (body : Pattern) : Scanner Unit :=
  modify fun scan =>
    { scan with widths := (index, body.leastWidth, body.mostWidth) :: scan.widths }

def groupName (close : Char) : Scanner String := do
  let name <- nameUntil close
  unless isPlainName name do fail
  return name

def namedIndex (name : String) : Scanner Nat := do
  match (<- get).names.lookup name with
  | some index => return index
  | none => fail

def conditionIndex : Scanner Nat := do
  let name <- nameUntil ')'
  if isPlainName name then namedIndex name
  else
    match Number.readInt? name with
    | some n =>
        if n <= 0 then fail
        modify fun scan => { scan with conditions := n.toNat :: scan.conditions }
        return n.toNat
    | none => fail

/-- Skip what comes up to a closing character, which no escape makes; tell whether it came. -/
def skipThrough (close : Char) : Nat -> Scanner Bool
  | 0 => return false
  | rounds + 1 => do
      if (<- get).rest.isEmpty then return false
      let c <- next
      if c == close then return true
      if c == backslash then
        let _ <- next
      skipThrough close rounds

def comment (close : Char) : Scanner Bool := do
  skipThrough close ((<- get).rest.length + 1)

/-!
# Sequences and choices
-/

def atEnd : Option Char -> Bool
  | none => true
  | some c => c == '|' || c == ')'

def isPatternSpace (c : Char) : Bool :=
  c == ' ' || (9 <= c.toNat && c.toNat <= 13)

def inForce (scope : Option Flags) : Scanner Flags := do
  return scope.getD (<- get).flags

def behindLimit : Nat := 4294967295

def lookAround (negated behind : Bool) (body : Pattern) : Scanner Pattern := do
  if behind then
    match body.fixedWidth?.filter fun width => decide (width <= behindLimit) with
    | some width => return .lookBehind negated width body
    | none =>
        modify fun scan => { scan with refused := true }
        return .empty
  else return .lookAhead negated body

mutual

def branches : Nat -> Option Flags -> Bool -> Scanner (List (List Pattern))
  | 0, _, _ => fail
  | rounds + 1, scope, first => do
      let branch <- items rounds scope first []
      if <- skip? '|' then return branch :: (<- branches rounds scope false)
      else return [branch]

/--
Items up to the end of a branch; those read before it come in reverse order.
The items of a group without a name or number are items of the branch.
-/
def items : Nat -> Option Flags -> Bool -> List Pattern -> Scanner (List Pattern)
  | 0, _, _, _ => fail
  | rounds + 1, scope, first, before => do
      if atEnd (<- peek?) then return before.reverse.flatMap Pattern.toList
      let flags <- inForce scope
      let c <- next
      if flags.verbose && isPatternSpace c then items rounds scope first before
      else if flags.verbose && c == '#' then
        let _ <- comment '\n'
        items rounds scope first before
      else if c == backslash then
        let item <- escape flags
        items rounds scope first (item :: before)
      else if isQuantifier c then
        match <- quantifier? c with
        | some (least, most) =>
            let after <- repeatLast before least most
            items rounds scope first after
        | none => items rounds scope first (literal flags c.toNat :: before)
      else
        match c with
        | '[' =>
            let set <- charSet
            items rounds scope first (.oneOf flags.style set :: before)
        | '.' => items rounds scope first (.anyChar flags.dotAll :: before)
        | '^' =>
            let place := if flags.multiline then .lineStart else .textStart
            items rounds scope first (.anchor place :: before)
        | '$' =>
            let place := if flags.multiline then .lineEnd else .lastLineEnd
            items rounds scope first (.anchor place :: before)
        | '(' =>
            let item <- parenthesis rounds scope (first && before.isEmpty)
            items rounds scope first (item.toList ++ before)
        | _ => items rounds scope first (literal flags c.toNat :: before)

def parenthesis : Nat -> Option Flags -> Bool -> Scanner (Option Pattern)
  | 0, _, _ => fail
  | rounds + 1, scope, first => do
      if !(<- skip? '?') then return some (<- capture rounds scope none)
      let c <- next
      match c with
      | 'P' =>
          if <- skip? '<' then
            let name <- groupName '>'
            return some (<- capture rounds scope (some name))
          else
            expect '='
            let index <- namedIndex (<- groupName ')')
            return some (<- referenceTo (<- inForce scope) index)
      | ':' => return some (<- enclosed rounds scope)
      | '>' => return some (.atomic (<- enclosed rounds scope))
      | '#' =>
          unless <- comment ')' do fail
          return none
      | '=' => return some (<- lookAround false false (<- enclosed rounds scope))
      | '!' => return some (<- lookAround true false (<- enclosed rounds scope))
      | '<' =>
          let sign <- next
          if sign != '=' && sign != '!' then fail
          let outer := (<- get).groupsBeforeLook
          modify fun scan => { scan with groupsBeforeLook := some (outer.getD scan.nextGroup) }
          let body <- enclosed rounds scope
          modify fun scan => { scan with groupsBeforeLook := outer }
          return some (<- lookAround (sign == '!') true body)
      | '(' => return some (<- condition rounds scope)
      | _ =>
          if !(isFlagChar c || c == '-') then fail
          modify fun scan => { scan with rest := c :: scan.rest }
          match <- flagChange with
          | .everywhere on =>
              if !first then fail
              modify fun scan =>
                { scan with flags := scan.flags.setAll true on, letters := scan.letters ++ on }
              return none
          | .inGroup on off =>
              let flags <- inForce scope
              let inner := (flags.setAll true on).setAll false off
              return some (.flagged (<- enclosed rounds (some inner)))

def capture : Nat -> Option Flags -> Option String -> Scanner Pattern
  | 0, _, _ => fail
  | rounds + 1, scope, name => do
      let index <- openGroup name
      let body <- enclosed rounds scope
      closeGroup index body
      return .group index body

def enclosed : Nat -> Option Flags -> Scanner Pattern
  | 0, _ => fail
  | rounds + 1, scope => do
      let alternatives <- branches rounds scope false
      expect ')'
      return Pattern.ofBranches alternatives

def condition : Nat -> Option Flags -> Scanner Pattern
  | 0, _ => fail
  | rounds + 1, scope => do
      let index <- conditionIndex
      checkBehind index
      let whenSet := Pattern.ofList (<- items rounds scope false [])
      if <- skip? '|' then
        let otherwise := Pattern.ofList (<- items rounds scope false [])
        expect ')'
        return .conditional index whenSet (some otherwise)
      else
        expect ')'
        return .conditional index whenSet none

end

def isUsable (scan : Scan) : Bool :=
  scan.rest.isEmpty && scan.conditions.all (fun index => decide (index < scan.nextGroup)) &&
    !scan.refused && !(scan.repeats && scan.letters.contains 't')

def whole (size : Nat) : Scanner Pattern := do
  let alternatives <- branches (6 * size + 6) none true
  let scan <- get
  if scan.letters.contains 'a' && scan.letters.contains 'u' then throw .badValue
  unless isUsable scan do fail
  return Pattern.ofBranches alternatives

/-- The pattern that a text describes; characters can be given by the names that they have. -/
def ofText (s : String) (character? : String -> Option Char := fun _ => none) :
    Except Fault Pattern :=
  let start : Scan :=
    { rest := s.toList, character? := character?
      flags := Flags.none, letters := [], repeats := false, refused := false
      nextGroup := 1, widths := [], names := []
      groupsBeforeLook := none, conditions := [] }
  match (whole s.length).run start with
  | .ok (p, _) => .ok p
  | .error f => .error f

end Pattern
end Wrangle
