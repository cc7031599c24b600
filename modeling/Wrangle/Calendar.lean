import Wrangle.Text.Layout

/-!
# Dates and times

Days of the proleptic Gregorian calendar, times of day to the microsecond, and
spans of time.
-/

namespace Wrangle

structure Date where
  year : Nat
  month : Nat
  day : Nat
  deriving DecidableEq, Repr

structure TimeOfDay where
  hour : Nat
  minute : Nat
  second : Nat
  microsecond : Nat
  deriving DecidableEq, Repr

structure DateTime where
  date : Date
  time : TimeOfDay
  deriving DecidableEq, Repr

structure Duration where
  microseconds : Int
  deriving DecidableEq, Repr

/-!
# Counting
-/

def isLeapYear (year : Nat) : Bool :=
  year % 4 == 0 && (year % 100 != 0 || year % 400 == 0)

def daysBeforeYear (year : Nat) : Nat :=
  let y := year - 1
  365 * y + y / 4 - y / 100 + y / 400

def daysInMonth (year month : Nat) : Nat :=
  if month = 2 then if isLeapYear year then 29 else 28
  else if month = 4 || month = 6 || month = 9 || month = 11 then 30
  else 31

def daysBeforeMonth (year month : Nat) : Nat :=
  (List.range (month - 1)).foldl (fun days m => days + daysInMonth year (m + 1)) 0

/-- The number of a day; the first day of year one is day one. -/
def Date.ordinal (d : Date) : Nat :=
  daysBeforeYear d.year + daysBeforeMonth d.year d.month + d.day

def monthOfDay (year : Nat) : Nat -> Nat -> Nat -> Nat × Nat
  | 0, month, day => (month, day)
  | rounds + 1, month, day =>
      let size := daysInMonth year month
      if day <= size then (month, day) else monthOfDay year rounds (month + 1) (day - size)

def Date.ofOrdinal? (n : Int) : Option Date :=
  if n < 1 || 3652059 < n then none
  else
    let days := n.toNat
    let guess := days / 366 + 1
    let year := (List.range 30).foldl
      (fun y _ => if daysBeforeYear (y + 1) < days then y + 1 else y) guess
    let (month, day) := monthOfDay year 12 1 (days - daysBeforeYear year)
    some { year := year, month := month, day := day }

def TimeOfDay.toMicroseconds (t : TimeOfDay) : Nat :=
  ((t.hour * 60 + t.minute) * 60 + t.second) * 1000000 + t.microsecond

def TimeOfDay.ofMicroseconds (n : Nat) : TimeOfDay :=
  let seconds := n / 1000000
  { hour := seconds / 3600
    minute := seconds / 60 % 60
    second := seconds % 60
    microsecond := n % 1000000 }

def microsecondsPerDay : Nat := 86400000000

def DateTime.toMicroseconds (t : DateTime) : Nat :=
  t.date.ordinal * microsecondsPerDay + t.time.toMicroseconds

def DateTime.ofMicroseconds? (n : Int) : Option DateTime :=
  (Date.ofOrdinal? (n.fdiv microsecondsPerDay)).map fun date =>
    { date := date, time := TimeOfDay.ofMicroseconds (n.fmod microsecondsPerDay).toNat }

def greatestSpan : Int := 999999999

def Duration.ofMicroseconds? (n : Int) : Option Duration :=
  let days := n.fdiv microsecondsPerDay
  if days.natAbs <= greatestSpan.natAbs then some { microseconds := n } else none

/-!
# Text
-/

open Text

def Date.text (d : Date) : String :=
  zeroPadded 4 d.year ++ "-" ++ zeroPadded 2 d.month ++ "-" ++ zeroPadded 2 d.day

def fractionText (microsecond : Nat) : String :=
  if microsecond = 0 then "" else "." ++ zeroPadded 6 microsecond

def TimeOfDay.text (t : TimeOfDay) : String :=
  zeroPadded 2 t.hour ++ ":" ++ zeroPadded 2 t.minute ++ ":" ++ zeroPadded 2 t.second ++
    fractionText t.microsecond

def DateTime.textWith (mark : String) (t : DateTime) : String :=
  t.date.text ++ mark ++ t.time.text

/-- The arguments of a time of day, without zeros at the end after hour and minute. -/
def TimeOfDay.arguments (t : TimeOfDay) : List String :=
  [toString t.hour, toString t.minute] ++
    (if t.microsecond = 0 then if t.second = 0 then [] else [toString t.second]
     else [toString t.second, toString t.microsecond])

def Date.arguments (d : Date) : List String :=
  [toString d.year, toString d.month, toString d.day]

def Date.render (d : Date) : String :=
  "datetime.date(" ++ joined ", " d.arguments ++ ")"

def TimeOfDay.render (t : TimeOfDay) : String :=
  "datetime.time(" ++ joined ", " t.arguments ++ ")"

def DateTime.render (t : DateTime) : String :=
  "datetime.datetime(" ++ joined ", " (t.date.arguments ++ t.time.arguments) ++ ")"

def Duration.days (d : Duration) : Int :=
  d.microseconds.fdiv microsecondsPerDay

def Duration.withinDay (d : Duration) : Nat :=
  (d.microseconds.fmod microsecondsPerDay).toNat

def Duration.text (d : Duration) : String :=
  let days := d.days
  let clock := TimeOfDay.ofMicroseconds d.withinDay
  let dayText :=
    if days = 0 then ""
    else toString days ++ (if days = 1 || days = -1 then " day, " else " days, ")
  dayText ++ toString clock.hour ++ ":" ++ zeroPadded 2 clock.minute ++ ":" ++
    zeroPadded 2 clock.second ++ fractionText clock.microsecond

def Duration.render (d : Duration) : String :=
  let seconds := d.withinDay / 1000000
  let rest := d.withinDay % 1000000
  let parts :=
    (if d.days = 0 then [] else ["days=" ++ toString d.days]) ++
    (if seconds = 0 then [] else ["seconds=" ++ toString seconds]) ++
    (if rest = 0 then [] else ["microseconds=" ++ toString rest])
  "datetime.timedelta(" ++ (if parts.isEmpty then "0" else joined ", " parts) ++ ")"

/-!
# Reading
-/

def fixedNumber? (width : Nat) (cs : List Char) : Option (Nat × List Char) :=
  let digits := cs.take width
  if digits.length = width && digits.all Char.isDigit then
    some (digits.foldl (fun n c => 10 * n + (c.toNat - 48)) 0, cs.drop width)
  else none

def expectChar? (c : Char) : List Char -> Option (List Char)
  | d :: rest => if d == c then some rest else none
  | [] => none

def takeDate? (cs : List Char) : Option (Date × List Char) := do
  let (year, cs) <- fixedNumber? 4 cs
  let cs <- expectChar? '-' cs
  let (month, cs) <- fixedNumber? 2 cs
  let cs <- expectChar? '-' cs
  let (day, cs) <- fixedNumber? 2 cs
  if 1 <= year && 1 <= month && month <= 12 && 1 <= day && day <= daysInMonth year month then
    some ({ year := year, month := month, day := day }, cs)
  else none

def takeFraction (cs : List Char) : Nat × List Char :=
  match cs with
  | '.' :: rest =>
      let digits := (rest.takeWhile Char.isDigit).take 6
      let value := digits.foldl (fun n c => 10 * n + (c.toNat - 48)) 0
      (value * Nat.pow 10 (6 - digits.length), rest.dropWhile Char.isDigit)
  | _ => (0, cs)

def takeTime? (cs : List Char) : Option (TimeOfDay × List Char) := do
  let (hour, cs) <- fixedNumber? 2 cs
  let cs <- expectChar? ':' cs
  let (minute, cs) <- fixedNumber? 2 cs
  let (second, cs) :=
    match (expectChar? ':' cs).bind (fixedNumber? 2) with
    | some (second, rest) => (second, rest)
    | none => (0, cs)
  let (microsecond, cs) := takeFraction cs
  if hour < 24 && minute < 60 && second < 60 then
    some ({ hour := hour, minute := minute, second := second, microsecond := microsecond }, cs)
  else none

def Date.ofText? (s : String) : Option Date :=
  match takeDate? s.toList with
  | some (d, []) => some d
  | _ => none

def TimeOfDay.ofText? (s : String) : Option TimeOfDay :=
  match takeTime? s.toList with
  | some (t, []) => some t
  | _ => none

def DateTime.ofText? (s : String) : Option DateTime := do
  let (date, rest) <- takeDate? s.toList
  match rest with
  | [] => some { date := date, time := TimeOfDay.ofMicroseconds 0 }
  | _ :: clock =>
      match takeTime? clock with
      | some (time, []) => some { date := date, time := time }
      | _ => none

end Wrangle
