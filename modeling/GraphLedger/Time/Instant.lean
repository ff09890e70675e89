import GraphLedger.Text.Blank

/-!
# Instants

An instant is a number of seconds since 1970 and a fraction in nanoseconds; a leap second is the
second before it with a fraction of a second or more. Instants are written in universal time by the
rules of internet timestamps, with a fraction of 0, 3, 6 or 9 digits, whichever is the shortest that
is exact. Reading is lenient about blanks between the numbers.
-/

namespace GraphLedger

/-- A point in time. -/
structure Instant where
  seconds : Int
  nanos : Nat
  deriving DecidableEq, Inhabited, Repr

namespace Instant

/-! ### The calendar -/

/-- The number of days from 1970 to a day of the calendar. Years begin in March here, so that the
leap day is the last day of one. -/
def daysOfDate (year month day : Int) : Int :=
  let y := if month ≤ 2 then year - 1 else year
  let era := Int.fdiv y 400
  let yearOfEra := y - era * 400
  let monthFromMarch := if 2 < month then month - 3 else month + 9
  let dayOfYear := (153 * monthFromMarch + 2) / 5 + day - 1
  let dayOfEra := yearOfEra * 365 + yearOfEra / 4 - yearOfEra / 100 + dayOfYear
  era * 146097 + dayOfEra - 719468

/-- The year, month and day of a number of days from 1970. -/
def dateOfDays (days : Int) : Int × Nat × Nat :=
  let z := days + 719468
  let era := Int.fdiv z 146097
  let dayOfEra := z - era * 146097
  let yearOfEra := (dayOfEra - dayOfEra / 1460 + dayOfEra / 36524 - dayOfEra / 146096) / 365
  let dayOfYear := dayOfEra - (365 * yearOfEra + yearOfEra / 4 - yearOfEra / 100)
  let m := (5 * dayOfYear + 2) / 153
  let day := dayOfYear - (153 * m + 2) / 5 + 1
  let month := if m < 10 then m + 3 else m - 9
  let year := yearOfEra + era * 400
  (if month ≤ 2 then year + 1 else year, month.toNat, day.toNat)

/-- Whether a year has a leap day. -/
def isLeapYear (year : Int) : Bool :=
  year % 4 == 0 && (year % 100 != 0 || year % 400 == 0)

/-- The number of days of a month. -/
def daysInMonth (year : Int) (month : Nat) : Nat :=
  if month == 2 then (if isLeapYear year then 29 else 28)
  else if month == 4 || month == 6 || month == 9 || month == 11 then 30
  else 31

/-- The years of the calendar. -/
def yearInRange (year : Int) : Bool := -262143 ≤ year && year ≤ 262142

/-! ### Writing -/

/-- A number with leading zeros. -/
def padded (width n : Nat) : String :=
  let ds := Nat.toDigits 10 n
  String.ofList (List.replicate (width - ds.length) '0' ++ ds)

/-- A year with at least four digits, and with a sign if four digits without one are not enough. -/
def yearText (year : Int) : String :=
  if 0 ≤ year && year ≤ 9999 then padded 4 year.toNat
  else (if year < 0 then "-" else "+") ++ padded 4 year.natAbs

/-- A fraction of a second with its point, empty if there is none. -/
def fractionText (nanos : Nat) : String :=
  if nanos == 0 then ""
  else if nanos % 1000000 == 0 then "." ++ padded 3 (nanos / 1000000)
  else if nanos % 1000 == 0 then "." ++ padded 6 (nanos / 1000)
  else "." ++ padded 9 nanos

/-- The text of an instant. -/
def toText (t : Instant) : String :=
  let days := Int.fdiv t.seconds 86400
  let ofDay := (t.seconds - days * 86400).toNat
  let (year, month, day) := dateOfDays days
  let leap := 1000000000 ≤ t.nanos
  let second := ofDay % 60 + (if leap then 1 else 0)
  let nanos := if leap then t.nanos - 1000000000 else t.nanos
  yearText year ++ "-" ++ padded 2 month ++ "-" ++ padded 2 day ++ "T" ++ padded 2 (ofDay / 3600)
    ++ ":" ++ padded 2 (ofDay / 60 % 60) ++ ":" ++ padded 2 second ++ fractionText nanos ++ "Z"

/-- The instant a number of milliseconds after 1970. -/
def ofMilliseconds (n : Nat) : Instant := ⟨n / 1000, n % 1000 * 1000000⟩

/-! ### Reading -/

/-- The text without the blanks at its start. -/
def skipBlank (s : List Char) : List Char := s.dropWhile Text.isBlank

/-- Reads a number of at least one digit and at most a width, after blanks. -/
def readNumber (width : Nat) (s : List Char) : Option (Nat × List Char) :=
  let ds := (s.takeWhile Char.isDigit).take width
  if ds.isEmpty then none
  else some (ds.foldl (fun n c => n * 10 + (c.toNat - 48)) 0, s.drop ds.length)

/-- Reads a year: four digits, or any number of them after a sign. -/
def readYear (s : List Char) : Option (Int × List Char) :=
  match skipBlank s with
  | '-' :: cs => (readNumber cs.length cs).map fun (n, rest) => (-(n : Int), rest)
  | '+' :: cs => (readNumber cs.length cs).map fun (n, rest) => ((n : Int), rest)
  | cs => (readNumber 4 cs).map fun (n, rest) => ((n : Int), rest)

/-- Reads a separator after blanks. -/
def readSeparator (c : Char) (s : List Char) : Option (List Char) :=
  match skipBlank s with
  | d :: cs => if d == c then some cs else none
  | [] => none

/-- Reads two digits after blanks. -/
def readPair (s : List Char) : Option (Nat × List Char) := readNumber 2 (skipBlank s)

/-- Reads a fraction of a second, if there is one; digits beyond the ninth do not count. -/
def readFraction : List Char → Option (Nat × List Char)
  | '.' :: cs =>
    (readNumber 9 cs).map fun (n, rest) =>
      let taken := cs.length - rest.length
      (n * Nat.pow 10 (9 - taken), rest.dropWhile Char.isDigit)
  | cs => some (0, cs)

/-- Whether a character may stand between the hours and the minutes of an offset. -/
def isOffsetSeparator (c : Char) : Bool := c == ':' || Text.isBlank c

/-- Reads the distance from universal time in seconds, after its sign. -/
def readOffset (negative : Bool) (s : List Char) : Option (Int × List Char) :=
  match s with
  | a :: b :: rest =>
    if a.isDigit && b.isDigit then
      match rest.dropWhile isOffsetSeparator with
      | c :: d :: rest =>
        if '0' ≤ c && c ≤ '5' && d.isDigit then
          let hours := (a.toNat - 48) * 10 + (b.toNat - 48)
          let minutes := (c.toNat - 48) * 10 + (d.toNat - 48)
          let offset : Int := hours * 3600 + minutes * 60
          some (if negative then -offset else offset, rest)
        else none
      | _ => none
    else none
  | _ => none

/-- Reads the name of universal time, or a distance from it. -/
def readZone (s : List Char) : Option (Int × List Char) :=
  match s with
  | 'Z' :: rest => some (0, rest)
  | 'z' :: rest => some (0, rest)
  | '+' :: rest => readOffset false rest
  | '-' :: rest => readOffset true rest
  | '\u2212' :: rest => readOffset true rest
  | u :: t :: c :: rest =>
    if u.toUpper == 'U' && t.toUpper == 'T' && c.toUpper == 'C' then some (0, rest) else none
  | _ => none

/-- The instant of a date and time of day at a distance from universal time. -/
def ofParts? (year : Int) (month day hour minute second nanos : Nat) (offset : Int) :
    Option Instant :=
  if yearInRange year && 1 ≤ month && month ≤ 12 && 1 ≤ day && day ≤ daysInMonth year month
      && hour ≤ 23 && minute ≤ 59 && second ≤ 60 && -86400 < offset && offset < 86400 then
    let leap := second == 60
    let ofDay : Int := hour * 3600 + minute * 60 + (if leap then 59 else second)
    let seconds := daysOfDate year month day * 86400 + ofDay - offset
    let (utcYear, _) := dateOfDays (Int.fdiv seconds 86400)
    if yearInRange utcYear then some ⟨seconds, if leap then nanos + 1000000000 else nanos⟩ else none
  else none

/-- Reads an instant. -/
def read? (text : String) : Option Instant := do
  let (year, s) ← readYear text.toList
  let s ← readSeparator '-' s
  let (month, s) ← readPair s
  let s ← readSeparator '-' s
  let (day, s) ← readPair s
  let s ← match s with
    | c :: cs => if c == 'T' || c == 't' || c == ' ' then some cs else none
    | [] => none
  let (hour, s) ← readPair s
  let s ← readSeparator ':' s
  let (minute, s) ← readPair s
  let s ← readSeparator ':' s
  let (second, s) ← readPair s
  let (nanos, s) ← readFraction s
  let (offset, s) ← readZone (skipBlank s)
  if (skipBlank s).isEmpty then ofParts? year month day hour minute second nanos offset else none

end Instant

end GraphLedger
