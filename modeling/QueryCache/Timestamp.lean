/-
QueryCache.Timestamp — points in time written as text.

Four written forms are read, in this order: a full RFC 3339 time with its
offset; a date and a time of day joined by `T`; the same joined by blanks;
a date alone, at midnight.  Without an offset the time is taken as UTC.
A leap second is the second `:59` with a thousand million nanoseconds
more, so it sorts behind `:59` and before the next minute.
-/
import QueryCache.Text.Basic

namespace QueryCache

/-- A point in time: seconds since the start of 1970 and the nanoseconds
in that second. -/
structure Timestamp where
  seconds : Int
  nanos : Nat
deriving DecidableEq, Repr

namespace Timestamp

/-- Points in time in their order. -/
protected def compare (a b : Timestamp) : Ordering :=
  (compare a.seconds b.seconds).then (compare a.nanos b.nanos)

instance : Ord Timestamp := ⟨Timestamp.compare⟩

/-! ## 1. The calendar -/

/-- The year has a 29th of February. -/
def isLeapYear (year : Int) : Bool :=
  year % 4 == 0 && (year % 100 != 0 || year % 400 == 0)

/-- The number of days of a month, none outside 1 to 12. -/
def daysInMonth (year : Int) (month : Nat) : Nat :=
  match month with
  | 1 | 3 | 5 | 7 | 8 | 10 | 12 => 31
  | 4 | 6 | 9 | 11 => 30
  | 2 => if isLeapYear year then 29 else 28
  | _ => 0

/-- Days from the start of 1970 to a day of the proleptic Gregorian
calendar.  Years are counted from March, so that the leap day is the last
of its year; 400 years have 146097 days. -/
def dayNumber (year : Int) (month day : Nat) : Int :=
  let year := if month ≤ 2 then year - 1 else year
  let era := year / 400
  let yearOfEra := year % 400
  let monthFromMarch : Nat := if month ≤ 2 then month + 9 else month - 3
  let dayOfYear : Nat := (153 * monthFromMarch + 2) / 5 + day - 1
  era * 146097 + yearOfEra * 365 + yearOfEra / 4 - yearOfEra / 100 + dayOfYear - 719468

/-- The day of a date that exists. -/
def day? (year : Int) (month day : Nat) : Option Int :=
  if -262143 ≤ year ∧ year ≤ 262142 ∧ 1 ≤ day ∧ day ≤ daysInMonth year month then
    some (dayNumber year month day)
  else none

/-- A time of day: its seconds and nanoseconds. -/
def time? (hour minute second nanos : Nat) : Option (Nat × Nat) :=
  if hour ≤ 23 ∧ minute ≤ 59 ∧ second ≤ 60 then
    let leap := second = 60
    some (3600 * hour + 60 * minute + (if leap then 59 else second),
      nanos + if leap then 1000000000 else 0)
  else none

/-- The point in time at a time of a day. -/
def ofDay (day : Int) (time : Nat × Nat) : Timestamp :=
  ⟨day * 86400 + time.1, time.2⟩

/-! ## 2. Fields -/

/-- A number of at least `least` and, when `most` is given, at most `most`
digits, and what follows it. -/
def number (least : Nat) (most : Option Nat) (text : Text) : Option (Nat × Text) :=
  let digits := text.takeWhile Text.isDigit
  let digits := match most with
    | some most => digits.take most
    | none => digits
  if digits.length < least then none
  else some (Text.digitsValue digits, text.drop digits.length)

/-- A number of at most `width` digits after any blanks. -/
def field (width : Nat) (text : Text) : Option (Nat × Text) :=
  number 1 (some width) (text.dropWhile Unicode.isBlank)

/-- A year after any blanks: up to four digits, or any number of them
behind a sign. -/
def yearField (text : Text) : Option (Int × Text) :=
  match text.dropWhile Unicode.isBlank with
  | '-' :: rest => (number 1 none rest).map fun (year, rest) => (-(year : Int), rest)
  | '+' :: rest => (number 1 none rest).map fun (year, rest) => ((year : Int), rest)
  | text => (number 1 (some 4) text).map fun (year, rest) => ((year : Int), rest)

/-- One given character. -/
def mark (c : Char) : Text → Option Text
  | x :: rest => if x = c then some rest else none
  | [] => none

/-- The nanoseconds of a fraction behind a point: nine digits count, the
others are dropped.  Without a point there is no fraction. -/
def fraction : Text → Option (Nat × Text)
  | '.' :: rest =>
    let digits := rest.takeWhile Text.isDigit
    if digits.isEmpty then none
    else
      let counted := digits.take 9
      some (Text.digitsValue counted * Nat.pow 10 (9 - counted.length), rest.dropWhile Text.isDigit)
  | text => some (0, text)

/-! ## 3. Written forms -/

/-- An offset from UTC in seconds: `Z`, or a sign, hours and minutes. -/
def offset (text : Text) : Option (Int × Text) :=
  match text with
  | [] => none
  | c :: rest =>
    if c = 'Z' ∨ c = 'z' then some (0, rest)
    else do
      let sign : Int ←
        if c = '+' then some 1 else if c = '-' ∨ c = '\u2212' then some (-1) else none
      let (hours, rest) ← number 2 (some 2) rest
      let rest ← mark ':' rest
      let (minutes, rest) ← number 2 (some 2) rest
      if hours ≤ 23 ∧ minutes ≤ 59 then
        some (sign * (3600 * hours + 60 * minutes), rest)
      else none

/-- `1996-12-19T16:39:57.5-08:00`: every field at its full width, and an
offset. -/
def readFull (text : Text) : Option Timestamp := do
  let (year, rest) ← number 4 (some 4) text
  let rest ← mark '-' rest
  let (month, rest) ← number 2 (some 2) rest
  let rest ← mark '-' rest
  let (day, rest) ← number 2 (some 2) rest
  let rest ← match rest with
    | c :: rest => if c = 'T' ∨ c = 't' ∨ c = ' ' then some rest else none
    | [] => none
  let (hour, rest) ← number 2 (some 2) rest
  let rest ← mark ':' rest
  let (minute, rest) ← number 2 (some 2) rest
  let rest ← mark ':' rest
  let (second, rest) ← number 2 (some 2) rest
  let (nanos, rest) ← fraction rest
  let (shift, rest) ← offset rest
  guard rest.isEmpty
  let day ← day? year month day
  let time ← time? hour minute second nanos
  let here := ofDay day time
  some { here with seconds := here.seconds - shift }

/-- A date, its fields at any width up to the full one. -/
def readDate (text : Text) : Option (Int × Text) := do
  let (year, rest) ← yearField text
  let rest ← mark '-' rest
  let (month, rest) ← field 2 rest
  let rest ← mark '-' rest
  let (day, rest) ← field 2 rest
  let day ← day? year month day
  some (day, rest)

/-- A time of day, its fields at any width up to the full one, up to the
end of the text. -/
def readTime (text : Text) : Option (Nat × Nat) := do
  let (hour, rest) ← field 2 text
  let rest ← mark ':' rest
  let (minute, rest) ← field 2 rest
  let rest ← mark ':' rest
  let (second, rest) ← field 2 rest
  let (nanos, rest) ← fraction rest
  guard rest.isEmpty
  time? hour minute second nanos

/-- A date and a time of day joined by `T`. -/
def readJoined (text : Text) : Option Timestamp := do
  let (day, rest) ← readDate text
  let rest ← mark 'T' rest
  let time ← readTime rest
  some (ofDay day time)

/-- A date and a time of day with any blanks between them. -/
def readSpaced (text : Text) : Option Timestamp := do
  let (day, rest) ← readDate text
  let time ← readTime rest
  some (ofDay day time)

/-- A date alone. -/
def readMidnight (text : Text) : Option Timestamp := do
  let (day, rest) ← readDate text
  guard rest.isEmpty
  some (ofDay day (0, 0))

/-- The point in time that a text writes. -/
def read (text : Text) : Option Timestamp :=
  (readFull text).orElse fun _ =>
    (readJoined text).orElse fun _ =>
      (readSpaced text).orElse fun _ => readMidnight text

end Timestamp
end QueryCache
