/-!
# Dates and times

The moments a data file can name: a day of the calendar, or a time of such a day, with or
without an offset from universal time.
-/

namespace DartBlock

structure Day where
  year : Nat
  month : Nat
  day : Nat
  deriving DecidableEq, Repr

/-- A time of day; the offset from universal time is in minutes. -/
structure Clock where
  hour : Nat
  minute : Nat
  second : Nat
  microsecond : Nat := 0
  offset : Option Int := none
  deriving DecidableEq, Repr

structure Moment where
  date : Day
  clock : Option Clock := none
  deriving DecidableEq, Repr

def padded (width n : Nat) : String :=
  let ds := Nat.toDigits 10 n
  String.ofList (List.replicate (width - ds.length) '0' ++ ds)

namespace Day

def isLeap (year : Nat) : Bool :=
  year % 4 == 0 && (year % 100 != 0 || year % 400 == 0)

def monthLength (year month : Nat) : Nat :=
  if month = 2 then if isLeap year then 29 else 28
  else if month = 4 ∨ month = 6 ∨ month = 9 ∨ month = 11 then 30
  else 31

def isValid (d : Day) : Bool :=
  1 ≤ d.year && 1 ≤ d.month && d.month ≤ 12 && 1 ≤ d.day
    && d.day ≤ monthLength d.year d.month

/-- The number of days from the first day of year 1. -/
def number (d : Day) : Nat :=
  let before := d.year - 1
  before * 365 + before / 4 - before / 100 + before / 400
    + (List.range (d.month - 1)).foldl (fun days m => days + monthLength d.year (m + 1)) 0
    + (d.day - 1)

def text (d : Day) : String :=
  padded 4 d.year ++ "-" ++ padded 2 d.month ++ "-" ++ padded 2 d.day

end Day

namespace Clock

/-- Whether a day has this time and the offset stays below a day. -/
def isValid (c : Clock) : Bool :=
  c.hour < 24 && c.minute < 60 && c.second < 60
    && match c.offset with
      | some minutes => minutes.natAbs < 1440
      | none => true

def offsetText (minutes : Int) : String :=
  (if minutes < 0 then "-" else "+") ++ padded 2 (minutes.natAbs / 60) ++ ":"
    ++ padded 2 (minutes.natAbs % 60)

/-- The time, its microseconds if there are any, and its offset if it has one. -/
def text (c : Clock) : String :=
  padded 2 c.hour ++ ":" ++ padded 2 c.minute ++ ":" ++ padded 2 c.second
    ++ (if c.microsecond = 0 then "" else "." ++ padded 6 c.microsecond)
    ++ (match c.offset with | some minutes => offsetText minutes | none => "")

def microseconds (c : Clock) : Nat :=
  ((c.hour * 60 + c.minute) * 60 + c.second) * 1000000 + c.microsecond

end Clock

namespace Moment

def text (m : Moment) : String :=
  m.date.text ++ match m.clock with
    | some c => " " ++ c.text
    | none => ""

/-- Whether two moments are the same. Times with an offset are compared in universal time; a
time without one is never the same as one with it. -/
def same (m n : Moment) : Bool :=
  match m.clock, n.clock with
  | some c, some d =>
    match c.offset, d.offset with
    | some o, some p =>
      ((m.date.number : Int) * 1440 - o) * 60000000 + c.microseconds
        == ((n.date.number : Int) * 1440 - p) * 60000000 + d.microseconds
    | _, _ => m == n
  | _, _ => m == n

end Moment

end DartBlock
