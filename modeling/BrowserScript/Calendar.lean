import BrowserScript.Number.Notation

/-!
# Days and moments

Days of the calendar in use, and moments of a day with an optional distance from universal time.
The constructors that check their arguments name the first one that is out of range.
-/

namespace BrowserScript

structure Day where
  year : Nat
  month : Nat
  day : Nat
  deriving DecidableEq, Inhabited

/-- A moment on a day, with the seconds that its clock is ahead of universal time, if known. -/
structure Moment where
  date : Day
  hour : Nat
  minute : Nat
  second : Nat
  microsecond : Nat
  ahead : Option Int
  deriving DecidableEq, Inhabited

inductive CalendarFault where
  | year (value : Nat)
  | month
  | day
  | hour
  | minute
  | second
  /-- A clock a day or more away from universal time, by days and remaining seconds. -/
  | ahead (days : Int) (seconds : Nat)

def padded (width value : Nat) : List Char :=
  let digits := natText value
  List.replicate (width - digits.length) '0' ++ digits

namespace Day

def isLeap (year : Nat) : Bool :=
  year % 4 == 0 && (year % 100 != 0 || year % 400 == 0)

def monthLength (year month : Nat) : Nat :=
  if month == 2 then (if isLeap year then 29 else 28)
  else if [4, 6, 9, 11].contains month then 30
  else 31

def make (year month day : Nat) : Except CalendarFault Day :=
  if year == 0 || 9999 < year then .error (.year year)
  else if month == 0 || 12 < month then .error .month
  else if day == 0 || monthLength year month < day then .error .day
  else .ok ⟨year, month, day⟩

def text (day : Day) : List Char :=
  padded 4 day.year ++ '-' :: padded 2 day.month ++ '-' :: padded 2 day.day

/-- The days from a fixed day of the remote past. -/
def number (day : Day) : Nat :=
  let year := day.year - 1
  365 * year + year / 4 - year / 100 + year / 400
    + (List.range (day.month - 1)).foldl (fun days index => days + monthLength day.year (index + 1)) 0
    + day.day

end Day

/-- A signed number of seconds as whole days, rounded down, and the seconds that remain. -/
def splitDays (seconds : Int) : Int × Nat :=
  (Int.fdiv seconds 86400, (Int.fmod seconds 86400).toNat)

namespace Moment

/-- The moment with the given numbers, if there is one. -/
def make (year month day hour minute second microsecond : Nat) (ahead : Option Int) :
    Except CalendarFault Moment := do
  let date ← Day.make year month day
  if 23 < hour then throw .hour
  else if 59 < minute then throw .minute
  else if 59 < second then throw .second
  else return ⟨date, hour, minute, second, microsecond, ahead⟩

/-- The distance of a clock from universal time, less than a day. -/
def makeAhead (seconds : Int) : Except CalendarFault Int :=
  if seconds.natAbs < 86400 then .ok seconds
  else .error (.ahead (splitDays seconds).1 (splitDays seconds).2)

def clock (moment : Moment) : Int :=
  (((moment.date.number * 24 + moment.hour) * 60 + moment.minute) * 60 + moment.second) * 1000000
    + moment.microsecond

/-- Moments of unknown clocks are equal when their clocks agree, moments of known clocks when they
are the same in universal time. -/
def equals (left right : Moment) : Bool :=
  match left.ahead, right.ahead with
  | none, none => left.clock == right.clock
  | some leftAhead, some rightAhead =>
      left.clock - leftAhead * 1000000 == right.clock - rightAhead * 1000000
  | _, _ => false

def aheadText (seconds : Int) : List Char :=
  let minutes := seconds.natAbs / 60
  (if seconds < 0 then '-' else '+') :: padded 2 (minutes / 60) ++ ':' :: padded 2 (minutes % 60)

def text (separator : Char) (moment : Moment) : List Char :=
  moment.date.text ++ separator :: padded 2 moment.hour ++ ':' :: padded 2 moment.minute
    ++ ':' :: padded 2 moment.second
    ++ (if moment.microsecond == 0 then [] else '.' :: padded 6 moment.microsecond)
    ++ (moment.ahead.map aheadText).getD []

end Moment

end BrowserScript
