import ApiShapes.Decimal.Digits

/-!
# Dates and moments

Calendar dates of the years 1 to 9999 and moments of a day with an optional offset from universal
time, with their ISO texts.
-/

namespace ApiShapes

structure Date where
  year : Nat
  month : Nat
  day : Nat
  deriving DecidableEq

structure Moment where
  date : Date
  hour : Nat
  minute : Nat
  second : Nat
  microsecond : Nat
  /-- The distance from universal time in minutes, where it is known. -/
  offset : Option Int
  deriving DecidableEq

/-- Why numbers do not form a date, a moment or an offset. -/
inductive CalendarFault where
  | year (year : Nat)
  | month
  | day
  | hour
  | minute
  | second
  | offset (minutes : Int)
  deriving DecidableEq

def isLeapYear (year : Nat) : Bool :=
  year % 4 == 0 && (year % 100 != 0 || year % 400 == 0)

def daysInMonth (year month : Nat) : Nat :=
  match month with
  | 2 => if isLeapYear year then 29 else 28
  | 4 | 6 | 9 | 11 => 30
  | _ => 31

def Date.make (year month day : Nat) : Except CalendarFault Date :=
  if year < 1 ∨ 9999 < year then .error (.year year)
  else if month < 1 ∨ 12 < month then .error .month
  else if day < 1 ∨ daysInMonth year month < day then .error .day
  else .ok ⟨year, month, day⟩

/-- An offset is shorter than a day. -/
def checkOffset (minutes : Int) : Except CalendarFault Int :=
  if minutes.natAbs < 24 * 60 then .ok minutes else .error (.offset minutes)

def Moment.make (date : Date) (hour minute second microsecond : Nat) (offset : Option Int) :
    Except CalendarFault Moment :=
  if 23 < hour then .error .hour
  else if 59 < minute then .error .minute
  else if 59 < second then .error .second
  else .ok ⟨date, hour, minute, second, microsecond, offset⟩

/-- The days of the first months of a year. -/
def daysOfMonths (year : Nat) : Nat → Nat
  | 0 => 0
  | month + 1 => daysOfMonths year month + daysInMonth year (month + 1)

/-- Days since the day before the first of January of the year 1. -/
def Date.ordinal (date : Date) : Nat :=
  let past := date.year - 1
  past * 365 + past / 4 - past / 100 + past / 400 + daysOfMonths date.year (date.month - 1) +
    date.day

/-- Microseconds since the beginning of the calendar, in universal time where the offset is
known. -/
def Moment.instant (t : Moment) : Int :=
  let minutes : Int := ((t.date.ordinal * 24 + t.hour) * 60 + t.minute : Nat) - t.offset.getD 0
  (minutes * 60 + t.second) * 1000000 + t.microsecond

/-- Two moments are the same if their instants are, and either both offsets are known or
neither. -/
def Moment.sameInstant (s t : Moment) : Bool :=
  s.offset.isSome == t.offset.isSome && s.instant == t.instant

open Decimal in
def Date.isoText (date : Date) : List Char :=
  padded 4 date.year ++ '-' :: padded 2 date.month ++ '-' :: padded 2 date.day

open Decimal in
/-- The ISO text with the given character between date and time; microseconds only if there are
any. -/
def Moment.isoText (separator : Char) (t : Moment) : List Char :=
  let time := padded 2 t.hour ++ ':' :: padded 2 t.minute ++ ':' :: padded 2 t.second
  let fraction := if t.microsecond = 0 then [] else '.' :: padded 6 t.microsecond
  let zone :=
    match t.offset with
    | none => []
    | some minutes =>
      let sign := if minutes < 0 then '-' else '+'
      sign :: padded 2 (minutes.natAbs / 60) ++ ':' :: padded 2 (minutes.natAbs % 60)
  t.date.isoText ++ separator :: time ++ fraction ++ zone

def CalendarFault.message : CalendarFault → String
  | .year n => "year " ++ String.ofList (Decimal.digits n) ++ " is out of range"
  | .month => "month must be in 1..12"
  | .day => "day is out of range for month"
  | .hour => "hour must be in 0..23"
  | .minute => "minute must be in 0..59"
  | .second => "second must be in 0..59"
  | .offset minutes =>
    "an offset of " ++ String.ofList (Decimal.intDigits minutes) ++ " minutes is a day or longer"

end ApiShapes
