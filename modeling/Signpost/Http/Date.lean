import Signpost.Text.Numeral

/-!
# Dates

A moment is a number of seconds since the start of 1970, before the end of the
year 9999: the moments that a fixed-length HTTP date can name.  The date is
computed on years that begin in March, so that the leap day is the last day.
-/

namespace Signpost

/-- The first second of the year 10000. -/
def momentLimit : Nat := 253402300800

structure Moment where
  seconds : Nat
  seconds_lt : seconds < momentLimit
  deriving DecidableEq

namespace Moment

def ofSeconds? (seconds : Nat) : Option Moment :=
  if h : seconds < momentLimit then some ⟨seconds, h⟩ else none

/-- A day of the calendar. -/
structure Day where
  year : Nat
  month : Nat
  day : Nat
  deriving DecidableEq, Repr

/-- The calendar day a number of days after the start of 1970.  An era is 400 years that begin in
March of a year divisible by 400. -/
def dayOf (days : Nat) : Day :=
  let shifted := days + 719468
  let era := shifted / 146097
  let dayOfEra := shifted % 146097
  let yearOfEra :=
    (dayOfEra - dayOfEra / 1460 + dayOfEra / 36524 - dayOfEra / 146096) / 365
  let dayOfYear := dayOfEra - (365 * yearOfEra + yearOfEra / 4 - yearOfEra / 100)
  let monthFromMarch := (5 * dayOfYear + 2) / 153
  let month := if monthFromMarch < 10 then monthFromMarch + 3 else monthFromMarch - 9
  { year := 400 * era + yearOfEra + (if month ≤ 2 then 1 else 0)
    month
    day := dayOfYear - (153 * monthFromMarch + 2) / 5 + 1 }

def weekdays : List String := ["Sun", "Mon", "Tue", "Wed", "Thu", "Fri", "Sat"]

def months : List String :=
  ["Jan", "Feb", "Mar", "Apr", "May", "Jun", "Jul", "Aug", "Sep", "Oct", "Nov", "Dec"]

/-- The date in its fixed form of 29 characters. -/
def text (m : Moment) : String :=
  let days := m.seconds / 86400
  let second := m.seconds % 86400
  let date := dayOf days
  let two := Numeral.padded 10 2
  (weekdays[(days + 4) % 7]?.getD "") ++ ", " ++ two date.day ++ " " ++
    (months[date.month - 1]?.getD "") ++ " " ++ Numeral.padded 10 4 date.year ++ " " ++
    two (second / 3600) ++ ":" ++ two (second / 60 % 60) ++ ":" ++ two (second % 60) ++ " GMT"

def wire (m : Moment) : Octets := Octets.ofText m.text

end Moment

/-- The number of octets of a date. -/
def dateLength : Nat := 29

end Signpost
