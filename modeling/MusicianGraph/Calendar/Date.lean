/-! # Calendar days

Days of the Gregorian calendar, extended backwards without a break, from the year 1 to the year
9999. A `Date` carries the proof that it is one of them. -/

namespace MusicianGraph

/-- Years with a 29th of February. -/
def isLeapYear (year : Nat) : Bool :=
  year % 4 == 0 && (year % 100 != 0 || year % 400 == 0)

/-- The length of a month; the months are numbered from 1. -/
def daysInMonth (year month : Nat) : Nat :=
  if month = 2 then (if isLeapYear year then 29 else 28)
  else if month = 4 ∨ month = 6 ∨ month = 9 ∨ month = 11 then 30
  else 31

/-- Is there such a day, the range of the year aside? -/
def isDayOfMonth (year month day : Nat) : Bool :=
  1 ≤ month && month ≤ 12 && 1 ≤ day && day ≤ daysInMonth year month

/-- A day of the years 1 to 9999. -/
structure Date where
  year : Nat
  month : Nat
  day : Nat
  year_valid : 1 ≤ year ∧ year ≤ 9999 := by decide
  day_valid : isDayOfMonth year month day = true := by decide
deriving DecidableEq

/-- A day that is written down; its year may be 0, which no `Date` has. -/
structure WrittenDay where
  year : Nat
  month : Nat
  day : Nat
deriving DecidableEq, Repr

namespace Date

/-- The day with the given numbers, if there is one. -/
def ofParts? (year month day : Nat) : Option Date :=
  if years : 1 ≤ year ∧ year ≤ 9999 then
    if days : isDayOfMonth year month day = true then
      some { year, month, day, year_valid := years, day_valid := days }
    else none
  else none

/-- Days from the first of March of the year 0 to the first of January 1970. -/
def epochOffset : Int := 719468

/-- Days in the four centuries after which the calendar repeats. -/
def daysInCycle : Int := 146097

/-- The number of days from the first of January 1970. -/
def epochDay (d : Date) : Int :=
  let year := if d.month ≤ 2 then d.year - 1 else d.year
  let marchMonth := if d.month > 2 then d.month - 3 else d.month + 9
  let dayOfYear := (153 * marchMonth + 2) / 5 + d.day - 1
  (365 * year + year / 4 + year / 400 + dayOfYear : Int) - (year / 100 : Nat) - epochOffset

end Date

namespace WrittenDay

/-- The day, unless its year is 0. -/
def date? (d : WrittenDay) : Option Date := Date.ofParts? d.year d.month d.day

/-- The day that is a number of days after the first of January 1970, from the year 0 on. Years are
taken to begin in March, so that the leap day is the last day of its year. -/
def ofEpochDay (days : Int) : WrittenDay :=
  let shifted := days + Date.epochOffset
  let cycle := Int.fdiv shifted Date.daysInCycle
  let inCycle := (shifted - cycle * Date.daysInCycle).toNat
  let yearOfCycle := (inCycle - inCycle / 1460 + inCycle / 36524 - inCycle / 146096) / 365
  let dayOfYear := inCycle - (365 * yearOfCycle + yearOfCycle / 4 - yearOfCycle / 100)
  let marchMonth := (5 * dayOfYear + 2) / 153
  let day := dayOfYear - (153 * marchMonth + 2) / 5 + 1
  let month := if marchMonth < 10 then marchMonth + 3 else marchMonth - 9
  let year := cycle * 400 + yearOfCycle + (if month ≤ 2 then 1 else 0)
  ⟨year.toNat, month, day⟩

end WrittenDay

end MusicianGraph
