import MusicianGraph.Calendar.Date

/-! # Moments

A moment is a day and a time of day in microseconds, with the offset of its clock from universal
time if that is known. Two moments are the same instant when both offsets are known and the
universal times agree, or neither is known and the clocks agree. -/

namespace MusicianGraph

/-- How many seconds a clock is ahead of universal time; less than a day. -/
structure Offset where
  seconds : Int
  seconds_valid : -86400 < seconds ∧ seconds < 86400 := by decide
deriving DecidableEq

namespace Offset

def universal : Offset where
  seconds := 0

/-- The offset of so many seconds, if that is less than a day. -/
def ofSeconds? (seconds : Int) : Option Offset :=
  if valid : -86400 < seconds ∧ seconds < 86400 then some ⟨seconds, valid⟩ else none

end Offset

structure TimeOfDay where
  hour : Fin 24
  minute : Fin 60
  second : Fin 60
  micro : Fin 1000000
deriving DecidableEq

namespace TimeOfDay

/-- The beginning of the day. -/
def midnight : TimeOfDay := ⟨0, 0, 0, 0⟩

/-- The time with the given numbers, if there is one. -/
def ofParts? (hour minute second micro : Nat) : Option TimeOfDay :=
  if h : hour < 24 ∧ minute < 60 ∧ second < 60 ∧ micro < 1000000 then
    some ⟨⟨hour, h.1⟩, ⟨minute, h.2.1⟩, ⟨second, h.2.2.1⟩, ⟨micro, h.2.2.2⟩⟩
  else none

def micros (t : TimeOfDay) : Int :=
  ((t.hour.val * 60 + t.minute.val) * 60 + t.second.val) * 1000000 + t.micro.val

end TimeOfDay

/-- A moment; without an offset the clock that showed it is not known. -/
structure DateTime where
  date : Date
  time : TimeOfDay
  offset : Option Offset
deriving DecidableEq

/-- A moment that is written down; its year may be 0. -/
structure WrittenMoment where
  day : WrittenDay
  time : TimeOfDay
  offset : Option Offset
deriving DecidableEq

/-- The moment, unless its year is 0. -/
def WrittenMoment.moment? (w : WrittenMoment) : Option DateTime :=
  w.day.date?.map fun date => ⟨date, w.time, w.offset⟩

namespace DateTime

/-- The beginning of a day, on no particular clock. -/
def ofDate (d : Date) : DateTime := ⟨d, .midnight, none⟩

/-- Microseconds on the moment's own clock. -/
def clock (t : DateTime) : Int :=
  t.date.epochDay * 86400000000 + t.time.micros

/-- Microseconds in universal time, or on the moment's own clock if its offset is not known. -/
def instant (t : DateTime) : Int :=
  t.clock - (t.offset.elim 0 (·.seconds)) * 1000000

/-- Is it the same instant? A moment without an offset is never the same as one with an offset. -/
def sameInstant (s t : DateTime) : Bool :=
  s.offset.isSome == t.offset.isSome && s.instant == t.instant

end DateTime

end MusicianGraph
