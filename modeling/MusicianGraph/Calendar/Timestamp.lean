import MusicianGraph.Calendar.DateTime
import MusicianGraph.Number.Numeral

/-! # Moments as numbers

A number is a moment in universal time, counted from the beginning of 1970: in seconds, or in
milliseconds when it is large. Moments before the year 0 and after the year 9999 are out of range.

Of a number with a fraction, what is above its floor is rounded to microseconds. -/

namespace MusicianGraph.Timestamp

def largestSeconds : Nat := 20000000000

/-- The first second of the year 0. -/
def firstSecond : Int := -62167219200

/-- The last second of the year 9999. -/
def lastSecond : Int := 253402300799

/-- A second in universal time, and microseconds after it. -/
def ofSeconds? (seconds : Int) (micros : Nat) : Option WrittenMoment :=
  let total := seconds + (micros / 1000000 : Nat)
  if firstSecond ≤ total ∧ total ≤ lastSecond then
    let inDay := (Int.fmod total 86400).toNat
    let time? :=
      TimeOfDay.ofParts? (inDay / 3600) (inDay / 60 % 60) (inDay % 60) (micros % 1000000)
    time?.map fun time => ⟨WrittenDay.ofEpochDay (Int.fdiv total 86400), time, some .universal⟩
  else none

/-- A millisecond in universal time, and microseconds after it. -/
def ofMillis? (millis : Int) (micros : Nat) : Option WrittenMoment :=
  ofSeconds? (Int.fdiv millis 1000) ((Int.fmod millis 1000).toNat * 1000 + micros)

/-- The moment that a whole number stands for. -/
def ofInt? (n : Int) : Option WrittenMoment :=
  if n.natAbs ≤ largestSeconds then ofSeconds? n 0 else ofMillis? n 0

/-- The moment that a floating point number stands for. -/
def ofFloat? (x : Float) : Option WrittenMoment := do
  let whole ← (Binary64.ofFloat x).floor?
  let fraction := x - Float.ofInt whole
  let micros := fun (unit : Float) => (Binary64.ofFloat (fraction * unit)).round?.map Int.toNat
  if x.abs ≤ Float.ofNat largestSeconds then (micros 1000000.0).bind (ofSeconds? whole)
  else (micros 1000.0).bind (ofMillis? whole)

/-- The moment of a text that is a number throughout. Only a number with a decimal point may have a
power of ten. -/
def ofText? (s : String) : Option WrittenMoment :=
  let (negative, unsigned) := Numeral.splitSign s.toList
  match Numeral.splitDigits unsigned with
  | (_, '.' :: _) => (Numeral.float? s.toList).bind ofFloat?
  | (whole, []) =>
      if whole.isEmpty then none else ofInt? (Binary64.signed negative (Numeral.value whole))
  | _ => none

end MusicianGraph.Timestamp
