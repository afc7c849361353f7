import MusicianGraph.Calendar.DateTime
import MusicianGraph.Number.Numeral

/-! # The written form of moments

Moments are written as `2024-05-01T12:00:00.250000+02:00`: six digits of a second unless they are
all zero, `Z` for universal time, nothing for an unknown offset. The reader admits more: a day
alone, other marks between day and time, times without seconds, shorter and longer fractions, and
offsets without a colon. -/

namespace MusicianGraph.IsoText

def fixed (width n : Nat) : List Char :=
  let digits := Nat.toDigits 10 n
  List.replicate (width - digits.length) '0' ++ digits

/-- A day as year, month and day. -/
def renderDate (d : Date) : List Char :=
  fixed 4 d.year ++ '-' :: (fixed 2 d.month ++ '-' :: fixed 2 d.day)

/-- A time of day, with a fraction of the second where there is one. -/
def renderTime (t : TimeOfDay) : List Char :=
  fixed 2 t.hour ++ ':' :: (fixed 2 t.minute ++ ':' :: fixed 2 t.second) ++
    (if t.micro.val = 0 then [] else '.' :: fixed 6 t.micro)

/-- An offset as hours and minutes; its seconds are left out. -/
def renderHours (o : Offset) : List Char :=
  let minutes := o.seconds.natAbs / 60
  (if o.seconds < 0 then '-' else '+') ::
    (fixed 2 (minutes / 60) ++ ':' :: fixed 2 (minutes % 60))

/-- An offset as hours and minutes, or `Z`. -/
def renderOffset (o : Offset) : List Char := if o.seconds = 0 then ['Z'] else renderHours o

/-- A moment in its written form. -/
def render (t : DateTime) : String :=
  let offset :=
    match t.offset with
    | none => []
    | some o => renderOffset o
  String.ofList (renderDate t.date ++ 'T' :: (renderTime t.time ++ offset))

/-- An offset down to its seconds, which are left out if there are none. -/
def renderFullOffset (o : Offset) : List Char :=
  let seconds := o.seconds.natAbs % 60
  renderHours o ++ (if seconds = 0 then [] else ':' :: fixed 2 seconds)

/-- A moment as it is shown to people, with a blank between day and time. -/
def renderSpaced (t : DateTime) : String :=
  let offset := t.offset.elim [] renderFullOffset
  String.ofList (renderDate t.date ++ ' ' :: (renderTime t.time ++ offset))

/-- A stored moment, always with nine digits of a second. -/
def renderStored (t : DateTime) (nanos : Nat) : String :=
  let fraction := fixed 9 (t.time.micro.val * 1000 + nanos)
  let time := renderTime { t.time with micro := ⟨0, by decide⟩ } ++ '.' :: fraction
  String.ofList (renderDate t.date ++ 'T' :: (time ++ t.offset.elim [] renderHours))

/-- A fixed count of digits in front. -/
def digits? (width : Nat) (cs : List Char) : Option (Nat × List Char) :=
  let front := cs.take width
  if front.length = width ∧ front.all Char.isDigit then
    some (Numeral.value front, cs.drop width)
  else none

def mark? (marks : List Char) : List Char → Option (List Char)
  | [] => none
  | c :: rest => if marks.contains c then some rest else none

def day? (cs : List Char) : Option (WrittenDay × List Char) := do
  let (year, cs) ← digits? 4 cs
  let cs ← mark? ['-'] cs
  let (month, cs) ← digits? 2 cs
  let cs ← mark? ['-'] cs
  let (day, cs) ← digits? 2 cs
  if isDayOfMonth year month day then some (⟨year, month, day⟩, cs) else none

/-- Read the fraction of a second in microseconds; digits after the sixth are dropped. -/
def fraction? (cs : List Char) : Option (Nat × List Char) :=
  match mark? ['.', ','] cs with
  | none => some (0, cs)
  | some cs =>
      let digits := cs.takeWhile Char.isDigit
      if digits.isEmpty then none
      else
        let kept := digits.take 6
        some (Numeral.value kept * Nat.pow 10 (6 - kept.length), cs.dropWhile Char.isDigit)

/-- Read a time of day. Without seconds there is no fraction. -/
def time? (cs : List Char) : Option (TimeOfDay × List Char) := do
  let (hour, cs) ← digits? 2 cs
  let cs ← mark? [':'] cs
  let (minute, cs) ← digits? 2 cs
  match mark? [':'] cs with
  | none => do
      let time ← TimeOfDay.ofParts? hour minute 0 0
      some (time, cs)
  | some cs => do
      let (second, cs) ← digits? 2 cs
      let (micro, cs) ← fraction? cs
      let time ← TimeOfDay.ofParts? hour minute second micro
      some (time, cs)

/-- Read an offset: nothing, `Z`, or a sign (a minus may be the long one) with hours and minutes. -/
def offset? : List Char → Option (Option Offset)
  | [] => some none
  | c :: cs =>
      if c = 'Z' ∨ c = 'z' then (if cs.isEmpty then some (some .universal) else none)
      else do
        let _ ← mark? ['+', '-', '\u2212'] [c]
        let (hours, cs) ← digits? 2 cs
        let (minutes, cs) ← digits? 2 ((mark? [':'] cs).getD cs)
        if minutes < 60 ∧ cs.isEmpty then
          let size : Int := hours * 60 + minutes
          (Offset.ofSeconds? ((if c = '+' then size else -size) * 60)).map some
        else none

/-- Read what is written down of a moment. A day alone is its beginning. -/
def written? (s : String) : Option WrittenMoment := do
  let (day, cs) ← day? s.toList
  if cs.isEmpty then some ⟨day, .midnight, none⟩
  else do
    let cs ← mark? ['T', 't', '_', ' '] cs
    let (time, cs) ← time? cs
    let offset ← offset? cs
    some ⟨day, time, offset⟩

end MusicianGraph.IsoText
