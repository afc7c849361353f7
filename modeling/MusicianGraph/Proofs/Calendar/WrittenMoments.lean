import MusicianGraph.Schema.Scalar
import Mathlib.Algebra.Group.Nat.Defs
import Mathlib.Tactic.SplitIfs

/-! # Written moments are read again

What is written of a moment is read as the same moment, up to the seconds of its offset, for which
there is no place in the written form. A part is read off in front of whatever follows it, as long
as that does not go on where the part ends. Moments that are read from texts or numbers have no such
seconds, so only a moment that is passed on as one can lose them. -/

namespace MusicianGraph

namespace Offset

/-- The offset without its seconds. -/
def inMinutes (o : Offset) : Offset where
  seconds :=
    let size : Int := (o.seconds.natAbs / 60 : Nat)
    (if o.seconds < 0 then -size else size) * 60
  seconds_valid := by
    have valid := o.seconds_valid
    dsimp only
    split_ifs <;> omega

/-- There are no seconds in the offset. -/
def HasWholeMinutes (o : Offset) : Prop := o.seconds % 60 = 0

theorem inMinutes_eq_self_iff (o : Offset) : o.inMinutes = o ↔ o.HasWholeMinutes := by
  obtain ⟨seconds, valid⟩ := o
  simp only [inMinutes, HasWholeMinutes, mk.injEq]
  split_ifs <;> omega

end Offset

namespace DateTime

/-- The moment without the seconds of its offset. -/
def inMinutes (t : DateTime) : DateTime := { t with offset := t.offset.map Offset.inMinutes }

/-- There are no seconds in the offset, if it is known. -/
def HasWholeMinutes (t : DateTime) : Prop := ∀ o, t.offset = some o → o.HasWholeMinutes

theorem inMinutes_eq_self_iff (t : DateTime) : t.inMinutes = t ↔ t.HasWholeMinutes := by
  obtain ⟨date, time, offset⟩ := t
  cases offset with
  | none =>
    refine iff_of_true rfl ?_
    rintro _ ⟨⟩
  | some o =>
    have same : inMinutes ⟨date, time, some o⟩ = ⟨date, time, some o⟩ ↔ o.inMinutes = o := by
      simp only [inMinutes, Option.map_some, mk.injEq, Option.some.injEq, true_and]
    rw [same, o.inMinutes_eq_self_iff]
    constructor
    · rintro whole _ ⟨⟩
      exact whole
    · intro whole
      exact whole o rfl

end DateTime

namespace IsoText

section Digits

theorem length_fixed {width n : Nat} (positive : 0 < width) (fits : n < 10 ^ width) :
    (fixed width n).length = width := by
  have length : (Nat.toDigits 10 n).length ≤ width :=
    (Nat.length_toDigits_le_iff (by decide) positive).mpr fits
  rw [fixed, List.length_append, List.length_replicate]
  omega

theorem isDigit_of_mem_fixed {width n : Nat} {c : Char} (among : c ∈ fixed width n) :
    c.isDigit = true := by
  rw [fixed, List.mem_append] at among
  rcases among with zero | digit
  · rw [List.eq_of_mem_replicate zero]
    rfl
  · exact Nat.isDigit_of_mem_toDigits (by omega) (by omega) digit

theorem value_fixed (width n : Nat) : Numeral.value (fixed width n) = n := by
  change Nat.ofDigitChars 10 (fixed width n) 0 = n
  rw [fixed, Nat.ofDigitChars_append, Nat.ofDigitChars_replicate_zero, Nat.mul_zero]
  exact Nat.ofDigitChars_ten_toDigits

/-- A number in a fixed count of digits is read as that number. -/
theorem digits?_fixed {width n : Nat} (positive : 0 < width) (fits : n < 10 ^ width)
    (rest : List Char) : digits? width (fixed width n ++ rest) = some (n, rest) := by
  have length := length_fixed positive fits
  have digits : (fixed width n).all Char.isDigit = true :=
    List.all_eq_true.mpr fun c => isDigit_of_mem_fixed
  rw [digits?, List.take_left' length, List.drop_left' length]
  simp only [length, digits, value_fixed, and_self, if_true]

end Digits

section Parts

theorem mark?_of_mem {marks : List Char} {c : Char} (listed : c ∈ marks) (rest : List Char) :
    mark? marks (c :: rest) = some rest := by
  rw [mark?, if_pos (List.contains_iff_mem.mpr listed)]

/-- Months and days have two digits. -/
theorem date_bounds (d : Date) : d.month ≤ 12 ∧ d.day ≤ 31 := by
  have valid := d.day_valid
  rw [isDayOfMonth, Bool.and_eq_true, Bool.and_eq_true, Bool.and_eq_true] at valid
  obtain ⟨⟨⟨-, months⟩, -⟩, days⟩ := valid
  have last := of_decide_eq_true days
  rw [daysInMonth] at last
  refine ⟨of_decide_eq_true months, ?_⟩
  split_ifs at last <;> omega

theorem day?_renderDate (d : Date) (rest : List Char) :
    day? (renderDate d ++ rest) = some (⟨d.year, d.month, d.day⟩, rest) := by
  have years := d.year_valid
  have bounds := date_bounds d
  have hyphen := mark?_of_mem (List.mem_singleton_self '-')
  simp (disch := omega) only [day?, renderDate, List.append_assoc, List.cons_append, digits?_fixed,
    hyphen, Option.bind_eq_bind, Option.bind_some]
  rw [if_pos d.day_valid]

/-- A time ends before anything that is neither a digit nor the mark of a fraction. -/
def EndsTime (rest : List Char) : Prop :=
  ∀ c ∈ rest.head?, c.isDigit = false ∧ c ∉ ['.', ',']

theorem mark?_of_not_mem {marks rest : List Char} (absent : ∀ c ∈ rest.head?, c ∉ marks) :
    mark? marks rest = none := by
  cases rest with
  | nil => rfl
  | cons c rest => rw [mark?, if_neg (mt List.contains_iff_mem.mp (absent c rfl))]

/-- A fraction is read as the microseconds that it is written for, and so is none. -/
theorem fraction?_rendered {micro : Nat} (bound : micro < 1000000) {rest : List Char}
    (ends : EndsTime rest) :
    fraction? ((if micro = 0 then [] else '.' :: fixed 6 micro) ++ rest) = some (micro, rest) := by
  split
  · next zero =>
    rw [List.nil_append, fraction?, mark?_of_not_mem fun c first => (ends c first).2, zero]
  · have length := @length_fixed 6 micro (by omega) bound
    have digits : ∀ c ∈ fixed 6 micro, c.isDigit = true := fun c => isDigit_of_mem_fixed
    have stops : rest.takeWhile Char.isDigit = [] ∧ rest.dropWhile Char.isDigit = rest := by
      cases rest with
      | nil => exact ⟨rfl, rfl⟩
      | cons c rest => simp [(ends c rfl).1]
    have nonempty : (fixed 6 micro).isEmpty = false := by
      rw [List.isEmpty_eq_false_iff, ← List.length_pos_iff, length]
      decide
    have whole : (fixed 6 micro).take 6 = fixed 6 micro := List.take_of_length_le (Nat.le_of_eq length)
    rw [List.cons_append, fraction?, mark?_of_mem List.mem_cons_self]
    dsimp only
    rw [List.takeWhile_append_of_pos digits, List.dropWhile_append_of_pos digits, stops.1, stops.2,
      List.append_nil, nonempty, whole, length, value_fixed]
    simp

theorem time?_renderTime (t : TimeOfDay) {rest : List Char} (ends : EndsTime rest) :
    time? (renderTime t ++ rest) = some (t, rest) := by
  obtain ⟨⟨hour, hours⟩, ⟨minute, minutes⟩, ⟨second, seconds⟩, ⟨micro, micros⟩⟩ := t
  have colon := mark?_of_mem (List.mem_singleton_self ':')
  have fraction := fraction?_rendered micros ends
  simp (disch := omega) only [time?, renderTime, List.append_assoc, List.cons_append, digits?_fixed,
    colon, fraction, Option.bind_eq_bind, Option.bind_some]
  rw [TimeOfDay.ofParts?, dif_pos ⟨hours, minutes, seconds, micros⟩]
  rfl

/-- Hours and minutes are read with the sign in front of them. -/
theorem offset?_hours {sign : Char} (signed : sign ∈ ['+', '-']) {hours minutes : Nat}
    (short : hours < 100) (bound : minutes < 60) :
    offset? (sign :: (fixed 2 hours ++ ':' :: fixed 2 minutes)) =
      (Offset.ofSeconds?
        ((if sign = '+' then (hours * 60 + minutes : Int) else -(hours * 60 + minutes)) * 60)).map
          some := by
  have other : ¬ (sign = 'Z' ∨ sign = 'z') := by
    rintro (rfl | rfl) <;> revert signed <;> decide
  have listed : sign ∈ ['+', '-', '\u2212'] := List.mem_append_left ['\u2212'] signed
  have last : digits? 2 (fixed 2 minutes) = some (minutes, []) := by
    have read := @digits?_fixed 2 minutes (by omega) (by omega) []
    rwa [List.append_nil] at read
  rw [offset?, if_neg other]
  simp (disch := omega) only [mark?_of_mem listed, digits?_fixed, Option.bind_eq_bind,
    Option.bind_some, mark?_of_mem (List.mem_singleton_self ':'), Option.getD_some, last]
  rw [if_pos ⟨bound, rfl⟩]

/-- An offset is read without its seconds. -/
theorem offset?_renderOffset (o : Offset) : offset? (renderOffset o) = some (some o.inMinutes) := by
  obtain ⟨seconds, valid⟩ := o
  rw [renderOffset]
  split
  · next zero =>
    dsimp only at zero
    subst zero
    have whole : Offset.HasWholeMinutes ⟨0, valid⟩ := rfl
    rw [(Offset.inMinutes_eq_self_iff _).mpr whole]
    rfl
  · rw [renderHours]
    dsimp only
    have parts : ((seconds.natAbs / 60 / 60 : Nat) * 60 + (seconds.natAbs / 60 % 60 : Nat) : Int) =
        (seconds.natAbs / 60 : Nat) := by omega
    have sign : (if seconds < 0 then '-' else '+') ∈ ['+', '-'] := by
      split <;> decide
    rw [offset?_hours sign (by omega) (by omega), parts]
    by_cases behind : seconds < 0
    · rw [if_pos behind, if_neg (by decide), Offset.ofSeconds?, dif_pos (by omega)]
      simp only [Offset.inMinutes, if_pos behind, Option.map_some]
    · rw [if_neg behind, if_pos rfl, Offset.ofSeconds?, dif_pos (by omega)]
      simp only [Offset.inMinutes, if_neg behind, Option.map_some]

end Parts

/-- What is written of an offset, if it is known. -/
def renderOffset? (offset : Option Offset) : List Char :=
  match offset with
  | none => []
  | some o => renderOffset o

/-- An offset ends a time. -/
theorem endsTime_renderOffset? (offset : Option Offset) : EndsTime (renderOffset? offset) := by
  cases offset with
  | none => rintro c ⟨⟩
  | some o =>
    intro c first
    rw [renderOffset?, renderOffset] at first
    split at first
    · cases first
      decide
    · rw [renderHours] at first
      split at first <;> cases first <;> decide

/-- What is written of a moment is read as the moment without the seconds of its offset. -/
theorem written?_render (t : DateTime) :
    written? (render t) = some ⟨⟨t.date.year, t.date.month, t.date.day⟩, t.time,
      t.offset.map Offset.inMinutes⟩ := by
  have text : (render t).toList =
      renderDate t.date ++ 'T' :: (renderTime t.time ++ renderOffset? t.offset) :=
    String.toList_ofList
  have letter : mark? ['T', 't', '_', ' ']
      ('T' :: (renderTime t.time ++ renderOffset? t.offset)) =
        some (renderTime t.time ++ renderOffset? t.offset) := mark?_of_mem List.mem_cons_self _
  have offset : offset? (renderOffset? t.offset) = some (t.offset.map Offset.inMinutes) := by
    cases t.offset with
    | none => rfl
    | some o => exact offset?_renderOffset o
  rw [written?, text, day?_renderDate]
  simp only [Option.bind_eq_bind, Option.bind_some, List.isEmpty_cons, letter,
    time?_renderTime t.time (endsTime_renderOffset? t.offset), offset]
  rfl

theorem moment?_written (t : DateTime) (offset : Option Offset) :
    WrittenMoment.moment? ⟨⟨t.date.year, t.date.month, t.date.day⟩, t.time, offset⟩ =
      some ⟨t.date, t.time, offset⟩ := by
  rw [WrittenMoment.moment?, WrittenDay.date?, Date.ofParts?, dif_pos t.date.year_valid,
    dif_pos t.date.day_valid]
  rfl

section Offsets

theorem hasWholeMinutes_of_ofSeconds? {minutes : Int} {o : Offset}
    (made : Offset.ofSeconds? (minutes * 60) = some o) : o.HasWholeMinutes := by
  rw [Offset.ofSeconds?] at made
  split at made
  · cases made
    exact Int.mul_emod_left minutes 60
  · cases made

/-- An offset that is read has no seconds. -/
theorem hasWholeMinutes_of_offset? {cs : List Char} {o : Offset}
    (read : offset? cs = some (some o)) : o.HasWholeMinutes := by
  cases cs with
  | nil => cases read
  | cons c cs =>
    rw [offset?] at read
    split at read
    · split at read
      · cases read
        rfl
      · cases read
    · simp only [Option.bind_eq_bind, Option.bind_eq_some_iff] at read
      obtain ⟨_, -, ⟨hours, rest⟩, -, ⟨minutes, rest'⟩, -, made⟩ := read
      dsimp only at made
      split at made
      · obtain ⟨o', made, same⟩ := Option.map_eq_some_iff.mp made
        cases same
        exact hasWholeMinutes_of_ofSeconds? made
      · cases made

theorem hasWholeMinutes_of_written? {s : String} {w : WrittenMoment}
    (read : written? s = some w) {o : Offset} (known : w.offset = some o) : o.HasWholeMinutes := by
  simp only [written?, Option.bind_eq_bind, Option.bind_eq_some_iff] at read
  obtain ⟨⟨day, rest⟩, -, read⟩ := read
  split at read
  · cases read
    cases known
  · simp only [Option.bind_eq_some_iff] at read
    obtain ⟨rest', -, ⟨time, last⟩, -, offset, read, made⟩ := read
    cases made
    cases known
    exact hasWholeMinutes_of_offset? read

end Offsets

end IsoText

namespace Timestamp

variable {w : WrittenMoment}

/-- Numbers count universal time. -/
theorem offset_of_ofSeconds? {seconds : Int} {micros : Nat}
    (counted : ofSeconds? seconds micros = some w) : w.offset = some .universal := by
  rw [ofSeconds?] at counted
  split at counted
  · obtain ⟨time, -, rfl⟩ := Option.map_eq_some_iff.mp counted
    rfl
  · cases counted

theorem offset_of_ofInt? {n : Int} (counted : ofInt? n = some w) :
    w.offset = some .universal := by
  rw [ofInt?] at counted
  split at counted <;> exact offset_of_ofSeconds? counted

theorem offset_of_ofFloat? {x : Float} (counted : ofFloat? x = some w) :
    w.offset = some .universal := by
  rw [ofFloat?, Option.bind_eq_bind, Option.bind_eq_some_iff] at counted
  obtain ⟨whole, -, counted⟩ := counted
  dsimp only at counted
  split at counted
  · obtain ⟨micros, -, counted⟩ := Option.bind_eq_some_iff.mp counted
    exact offset_of_ofSeconds? counted
  · obtain ⟨micros, -, counted⟩ := Option.bind_eq_some_iff.mp counted
    exact offset_of_ofSeconds? counted

theorem offset_of_ofText? {s : String} (counted : ofText? s = some w) :
    w.offset = some .universal := by
  rw [ofText?] at counted
  dsimp only at counted
  split at counted
  · obtain ⟨x, -, counted⟩ := Option.bind_eq_some_iff.mp counted
    exact offset_of_ofFloat? counted
  · split at counted
    · cases counted
    · exact offset_of_ofInt? counted
  · cases counted

end Timestamp

namespace Schema

/-- A moment has the offset that is written down. -/
theorem hasWholeMinutes_of_possible {input : Value} {w : WrittenMoment} {t : DateTime}
    (read : possibleMoment input w = .accepted t)
    (whole : ∀ o, w.offset = some o → o.HasWholeMinutes) : t.HasWholeMinutes := by
  rw [possibleMoment] at read
  split at read
  · next t' made =>
    cases read
    obtain ⟨date, -, rfl⟩ := Option.map_eq_some_iff.mp made
    exact whole
  · cases read

theorem universal_hasWholeMinutes {offset : Option Offset} (universal : offset = some .universal) :
    ∀ o, offset = some o → o.HasWholeMinutes := by
  rintro o rfl
  cases universal
  rfl

/-- Only a moment that is passed on as one can have an offset with seconds. -/
theorem moment_accepted {v : Value} {t : DateTime} (read : moment v = .accepted t) :
    t.HasWholeMinutes ∨ v = .moment t := by
  unfold moment at read
  split at read
  · cases read
    exact .inr rfl
  · left
    unfold momentOfText at read
    split at read
    · next w found =>
      refine hasWholeMinutes_of_possible read fun o known => ?_
      rcases Option.or_eq_some_iff.mp found with written | ⟨-, counted⟩
      · exact IsoText.hasWholeMinutes_of_written? written known
      · exact universal_hasWholeMinutes (Timestamp.offset_of_ofText? counted) o known
    · cases read
  · left
    split at read
    · cases read
    · split at read
      · next w counted =>
        exact hasWholeMinutes_of_possible read
          (universal_hasWholeMinutes (Timestamp.offset_of_ofInt? counted))
      · cases read
  · left
    split at read
    · next w counted =>
      exact hasWholeMinutes_of_possible read
        (universal_hasWholeMinutes (Timestamp.offset_of_ofFloat? counted))
    · cases read
  · cases read

/-- What is written of a moment is read without the seconds of its offset. -/
theorem moment_render (t : DateTime) :
    moment (.text (IsoText.render t)) = .accepted t.inMinutes := by
  rw [moment, momentOfText, IsoText.written?_render, Option.some_or]
  dsimp only
  rw [possibleMoment, IsoText.moment?_written]
  rfl

end Schema

end MusicianGraph
