import MusicianGraph.Proofs.Csv.Columns
import MusicianGraph.Proofs.Number.OrderKey
import MusicianGraph.Proofs.Schema.Digits
import MusicianGraph.Value.Count

/-! # Columns of degrees

A column in which every cell is missing or a number in a range is read as such, whether all of its
cells are whole numbers or not. -/

namespace MusicianGraph

/-- A range of finite numbers in which zero lies, with either sign. -/
structure IsRange (valid : Float → Bool) : Prop where
  finite : ∀ {x}, valid x = true → isFiniteNumber x = true
  zero : ∀ negative, valid (Decimal.toFloat negative ⟨0, 0⟩) = true

theorem isRange_latitude : IsRange isLatitude where
  finite := isFiniteNumber_of_isLatitude
  zero := by decide +kernel

theorem isRange_longitude : IsRange isLongitude where
  finite := isFiniteNumber_of_isLongitude
  zero := by decide +kernel

namespace Csv

variable {cells : List String} {cell : String} {i : Nat} {valid : Float → Bool}

section WholeCells

variable {negative : Bool} {size : Nat} {rest : List Char}

/-- A sign is split from what begins with it, and nothing from digits. -/
theorem splitSign_parts {cs numeral : List Char} (split : Numeral.splitSign cs = (negative, numeral)) :
    ∃ sign, cs = sign ++ numeral ∧ ∀ digits, digits.all Char.isDigit = true →
      Numeral.splitSign (sign ++ digits) = (negative, digits) := by
  unfold Numeral.splitSign at split
  split at split <;> cases split
  · exact ⟨['-'], rfl, fun _ _ => rfl⟩
  · exact ⟨['+'], rfl, fun _ _ => rfl⟩
  · refine ⟨[], rfl, fun digits numeric => ?_⟩
    rw [List.nil_append]
    unfold Numeral.splitSign
    split
    · cases numeric
    · cases numeric
    · rfl

/-- What a whole number consists of: blanks, perhaps a sign, digits, and what follows them. -/
theorem wholeCell_parts (whole : wholeCell cell = .digits negative size rest) :
    ∃ sign digits, cell.toList.dropWhile isNumberBlank = sign ++ (digits ++ rest) ∧ digits ≠ [] ∧
      digits.all Char.isDigit = true ∧
      Numeral.splitSign (sign ++ digits) = (negative, digits) ∧ Numeral.value digits = size := by
  rw [wholeCell] at whole
  split at whole
  · cases whole
  · cases split : Numeral.splitSign (cell.toList.dropWhile isNumberBlank) with
    | mk negative' numeral =>
      rw [split] at whole
      dsimp only at whole
      obtain ⟨sign, parts, signed⟩ := splitSign_parts split
      have digits : (numeral.takeWhile Char.isDigit).all Char.isDigit = true :=
        List.all_takeWhile
      rw [Numeral.splitDigits] at whole
      split at whole
      · cases whole
      · next taken left nonempty same =>
        cases whole
        cases same
        refine ⟨sign, numeral.takeWhile Char.isDigit, ?_, nonempty, digits, signed _ digits, rfl⟩
        rw [List.takeWhile_append_dropWhile]
        exact parts

theorem isNumberBlank_of_isDigit {c : Char} (numeric : c.isDigit = true) :
    isNumberBlank c = false := by
  have bounds : '0'.val.toNat = 48 ∧ '\r'.val.toNat = 13 := ⟨rfl, rfl⟩
  simp only [Char.isDigit, Bool.and_eq_true, decide_eq_true_eq, ge_iff_le,
    UInt32.le_iff_toNat_le] at numeric
  simp only [isNumberBlank, Char.le_def, UInt32.le_iff_toNat_le, Bool.or_eq_false_iff,
    Bool.and_eq_false_iff, decide_eq_false_iff_not, beq_eq_false_iff_ne]
  refine ⟨?_, .inr (by omega)⟩
  rintro rfl
  revert numeric
  decide

/-- Blanks behind a digit are trimmed. -/
theorem trimBoth_of_blank {cs front digits : List Char} (nonempty : digits ≠ [])
    (numeric : digits.all Char.isDigit = true) (blank : rest.all isNumberBlank = true)
    (parts : cs.dropWhile isNumberBlank = front ++ (digits ++ rest)) :
    trimBoth isNumberBlank cs = front ++ digits := by
  obtain ⟨init, last, rfl⟩ := (List.eq_nil_or_concat digits).resolve_left nonempty
  rw [List.concat_eq_append] at parts numeric ⊢
  have dense : isNumberBlank last = false :=
    isNumberBlank_of_isDigit (List.all_eq_true.mp numeric last (by simp))
  -- The blanks are dropped from the reverse, up to the last digit.
  have behind : (front ++ (init ++ [last] ++ rest)).reverse =
      rest.reverse ++ (last :: (front ++ init).reverse) := by
    simp
  rw [trimBoth, parts, behind, List.dropWhile_append_of_pos, List.dropWhile_cons_of_neg]
  · simp
  · rw [dense]
    exact Bool.false_ne_true
  · intro c among
    exact List.all_eq_true.mp blank c (List.mem_reverse.mp among)

/-- A whole number is also read as a decimal number. -/
theorem numberCell?_of_whole (whole : wholeCell cell = .digits negative size rest)
    (blank : rest.all isNumberBlank = true) :
    numberCell? cell = some (Decimal.toFloat negative ⟨size, 0⟩) := by
  obtain ⟨sign, digits, parts, nonempty, numeric, split, value⟩ := wholeCell_parts whole
  have decimal : decimal? (sign ++ digits) = some (Decimal.toFloat negative ⟨size, 0⟩) := by
    rw [decimal?, split]
    dsimp only
    rw [Numeral.magnitude?, Numeral.splitDigits_of_isDigit (List.all_eq_true.mp numeric)]
    simp [nonempty, value, Numeral.power?]
  rw [numberCell?, trimBoth_of_blank nonempty numeric blank parts, decimal]

/-- Small whole numbers stand for the same floating point number in both ways, but zero has its
sign only as a decimal. -/
theorem toFloat_whole (positive : 0 < size) (short : (Nat.toDigits 10 size).length ≤ 400) :
    Decimal.toFloat negative ⟨size, 0⟩ = Float.ofInt (Binary64.signed negative size) := by
  obtain ⟨k, rfl⟩ := Nat.exists_eq_add_one_of_ne_zero (Nat.ne_of_gt positive)
  have nonzero : ¬ (k + 1 = 0 ∨ (0 : Int) + (Nat.toDigits 10 (k + 1)).length <
      -Decimal.largestMagnitude) := by
    rw [Decimal.largestMagnitude]
    omega
  have bounded : ¬ Decimal.largestMagnitude < (0 : Int) + (Nat.toDigits 10 (k + 1)).length := by
    rw [Decimal.largestMagnitude]
    omega
  rw [Decimal.toFloat]
  dsimp only
  rw [if_neg nonzero, if_neg bounded]
  cases negative <;> rfl

theorem length_toDigits_of_isSigned (signed : isSigned negative size = true) :
    (Nat.toDigits 10 size).length ≤ 400 := by
  have small : size ≤ 2 ^ 63 := by
    change (if negative = true then decide (size ≤ 2 ^ 63) else decide (size < 2 ^ 63)) = true
      at signed
    split at signed <;> rw [decide_eq_true_eq] at signed <;> omega
  have digits : (Nat.toDigits 10 size).length ≤ 20 :=
    (Nat.length_toDigits_le_iff (by omega) (by omega)).mpr (by omega)
  omega

end WholeCells

/-- Does a cell say a number in a range? A whole number is of 64 bits; the range is asked of the
floating point number that it is nearest to. -/
def IsNumberIn (valid : Float → Bool) (cell : String) : Prop :=
  match wholeCell cell with
  | .digits negative size rest =>
      if rest.all isNumberBlank then
        isSigned negative size = true ∧ valid (Float.ofInt (Binary64.signed negative size)) = true
      else ∃ x, numberCell? cell = some x ∧ valid x = true
  | _ => ∃ x, numberCell? cell = some x ∧ valid x = true

namespace IsNumberIn

/-- Whole or not, it can be read as a decimal number. -/
theorem exists_number (range : IsRange valid) (number : IsNumberIn valid cell) :
    ∃ x, numberCell? cell = some x ∧ valid x = true := by
  unfold IsNumberIn at number
  split at number
  · next negative size rest whole =>
    split at number
    · next blank =>
      refine ⟨_, numberCell?_of_whole whole blank, ?_⟩
      rcases Nat.eq_zero_or_pos size with rfl | positive
      · exact range.zero negative
      · rw [toFloat_whole positive (length_toDigits_of_isSigned number.1)]
        exact number.2
    · exact number
  · exact number

/-- If it is not whole, its column is no column of whole numbers. -/
theorem wholeFault? (given : isMissing cell = false) (number : IsNumberIn valid cell)
    (cells : List String) :
    Csv.wholeFault? cells cell = some .mixed ∨ Csv.wholeFault? cells cell = none ∧
      ∃ negative size rest, wholeCell cell = .digits negative size rest ∧
        valid (Float.ofInt (Binary64.signed negative size)) = true := by
  unfold IsNumberIn at number
  rw [Csv.wholeFault?]
  cases whole : wholeCell cell with
  | missing => exact absurd whole (wholeCell_ne_missing given)
  | other => exact .inl rfl
  | digits negative size rest =>
    rw [whole] at number
    dsimp only at number ⊢
    by_cases blank : rest.all isNumberBlank = true
    · rw [if_pos blank] at number
      rw [number.1, if_pos blank]
      exact .inr ⟨rfl, negative, size, rest, rfl, number.2⟩
    · have more : rest.isEmpty = false := by
        cases rest with
        | nil => exact absurd rfl blank
        | cons c rest => rfl
      rw [if_neg blank, more]
      split <;> exact .inl rfl

end IsNumberIn

/-- Such a column is read as numbers in the range. -/
theorem columnValues_numbers (range : IsRange valid)
    (all : ∀ cell ∈ cells, isMissing cell = true ∨ IsNumberIn valid cell)
    (found : cells[i]? = some cell) :
    ∃ v, (columnValues cells)[i]? = some v ∧
      if isMissing cell then v = .null else ∃ x, v.toFloat = .ok x ∧ valid x = true := by
  have present : ∀ cell ∈ cells, isMissing cell = false → IsNumberIn valid cell :=
    fun cell listed given => (all cell listed).resolve_left (by rw [given]; exact Bool.false_ne_true)
  have read : ∀ read : String → Option Value,
      (∀ cell ∈ cells, isMissing cell = false →
        ∃ v, read cell = some v ∧ ∃ x, v.toFloat = .ok x ∧ valid x = true) →
      ∃ values v, valuesOr? read cells = some values ∧ values[i]? = some v ∧
        if isMissing cell then v = .null else ∃ x, v.toFloat = .ok x ∧ valid x = true :=
    fun read readable => exists_value readable found
  rw [columnValues, wholeColumn_eq]
  cases fault : cells.findSome? (wholeFault? cells) with
  -- Without a fault all cells that are not missing are whole numbers.
  | none =>
    rw [Option.getD_none]
    dsimp only
    have whole : ∀ cell ∈ cells, isMissing cell = false → ∃ negative size rest,
        wholeCell cell = .digits negative size rest ∧
          valid (Float.ofInt (Binary64.signed negative size)) = true := by
      intro cell listed given
      have passed := List.findSome?_eq_none_iff.mp fault cell listed
      rcases (present cell listed given).wholeFault? given cells with mixed | ⟨-, digits⟩
      · rw [passed] at mixed
        cases mixed
      · exact digits
    split
    · obtain ⟨values, v, success, place, kind⟩ := read inexactWholeValue? fun cell listed given => by
        obtain ⟨negative, size, rest, digits, inside⟩ := whole cell listed given
        exact ⟨_, by rw [inexactWholeValue?, digits], _, rfl, inside⟩
      rw [success]
      exact ⟨v, place, kind⟩
    · obtain ⟨values, v, success, place, kind⟩ := read wholeValue? fun cell listed given => by
        obtain ⟨negative, size, rest, digits, inside⟩ := whole cell listed given
        have exactly : Value.toFloat (.int (Binary64.signed negative size)) =
            .ok (Float.ofInt (Binary64.signed negative size)) := if_pos (range.finite inside)
        exact ⟨_, by rw [wholeValue?, digits], _, exactly, inside⟩
      rw [success]
      exact ⟨v, place, kind⟩
  -- Otherwise they are read as decimal numbers, the whole ones among them too.
  | some column =>
    obtain ⟨faulty, listed, same⟩ := List.exists_of_findSome?_eq_some fault
    have mixed : column = .mixed := by
      cases given : isMissing faulty with
      | true =>
        rw [wholeFault?, wholeCell_of_missing given] at same
        cases same
      | false =>
        rcases (present faulty listed given).wholeFault? given cells with mixed | ⟨passed, -⟩
        · exact Option.some.inj (same.symm.trans mixed)
        · rw [passed] at same
          cases same
    rw [Option.getD_some, mixed]
    dsimp only
    obtain ⟨values, v, success, place, kind⟩ :=
      read (fun cell => (numberCell? cell).map .float) fun cell listed given => by
        obtain ⟨x, number, inside⟩ := (present cell listed given).exists_number range
        exact ⟨.float x, by rw [number]; rfl, x, rfl, inside⟩
    rw [otherValues, success]
    exact ⟨v, place, kind⟩

end Csv

end MusicianGraph
