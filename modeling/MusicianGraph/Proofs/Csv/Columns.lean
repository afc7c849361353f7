import MusicianGraph.Csv.Column
import Mathlib.Data.List.Basic

/-! # What becomes of the cells of a column

A cell alone does not decide what is read from it; the kind of its whole column does. Here is when a
column keeps the texts of its cells, and that it holds numbers or truth values otherwise. -/

namespace MusicianGraph

def Value.isTyped : Value → Bool
  | .bool _ | .int _ | .float _ => true
  | _ => false

namespace Csv

variable {cells : List String} {cell : String} {i : Nat}

section Cells

variable {read : String → Option Value}

/-- Cells can be read unless one of them has no value. -/
theorem valuesOr?_eq_none_iff :
    valuesOr? read cells = none ↔ ∃ cell ∈ cells, isMissing cell = false ∧ read cell = none := by
  induction cells with
  | nil => exact iff_of_false nofun fun ⟨_, absurd, _⟩ => List.not_mem_nil absurd
  | cons first rest ih =>
    rw [valuesOr?] at ih ⊢
    rw [List.mapM_cons, List.exists_mem_cons_iff, ← ih]
    cases isMissing first <;> cases read first <;>
      cases rest.mapM fun cell => if isMissing cell then some .null else read cell <;> simp

/-- What is read stands at the place of its cell. -/
theorem getElem?_valuesOr? {values : List Value} (success : valuesOr? read cells = some values)
    (found : cells[i]? = some cell) :
    values[i]? = if isMissing cell then some .null else read cell := by
  induction cells generalizing values i with
  | nil => cases found
  | cons first rest ih =>
    rw [valuesOr?, List.mapM_cons] at success
    simp only [Option.bind_eq_bind, Option.bind_eq_some_iff, Option.pure_def,
      Option.some.injEq] at success
    obtain ⟨v, here, others, success', rfl⟩ := success
    cases i with
    | zero =>
      cases found
      exact here.symm
    | succ i =>
      rw [List.getElem?_cons_succ]
      exact ih success' found

theorem length_valuesOr? {values : List Value} (success : valuesOr? read cells = some values) :
    values.length = cells.length := by
  induction cells generalizing values with
  | nil =>
    cases success
    rfl
  | cons first rest ih =>
    rw [valuesOr?, List.mapM_cons] at success
    simp only [Option.bind_eq_bind, Option.bind_eq_some_iff, Option.pure_def,
      Option.some.injEq] at success
    obtain ⟨v, -, others, success', rfl⟩ := success
    rw [List.length_cons, List.length_cons, ih success']

/-- If every cell can be read unless it is missing, then all of them are, and the value at the place
of a cell is null for a missing one and what is read from it otherwise. -/
theorem exists_value {P : Value → Prop}
    (readable : ∀ cell ∈ cells, isMissing cell = false → ∃ v, read cell = some v ∧ P v)
    (found : cells[i]? = some cell) :
    ∃ values v, valuesOr? read cells = some values ∧ values[i]? = some v ∧
      if isMissing cell then v = .null else P v := by
  cases success : valuesOr? read cells with
  | none =>
    obtain ⟨other, listed, given, unread⟩ := valuesOr?_eq_none_iff.mp success
    obtain ⟨v, value, -⟩ := readable other listed given
    rw [unread] at value
    cases value
  | some values =>
    have place := getElem?_valuesOr? success found
    cases missing : isMissing cell with
    | true =>
      rw [missing] at place
      exact ⟨values, .null, rfl, place, rfl⟩
    | false =>
      obtain ⟨v, value, good⟩ := readable cell (List.mem_of_getElem? found) missing
      rw [missing] at place
      exact ⟨values, v, rfl, place.trans value, good⟩

/-- Cells that are read as numbers or truth values hold such, or null where they are missing. -/
theorem exists_typed {values : List Value} (success : valuesOr? read cells = some values)
    (typed : ∀ cell v, read cell = some v → v.isTyped = true) (found : cells[i]? = some cell) :
    ∃ v, values[i]? = some v ∧ if isMissing cell then v = .null else v.isTyped = true := by
  have readable : ∀ cell ∈ cells, isMissing cell = false →
      ∃ v, read cell = some v ∧ v.isTyped = true := by
    intro cell listed given
    cases value : read cell with
    | none =>
      have failed := valuesOr?_eq_none_iff.mpr ⟨cell, listed, given, value⟩
      rw [success] at failed
      cases failed
    | some v => exact ⟨v, rfl, typed cell v value⟩
  obtain ⟨values', v, same, place, kind⟩ := exists_value readable found
  cases success.symm.trans same
  exact ⟨v, place, kind⟩

end Cells

section WholeNumbers

/-- A cell that is no whole number with a sign, and what that makes of its column. -/
def wholeFault? (cells : List String) (cell : String) : Option WholeColumn :=
  match wholeCell cell with
  | .missing => none
  | .other => some .mixed
  | .digits negative size rest =>
      if !isSigned negative size then some (if rest.isEmpty then unsignedColumn cells else .mixed)
      else if rest.all isNumberBlank then none
      else some .mixed

theorem wholeColumn_eq (cells : List String) :
    wholeColumn cells = (cells.findSome? (wholeFault? cells)).getD .numbers :=
  rfl

theorem wholeCell_of_missing (missing : isMissing cell = true) : wholeCell cell = .missing :=
  if_pos missing

theorem wholeCell_ne_missing (given : isMissing cell = false) : wholeCell cell ≠ .missing := by
  rw [wholeCell, given, if_neg Bool.false_ne_true]
  dsimp only
  split <;> nofun

theorem unsigned_of_numbers (numbers : unsignedColumn cells = .numbers) (listed : cell ∈ cells) :
    unsignedFault? cell = none ∧ isNegativeCell cell = false := by
  rw [unsignedColumn] at numbers
  split at numbers
  · next column fault =>
    -- No fault leaves the column one of whole numbers.
    exfalso
    obtain ⟨other, -, faulty⟩ := List.exists_of_findSome?_eq_some fault
    rw [numbers] at faulty
    unfold unsignedFault? at faulty
    split_ifs at faulty
    split at faulty
    · cases faulty
    · cases faulty
    · split_ifs at faulty <;> cases faulty
  · next passed =>
    refine ⟨List.findSome?_eq_none_iff.mp passed cell listed, ?_⟩
    have none : cells.any isNegativeCell = false := by
      rw [← Bool.not_eq_true]
      intro some
      simp only [some, Bool.true_or, Bool.and_true, if_true] at numbers
      split_ifs at numbers
    exact Bool.eq_false_iff.mpr fun negative =>
      Bool.false_ne_true (none.symm.trans (List.any_eq_true.mpr ⟨cell, listed, negative⟩))

/-- In a column of whole numbers every cell is one, or missing. -/
theorem digits_of_numbers (numbers : wholeColumn cells = .numbers) (listed : cell ∈ cells)
    (given : isMissing cell = false) :
    ∃ negative size rest, wholeCell cell = .digits negative size rest := by
  cases whole : wholeCell cell with
  | digits negative size rest => exact ⟨negative, size, rest, rfl⟩
  | missing => exact absurd whole (wholeCell_ne_missing given)
  | other =>
    exfalso
    rw [wholeColumn_eq] at numbers
    cases fault : cells.findSome? (wholeFault? cells) with
    | none =>
      have passed := List.findSome?_eq_none_iff.mp fault cell listed
      rw [wholeFault?, whole] at passed
      cases passed
    | some column =>
      rw [fault, Option.getD_some] at numbers
      obtain ⟨other, -, faulty⟩ := List.exists_of_findSome?_eq_some fault
      rw [numbers] at faulty
      -- The first fault is a number too large for a sign, so all cells have been tried without one.
      have unsigned : unsignedColumn cells = .numbers := by
        unfold wholeFault? at faulty
        split at faulty
        · cases faulty
        · cases faulty
        · split_ifs at faulty
          · exact Option.some.inj faulty
          · cases faulty
          · cases faulty
      obtain ⟨passed, positive⟩ := unsigned_of_numbers unsigned listed
      rw [unsignedFault?, positive, if_neg Bool.false_ne_true, whole] at passed
      cases passed

end WholeNumbers

/-- Do the cells of a column keep their texts? Where not all of them are whole numbers, some have to
be no numbers, and some no truth values. Whole numbers keep their texts only if they do not fit
together into 64 bits. -/
def ReadAsTexts (cells : List String) : Prop :=
  match wholeColumn cells with
  | .numbers => False
  | .mixed =>
      (∃ cell ∈ cells, isMissing cell = false ∧ numberCell? cell = none) ∧
        ∃ cell ∈ cells, isMissing cell = false ∧ truthCell? cell = none
  | .tooLarge => ∃ cell ∈ cells, isMissing cell = false ∧ bigCell? cell = none
  | .conflict => True

theorem readAsTexts_mixed_iff (mixed : wholeColumn cells = .mixed) :
    ReadAsTexts cells ↔ valuesOr? (fun cell => (numberCell? cell).map .float) cells = none ∧
      valuesOr? (fun cell => (truthCell? cell).map .bool) cells = none := by
  simp only [ReadAsTexts, mixed, valuesOr?_eq_none_iff, Option.map_eq_none_iff]

theorem readAsTexts_tooLarge_iff (tooLarge : wholeColumn cells = .tooLarge) :
    ReadAsTexts cells ↔ valuesOr? (fun cell => (bigCell? cell).map .int) cells = none := by
  simp only [ReadAsTexts, tooLarge, valuesOr?_eq_none_iff, Option.map_eq_none_iff]

/-- A column that keeps texts holds the text of each cell, or null for a missing one. -/
theorem columnValues_of_readAsTexts (texts : ReadAsTexts cells) (found : cells[i]? = some cell) :
    ∃ v, (columnValues cells)[i]? = some v ∧
      (v = .text cell ∨ isMissing cell = true ∧ v = .null) := by
  have raw : (rawValues cells)[i]? = some (.text cell) := by
    rw [rawValues, List.getElem?_map, found]
    rfl
  rw [columnValues]
  cases column : wholeColumn cells with
  | numbers =>
    rw [ReadAsTexts, column] at texts
    exact texts.elim
  | mixed =>
    obtain ⟨noNumbers, noTruths⟩ := (readAsTexts_mixed_iff column).mp texts
    dsimp only
    rw [otherValues, noNumbers]
    dsimp only
    rw [noTruths]
    dsimp only
    rw [textValues, List.getElem?_map, found]
    dsimp only [Option.map_some]
    cases isMissing cell with
    | true => exact ⟨.null, rfl, .inr ⟨rfl, rfl⟩⟩
    | false => exact ⟨.text cell, rfl, .inl rfl⟩
  | tooLarge =>
    dsimp only
    rw [(readAsTexts_tooLarge_iff column).mp texts]
    exact ⟨.text cell, raw, .inl rfl⟩
  | conflict => exact ⟨.text cell, raw, .inl rfl⟩

/-- Every other column holds numbers or truth values. -/
theorem columnValues_typed (typed : ¬ ReadAsTexts cells) (found : cells[i]? = some cell) :
    ∃ v, (columnValues cells)[i]? = some v ∧
      if isMissing cell then v = .null else v.isTyped = true := by
  rw [columnValues]
  cases column : wholeColumn cells with
  | numbers =>
    dsimp only
    have whole : ∀ read, read = wholeValue? ∨ read = inexactWholeValue? →
        ∃ v, ((valuesOr? read cells).getD (textValues cells))[i]? = some v ∧
          if isMissing cell then v = .null else v.isTyped = true := by
      intro read either
      have readable : ∀ cell ∈ cells, isMissing cell = false →
          ∃ v, read cell = some v ∧ v.isTyped = true := by
        intro cell listed given
        obtain ⟨negative, size, rest, digits⟩ := digits_of_numbers column listed given
        rcases either with rfl | rfl
        · exact ⟨_, by rw [wholeValue?, digits], rfl⟩
        · exact ⟨_, by rw [inexactWholeValue?, digits], rfl⟩
      obtain ⟨values, v, success, place, kind⟩ := exists_value readable found
      rw [success]
      exact ⟨v, place, kind⟩
    split
    · exact whole _ (.inr rfl)
    · exact whole _ (.inl rfl)
  | mixed =>
    rw [readAsTexts_mixed_iff column, not_and] at typed
    dsimp only
    rw [otherValues]
    cases numbers : valuesOr? (fun cell => (numberCell? cell).map .float) cells with
    | some values =>
      refine exists_typed numbers (fun cell v value => ?_) found
      obtain ⟨x, -, rfl⟩ := Option.map_eq_some_iff.mp value
      rfl
    | none =>
      dsimp only
      cases truths : valuesOr? (fun cell => (truthCell? cell).map .bool) cells with
      | some values =>
        refine exists_typed truths (fun cell v value => ?_) found
        obtain ⟨b, -, rfl⟩ := Option.map_eq_some_iff.mp value
        rfl
      | none => exact absurd truths (typed numbers)
  | tooLarge =>
    rw [readAsTexts_tooLarge_iff column] at typed
    dsimp only
    cases integers : valuesOr? (fun cell => (bigCell? cell).map .int) cells with
    | some values =>
      refine exists_typed integers (fun cell v value => ?_) found
      obtain ⟨n, -, rfl⟩ := Option.map_eq_some_iff.mp value
      rfl
    | none => exact absurd integers typed
  | conflict =>
    rw [ReadAsTexts, column] at typed
    exact absurd trivial typed

/-- Missing cells alone are null. -/
theorem columnValues_missing (none : ∀ cell ∈ cells, isMissing cell = true)
    (found : cells[i]? = some cell) : (columnValues cells)[i]? = some .null := by
  have fault : cells.findSome? (wholeFault? cells) = Option.none := by
    refine List.findSome?_eq_none_iff.mpr fun other listed => ?_
    rw [wholeFault?, wholeCell_of_missing (none other listed)]
  have read : ∀ read, ((valuesOr? read cells).getD (textValues cells))[i]? = some .null := by
    intro read
    have readable : ∀ other ∈ cells, isMissing other = false →
        ∃ v, read other = some v ∧ v = Value.null := by
      intro other listed given
      rw [none other listed] at given
      cases given
    obtain ⟨values, v, success, place, kind⟩ := exists_value readable found
    rw [ite_self] at kind
    rw [success, ← kind]
    exact place
  rw [columnValues, wholeColumn_eq, fault]
  exact read _

/-- Every cell has a value. -/
theorem length_columnValues (cells : List String) :
    (columnValues cells).length = cells.length := by
  have texts : (textValues cells).length = cells.length := List.length_map _
  have raw : (rawValues cells).length = cells.length := List.length_map _
  have read : ∀ (read : String → Option Value) (otherwise : List Value),
      otherwise.length = cells.length →
      ((valuesOr? read cells).getD otherwise).length = cells.length := by
    intro read otherwise same
    cases success : valuesOr? read cells with
    | none => exact same
    | some values => exact length_valuesOr? success
  rw [columnValues]
  split
  · rw [otherValues]
    split
    · exact length_valuesOr? ‹_›
    · split
      · exact length_valuesOr? ‹_›
      · exact texts
  · exact read _ _ raw
  · exact raw
  · exact read _ _ texts

end Csv

end MusicianGraph
