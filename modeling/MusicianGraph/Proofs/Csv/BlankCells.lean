import MusicianGraph.Proofs.Csv.Degrees
import MusicianGraph.Proofs.Text.Trimmed
import MusicianGraph.Value.Render

/-! # Cells of nothing but blanks

What is read as a number or as a truth value has a character that is no blank, and so has its text
when it is shown. A column with a cell of nothing but blanks therefore keeps the texts of its
cells. -/

namespace MusicianGraph

def Filled (cs : List Char) : Prop := ∃ c ∈ cs, isBlank c = false

theorem Filled.of_mem {c : Char} {cs : List Char} (listed : c ∈ cs) (filled : isBlank c = false) :
    Filled cs := ⟨c, listed, filled⟩

theorem Filled.mono {cs ds : List Char} (filled : Filled cs) (inside : cs ⊆ ds) : Filled ds := by
  obtain ⟨c, listed, dense⟩ := filled
  exact ⟨c, inside listed, dense⟩

/-- A text strips to something if it has such a character. -/
theorem strip_isEmpty_eq_false_iff (s : String) :
    (strip s).isEmpty = false ↔ Filled s.toList := by
  rw [← Bool.not_eq_true, String.isEmpty_iff]
  exact strip_ne_empty_iff s

section Characters

variable {c : Char}

theorem not_isBlank_of_isDigit (numeric : c.isDigit = true) : isBlank c = false := by
  simp only [Char.isDigit, Bool.and_eq_true, decide_eq_true_eq, ge_iff_le,
    UInt32.le_iff_toNat_le] at numeric
  have bounds : 48 ≤ c.toNat ∧ c.toNat ≤ 57 := numeric
  simp [isBlank, inSpans, whiteSpace, separators]
  omega

/-- Blanks have no case. -/
theorem toLower_of_isBlank (blank : isBlank c = true) : c.toLower = c := by
  rw [Char.toLower]
  split
  next upper =>
    have bounds : 65 ≤ c.toNat ∧ c.toNat ≤ 90 := by
      simpa [UInt32.le_iff_toNat_le] using upper
    simp [isBlank, inSpans, whiteSpace, separators] at blank
    omega
  next => rfl

end Characters

section Shown

theorem filled_decimal (layout : Layout) (d : Decimal) : Filled (layout.decimal d) := by
  rw [Layout.decimal]
  split
  · apply Filled.of_mem (c := '.') _ (by decide)
    rw [Layout.positional]
    split <;> simp
  · apply Filled.of_mem (c := 'e') _ (by decide)
    unfold Layout.exponential
    simp

theorem filled_numberText (x : Float) : Filled (numberText x).toList := by
  rw [numberText, Layout.render]
  cases Binary64.ofFloat x with
  | notANumber => exact .of_mem (c := 'n') (by decide) (by decide)
  | infinite negative => cases negative <;> exact .of_mem (c := 'i') (by decide) (by decide)
  | finite negative mantissa exponent =>
    have digits : Filled (if mantissa = 0 then ['0', '.', '0']
        else plainNumber.decimal (Decimal.shortest mantissa exponent)) := by
      split
      · exact .of_mem (c := '.') (by decide) (by decide)
      · exact filled_decimal _ _
    dsimp only
    rw [String.toList_ofList]
    split
    · exact digits.mono (List.subset_cons_self _ _)
    · exact digits

theorem filled_toString (n : Int) : Filled (toString n).toList := by
  rw [Int.toString_eq_repr, Int.repr_eq_if]
  split
  · rw [Nat.repr_eq_ofList_toDigits, String.toList_ofList]
    obtain ⟨c, rest, written⟩ :=
      List.exists_cons_of_ne_nil (Nat.toDigits_ne_nil (b := 10) (n := n.toNat))
    have listed : c ∈ Nat.toDigits 10 n.toNat := written ▸ List.mem_cons_self
    exact .of_mem listed
      (not_isBlank_of_isDigit (Nat.isDigit_of_mem_toDigits (by omega) (by omega) listed))
  · apply Filled.of_mem (c := '-') _ (by decide)
    rw [String.toList_append]
    exact List.mem_append_left _ (by decide)

/-- Numbers and truth values are shown by more than blanks. -/
theorem filled_shownText {v : Value} (typed : v.isTyped = true) : Filled v.shownText.toList := by
  cases v with
  | bool b => cases b <;> exact .of_mem (c := 'e') (by decide) (by decide)
  | int n => exact filled_toString n
  | float x => exact filled_numberText x
  | _ => cases typed

end Shown

namespace Csv

section Numbers

variable {cell : String} {cs : List Char}

theorem subset_trimBoth (member : Char → Bool) (cs : List Char) : trimBoth member cs ⊆ cs := by
  have front : trimBoth member cs <+: cs.dropWhile member := List.rdropWhile_prefix member _
  exact List.Subset.trans front.subset (List.dropWhile_suffix member).subset

theorem splitSign_subset (cs : List Char) : (Numeral.splitSign cs).2 ⊆ cs := by
  cases split : Numeral.splitSign cs with
  | mk negative numeral =>
    obtain ⟨sign, rfl, -⟩ := splitSign_parts split
    exact List.subset_append_right _ _

theorem filled_of_digits {digits : List Char} (numeric : ∀ c ∈ digits, c.isDigit = true)
    (nonempty : digits ≠ []) : Filled digits := by
  obtain ⟨c, rest, rfl⟩ := List.exists_cons_of_ne_nil nonempty
  exact .of_mem List.mem_cons_self (not_isBlank_of_isDigit (numeric c List.mem_cons_self))

theorem filled_of_wholeCell {negative : Bool} {size : Nat} {rest : List Char}
    (whole : wholeCell cell = .digits negative size rest) : Filled cell.toList := by
  obtain ⟨sign, digits, parts, nonempty, numeric, -⟩ := wholeCell_parts whole
  apply (filled_of_digits (List.all_eq_true.mp numeric) nonempty).mono
  apply List.Subset.trans _ (List.dropWhile_suffix isNumberBlank).subset
  rw [parts]
  intro c among
  simp [among]

theorem filled_of_ungrouped {digits : List Char} (read : Numeral.ungrouped? cs = some digits) :
    Filled cs := by
  unfold Numeral.ungrouped? at read
  split at read
  · cases read
  all_goals
    split at read
    next numeric => exact .of_mem List.mem_cons_self (not_isBlank_of_isDigit numeric)
    next => cases read

theorem filled_of_bigCell {n : Int} (read : bigCell? cell = some n) : Filled cell.toList := by
  rw [bigCell?] at read
  obtain ⟨digits, ungrouped, -⟩ := Option.bind_eq_some_iff.mp read
  exact (filled_of_ungrouped ungrouped).mono
    (List.Subset.trans (splitSign_subset _) (subset_trimBoth isNumberBlank _))

theorem filled_of_magnitude {d : Decimal} (read : Numeral.magnitude? cs = some d) : Filled cs := by
  by_cases whole : cs.takeWhile Char.isDigit = []
  · have rest : cs.dropWhile Char.isDigit = cs := by
      conv_rhs => rw [← List.takeWhile_append_dropWhile (p := Char.isDigit) (l := cs), whole]
      rfl
    rw [Numeral.magnitude?, Numeral.splitDigits, whole, rest] at read
    cases cs with
    | nil => cases read
    | cons c rest =>
      by_cases point : c = '.'
      · exact .of_mem List.mem_cons_self (by rw [point]; decide)
      · simp [point] at read
  · exact (filled_of_digits (fun c among => List.mem_takeWhile_imp among) whole).mono
      (List.takeWhile_prefix _).subset

theorem filled_of_numberCell {x : Float} (read : numberCell? cell = some x) :
    Filled cell.toList := by
  rw [numberCell?] at read
  split at read
  next decimal =>
    rw [decimal?] at decimal
    obtain ⟨d, magnitude, -⟩ := Option.map_eq_some_iff.mp decimal
    exact (filled_of_magnitude magnitude).mono
      (List.Subset.trans (splitSign_subset _) (subset_trimBoth isNumberBlank _))
  next =>
    have word : String.ofList (cell.toList.map Char.toLower) ∈
        infinityWords ++ negativeInfinityWords := by
      rw [List.mem_append]
      dsimp only at read
      split at read
      next positive => exact .inl (List.contains_iff_mem.mp positive)
      next =>
        split at read
        next negative => exact .inr (List.contains_iff_mem.mp negative)
        next => cases read
    have words : ∀ word ∈ infinityWords ++ negativeInfinityWords, 'i' ∈ word.toList := by decide
    have letter := words _ word
    rw [String.toList_ofList] at letter
    obtain ⟨c, listed, lower⟩ := List.mem_map.mp letter
    apply Filled.of_mem listed
    by_contra blank
    rw [Bool.not_eq_false] at blank
    rw [toLower_of_isBlank blank] at lower
    rw [lower] at blank
    exact absurd blank (by decide)

theorem filled_of_truthCell {b : Bool} (read : truthCell? cell = some b) : Filled cell.toList := by
  have word : cell ∈ ["True", "TRUE", "true"] ++ ["False", "FALSE", "false"] := by
    rw [truthCell?] at read
    rw [List.mem_append]
    split at read
    next yes => exact .inl (List.contains_iff_mem.mp yes)
    next =>
      split at read
      next no => exact .inr (List.contains_iff_mem.mp no)
      next => cases read
  have words : ∀ word ∈ ["True", "TRUE", "true"] ++ ["False", "FALSE", "false"],
      'e' ∈ word.toList ∨ 'E' ∈ word.toList := by decide
  rcases words cell word with small | large
  · exact .of_mem small (by decide)
  · exact .of_mem large (by decide)

/-- A cell of nothing but blanks makes its column keep its texts. -/
theorem readAsTexts_of_blank {cells : List String} (listed : cell ∈ cells)
    (given : isMissing cell = false) (blank : ¬ Filled cell.toList) : ReadAsTexts cells := by
  have number : numberCell? cell = none :=
    Option.eq_none_iff_forall_ne_some.mpr fun x read => blank (filled_of_numberCell read)
  have truth : truthCell? cell = none :=
    Option.eq_none_iff_forall_ne_some.mpr fun b read => blank (filled_of_truthCell read)
  have big : bigCell? cell = none :=
    Option.eq_none_iff_forall_ne_some.mpr fun n read => blank (filled_of_bigCell read)
  rw [ReadAsTexts]
  cases column : wholeColumn cells with
  | numbers =>
    obtain ⟨negative, size, rest, whole⟩ := digits_of_numbers column listed given
    exact absurd (filled_of_wholeCell whole) blank
  | mixed => exact ⟨⟨cell, listed, given, number⟩, cell, listed, given, truth⟩
  | tooLarge => exact ⟨cell, listed, given, big⟩
  | conflict => trivial

end Numbers

end Csv

end MusicianGraph
