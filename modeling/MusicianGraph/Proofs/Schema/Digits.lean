import MusicianGraph.Schema.WholeText
import Mathlib.Data.List.TakeWhile

/-! # Numbers and their digits

The decimal digits of a natural number are a numeral, and it is read as that number. -/

namespace MusicianGraph

namespace Numeral

/-- Digits are split from nothing. -/
theorem splitDigits_of_isDigit {cs : List Char} (digits : ∀ c ∈ cs, c.isDigit = true) :
    splitDigits cs = (cs, []) := by
  rw [splitDigits, List.takeWhile_eq_self_iff.mpr digits, List.dropWhile_eq_nil_iff.mpr digits]

end Numeral

namespace WholeText

/-- No digits begin with a zero, but those of zero itself. -/
theorem head?_toDigits {n : Nat} (positive : 0 < n) : (Nat.toDigits 10 n).head? ≠ some '0' := by
  have single : ∀ d < 10, 0 < d → [Nat.digitChar d].head? ≠ some '0' := by decide
  induction n using Nat.strongRecOn with
  | ind n ih =>
    by_cases small : n < 10
    · rw [Nat.toDigits_of_lt_base small]
      exact single n small positive
    · have shorter := ih (n / 10) (by omega) (by omega)
      obtain ⟨c, rest, written⟩ :=
        List.exists_cons_of_ne_nil (Nat.toDigits_ne_nil (b := 10) (n := n / 10))
      rw [Nat.toDigits_of_base_le (by omega) (by omega), written]
      rw [written] at shorter
      exact shorter

theorem splitMinus_of_isDigit {cs : List Char} (digits : ∀ c ∈ cs, c.isDigit = true) :
    splitMinus cs = (false, cs) := by
  unfold splitMinus
  split
  · exact absurd (digits '-' List.mem_cons_self) (by decide)
  · rfl

/-- There are not too many digits in a small number. -/
theorem short_of_lt_thousand {n : Nat} (small : n < 1000) :
    (Nat.toDigits 10 n).length ≤ longest := by
  have threeDigits : (Nat.toDigits 10 n).length ≤ 3 :=
    (Nat.length_toDigits_le_iff (by omega) (by omega)).mpr (by omega)
  exact threeDigits.trans (by decide)

/-- The digits of a number are read as that number, if there are not too many. -/
theorem ofText_toString {n : Nat} (short : (Nat.toDigits 10 n).length ≤ longest) :
    ofText (toString n) = .number n := by
  have digits : ∀ c ∈ Nat.toDigits 10 n, c.isDigit = true :=
    fun c among => Nat.isDigit_of_mem_toDigits (by omega) (by omega) among
  have value : Numeral.value (Nat.toDigits 10 n) = n := Nat.ofDigitChars_ten_toDigits
  have plain : plain (Nat.toDigits 10 n) = .number n := by
    rw [WholeText.plain, splitMinus_of_isDigit digits]
    dsimp only
    rw [Numeral.splitDigits_of_isDigit digits]
    rcases Nat.eq_zero_or_pos n with rfl | positive
    · rfl
    · obtain ⟨c, rest, written⟩ := List.exists_cons_of_ne_nil (Nat.toDigits_ne_nil (b := 10) (n := n))
      have head := head?_toDigits positive
      rw [written] at head short value ⊢
      have nonzero : c ≠ '0' := fun same => head (congrArg some same)
      simpa [nonzero, value, Binary64.signed, Nat.succ_le_iff] using short
  rw [ofText, Nat.toString_eq_ofList_toDigits, String.toList_ofList, plain]

end WholeText

end MusicianGraph
