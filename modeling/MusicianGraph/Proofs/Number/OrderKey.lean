import Mathlib
import MusicianGraph.GeoPoint
import MusicianGraph.Number.Binary64

/-! # The order of keys is the order of numbers

Rankings compare scores by `orderKey`, an integer that is read off the bits. Here that is tied to
the comparison of floating point numbers: for two numbers, infinite ones included, the keys stand
in the same order as the numbers. An undefined number is comparable with nothing, yet has a key. -/

namespace MusicianGraph

open Float.Model (UnpackedFloat)
open Float.Model.UnpackedFloat (Sign unpackExponent unpackMantissa unpackSign)

namespace Unpacked

/-- The key of a number that is given by sign, mantissa and exponent. The exponents are counted
from the least one, so that the mantissa of a normal number carries into the next multiple. -/
def key : UnpackedFloat → Int
  | .infinity s => s.apply (2047 * 2 ^ 52)
  | .notANumber => 0
  | .zero _ => 0
  | .finite s m e _ => s.apply ((e + 1074) * 2 ^ 52 + m)

/-- What is true of the numbers that 64 bits give: the exponent is in range, and the mantissa has
its leading bit unless the exponent is the least one. -/
def InRange : UnpackedFloat → Prop
  | .finite _ m e _ => -1074 ≤ e ∧ e ≤ 971 ∧ m < 2 ^ 53 ∧ (-1074 < e → 2 ^ 52 ≤ m)
  | _ => True

/-- Exponent first and mantissa second is the order of the magnitudes. -/
private theorem lexicographic {m n : Nat} {e f : Int} (hm : m < 2 ^ 53) (hn : n < 2 ^ 53)
    (he : -1074 < e → 2 ^ 52 ≤ m) (hf : -1074 < f → 2 ^ 52 ≤ n) (le : -1074 ≤ e) (lf : -1074 ≤ f) :
    ((compare e f).then (compare m n)).isLE = true ↔
      (e + 1074) * 2 ^ 52 + m ≤ (f + 1074) * 2 ^ 52 + n := by
  rcases Int.lt_trichotomy e f with less | rfl | more
  · have first : compare e f = .lt := Int.compare_eq_lt.mpr less
    have leading := hf (by omega)
    simp only [first, Ordering.then, Ordering.isLE, true_iff]
    omega
  · have first : compare e e = .eq := Int.compare_eq_eq.mpr rfl
    simp only [first, Ordering.then, Nat.isLE_compare]
    omega
  · have first : compare e f = .gt := Int.compare_eq_gt.mpr more
    have leading := he (by omega)
    simp only [first, Ordering.then, Ordering.isLE, Bool.false_eq_true, false_iff]
    omega

/-- Sizes of finite numbers lie strictly between zero and infinity. -/
private theorem size_bounds {m : Nat} {e : Int} (positive : 0 < m) (hm : m < 2 ^ 53)
    (least : -1074 ≤ e) (most : e ≤ 971) :
    0 < (e + 1074) * 2 ^ 52 + (m : Int) ∧ (e + 1074) * 2 ^ 52 + (m : Int) < 2047 * 2 ^ 52 := by
  constructor <;> omega

/-- For numbers in range the comparison is the comparison of the keys. -/
theorem le_iff_key {u v : UnpackedFloat} (hu : InRange u) (hv : InRange v)
    (defined : u.isNaN = false) (defined' : v.isNaN = false) :
    u.le v = true ↔ key u ≤ key v := by
  cases u with
  | notANumber => simp [UnpackedFloat.isNaN] at defined
  | infinity s =>
    cases v with
    | notANumber => simp [UnpackedFloat.isNaN] at defined'
    | infinity t =>
      cases s <;> cases t <;>
        simp [UnpackedFloat.le, UnpackedFloat.compare, key, Sign.apply, compare, Ordering.isLE]
    | zero t => cases s <;> simp [UnpackedFloat.le, UnpackedFloat.compare, key, Sign.apply]
    | finite t n f hn =>
      obtain ⟨least, most, short, -⟩ := hv
      have bounds := size_bounds hn short least most
      cases s <;> cases t <;>
        simp [UnpackedFloat.le, UnpackedFloat.compare, key, Sign.apply] <;> omega
  | zero s =>
    cases v with
    | notANumber => simp [UnpackedFloat.isNaN] at defined'
    | infinity t => cases t <;> simp [UnpackedFloat.le, UnpackedFloat.compare, key, Sign.apply]
    | zero t => simp [UnpackedFloat.le, UnpackedFloat.compare, key]
    | finite t n f hn =>
      obtain ⟨least, most, short, -⟩ := hv
      have bounds := size_bounds hn short least most
      cases t <;> simp [UnpackedFloat.le, UnpackedFloat.compare, key, Sign.apply] <;> omega
  | finite s m e hm =>
    obtain ⟨least, most, short, leading⟩ := hu
    have bounds := size_bounds hm short least most
    cases v with
    | notANumber => simp [UnpackedFloat.isNaN] at defined'
    | infinity t =>
      cases s <;> cases t <;>
        simp [UnpackedFloat.le, UnpackedFloat.compare, key, Sign.apply] <;> omega
    | zero t =>
      cases s <;> simp [UnpackedFloat.le, UnpackedFloat.compare, key, Sign.apply] <;> omega
    | finite t n f hn =>
      obtain ⟨least', most', short', leading'⟩ := hv
      have bounds' := size_bounds hn short' least' most'
      cases s <;> cases t
      case negative.negative =>
        have swapped : ((compare e f).then (compare m n)).swap =
            (compare f e).then (compare n m) := by
          rw [Ordering.swap_then, Int.compare_swap, Nat.compare_swap]
        simp only [UnpackedFloat.le, UnpackedFloat.compare, swapped, Option.any_some, key,
          Sign.apply]
        rw [lexicographic short' short leading' leading least' least]
        omega
      case positive.positive =>
        simp only [UnpackedFloat.le, UnpackedFloat.compare, Option.any_some, key, Sign.apply]
        exact lexicographic short short' leading leading' least least'
      all_goals
        simp [UnpackedFloat.le, UnpackedFloat.compare, key, Sign.apply]
        omega

/-- The other way round, the comparison is turned over. -/
theorem compare_swap (u v : UnpackedFloat) : v.compare u = (u.compare v).map Ordering.swap := by
  cases u with
  | notANumber => cases v <;> rfl
  | infinity s =>
    cases v with
    | infinity t => cases s <;> cases t <;> rfl
    | _ => cases s <;> rfl
  | zero s =>
    cases v with
    | infinity t => cases t <;> rfl
    | finite t n f hn => cases t <;> rfl
    | _ => rfl
  | finite s m e hm =>
    cases v with
    | notANumber => rfl
    | infinity t => cases s <;> cases t <;> rfl
    | zero t => cases s <;> rfl
    | finite t n f hn =>
      have swapped : ((compare e f).then (compare m n)).swap =
          (compare f e).then (compare n m) := by
        rw [Ordering.swap_then, Int.compare_swap, Nat.compare_swap]
      cases s <;> cases t <;> simp [UnpackedFloat.compare, swapped]

/-- Equal is what is neither below nor above. -/
theorem beq_iff_le (u v : UnpackedFloat) : u.beq v = true ↔ u.le v = true ∧ v.le u = true := by
  rw [UnpackedFloat.beq, UnpackedFloat.le, UnpackedFloat.le, compare_swap u v]
  cases u.compare v with
  | none => simp
  | some o => cases o <;> simp

end Unpacked

section Bits

variable (b : BitVec 64)

private theorem exponent_toNat :
    (@unpackExponent .binary64 b).toNat = b.toNat / 2 ^ 52 % 2 ^ 11 := by
  simp [unpackExponent, BitVec.extractLsb_toNat, Nat.shiftRight_eq_div_pow]

private theorem mantissa_toNat :
    (@unpackMantissa .binary64 b).toNat = b.toNat % 2 ^ 52 := by
  simp [unpackMantissa, BitVec.extractLsb_toNat]

private theorem sign_eq :
    Sign.ofBitVec (@unpackSign .binary64 b) =
      if b.toNat / 2 ^ 63 = 1 then .negative else .positive := by
  have bit : (@unpackSign .binary64 b).toNat = b.toNat / 2 ^ 63 := by
    have bound := b.isLt
    simp [unpackSign, BitVec.extractLsb_toNat, Nat.shiftRight_eq_div_pow]
    omega
  have bound := b.isLt
  rw [Sign.ofBitVec]
  by_cases zero : @unpackSign .binary64 b = 0#1
  · have : b.toNat / 2 ^ 63 = 0 := by rw [← bit, zero]; rfl
    rw [if_pos zero, if_neg (by omega)]
  · have : b.toNat / 2 ^ 63 ≠ 0 := by
      rw [← bit]
      exact fun none => zero (BitVec.eq_of_toNat_eq none)
    rw [if_neg zero, if_pos (by omega)]

private theorem leading_toNat :
    (1#1 ++ @unpackMantissa .binary64 b).toNat = 2 ^ 52 + b.toNat % 2 ^ 52 := by
  rw [BitVec.toNat_append, ← Nat.shiftLeft_add_eq_or_of_lt (BitVec.isLt _), mantissa_toNat]
  simp [Nat.shiftLeft_eq]

/-- The bits give a number in range, and its key is their magnitude with the sign. -/
private theorem unpack_spec (defined : (UnpackedFloat.unpack .binary64 b).isNaN = false) :
    Unpacked.InRange (UnpackedFloat.unpack .binary64 b) ∧
      Unpacked.key (UnpackedFloat.unpack .binary64 b) =
        Binary64.signed (b.toNat / 2 ^ 63 == 1) (b.toNat % 2 ^ 63) := by
  have size := b.isLt
  have exponent := exponent_toNat b
  have mantissa := mantissa_toNat b
  have bias : (Float.Model.Format.binary64.exponentBias : Int) = 1023 := rfl
  have sign : ∀ magnitude : Int, (Sign.ofBitVec (@unpackSign .binary64 b)).apply magnitude =
      if b.toNat / 2 ^ 63 = 1 then -magnitude else magnitude := by
    intro magnitude
    rw [sign_eq]
    split <;> rfl
  have signed : ∀ magnitude : Nat, Binary64.signed (b.toNat / 2 ^ 63 == 1) magnitude =
      if b.toNat / 2 ^ 63 = 1 then -(magnitude : Int) else magnitude := by
    intro magnitude
    simp only [Binary64.signed, beq_iff_eq]
  unfold UnpackedFloat.unpack at defined ⊢
  dsimp only at defined ⊢
  split at defined
  case isTrue full =>
    have : b.toNat / 2 ^ 52 % 2 ^ 11 = 2047 := by rw [← exponent, full]; rfl
    split at defined
    case isTrue none =>
      have : b.toNat % 2 ^ 52 = 0 := by rw [← mantissa, none]; rfl
      rw [if_pos full, if_pos none]
      refine ⟨trivial, ?_⟩
      rw [Unpacked.key, sign, signed]
      split <;> omega
    case isFalse => simp [UnpackedFloat.isNaN] at defined
  case isFalse notFull =>
    have below : b.toNat / 2 ^ 52 % 2 ^ 11 ≠ 2047 := by
      rw [← exponent]
      exact fun full => notFull (BitVec.eq_of_toNat_eq full)
    rw [if_neg notFull]
    by_cases least : @unpackExponent .binary64 b = 0#11
    · have : b.toNat / 2 ^ 52 % 2 ^ 11 = 0 := by rw [← exponent, least]; rfl
      rw [if_pos least]
      by_cases none : @unpackMantissa .binary64 b = 0#52
      · have : b.toNat % 2 ^ 52 = 0 := by rw [← mantissa, none]; rfl
        rw [dif_pos none]
        refine ⟨trivial, ?_⟩
        rw [Unpacked.key, signed]
        split <;> omega
      · rw [dif_neg none]
        constructor
        · refine ⟨by omega, by omega, by omega, fun more => ?_⟩
          omega
        · rw [Unpacked.key, sign, signed, bias, exponent, mantissa]
          split <;> omega
    · have : b.toNat / 2 ^ 52 % 2 ^ 11 ≠ 0 := by
        rw [← exponent]
        exact fun zero => least (BitVec.eq_of_toNat_eq zero)
      have leading := leading_toNat b
      rw [if_neg least]
      constructor
      · exact ⟨by omega, by omega, by omega, fun _ => by omega⟩
      · rw [Unpacked.key, sign, signed, bias, exponent, leading]
        split <;> omega

end Bits

/-- The key of a number is the key of its unpacked form, and that form is in range. -/
theorem orderKey_spec {x : Float} (defined : x.isNaN = false) :
    Unpacked.InRange x.toModel.unpack ∧ orderKey x = Unpacked.key x.toModel.unpack := by
  obtain ⟨range, same⟩ := unpack_spec x.toModel.toBits.toBitVec defined
  exact ⟨range, same.symm⟩

theorem le_iff_unpacked (x y : Float) : x ≤ y ↔ x.toModel.unpack.le y.toModel.unpack = true := by
  change decide (x.toModel ≤ y.toModel) = true ↔ _
  rw [decide_eq_true_iff]
  rfl

/-- Keys compare as the numbers do. -/
theorem orderKey_le_iff {x y : Float} (hx : x.isNaN = false) (hy : y.isNaN = false) :
    orderKey x ≤ orderKey y ↔ x ≤ y := by
  obtain ⟨rangeX, keyX⟩ := orderKey_spec hx
  obtain ⟨rangeY, keyY⟩ := orderKey_spec hy
  rw [keyX, keyY, ← Unpacked.le_iff_key rangeX rangeY hx hy, le_iff_unpacked]

/-- Numbers are equal exactly if their keys are; so both zeros are. -/
theorem orderKey_eq_iff {x y : Float} (hx : x.isNaN = false) (hy : y.isNaN = false) :
    orderKey x = orderKey y ↔ (x == y) = true := by
  change _ ↔ x.toModel.unpack.beq y.toModel.unpack = true
  rw [Unpacked.beq_iff_le, ← le_iff_unpacked, ← le_iff_unpacked, ← orderKey_le_iff hx hy,
    ← orderKey_le_iff hy hx]
  omega

/-- What is compared is a number. -/
theorem isNaN_of_le {x y : Float} (le : x ≤ y) : x.isNaN = false ∧ y.isNaN = false := by
  have decided : decide (x.toModel ≤ y.toModel) = true := le
  have compared : x.toModel.unpack.le y.toModel.unpack = true := of_decide_eq_true decided
  change x.toModel.unpack.isNaN = false ∧ y.toModel.unpack.isNaN = false
  cases left : x.toModel.unpack with
  | notANumber => simp [left, UnpackedFloat.le, UnpackedFloat.compare] at compared
  | _ =>
    cases right : y.toModel.unpack with
    | notANumber => simp [left, right, UnpackedFloat.le, UnpackedFloat.compare] at compared
    | _ => exact ⟨rfl, rfl⟩

/-- The keys of finite numbers are those below the key of infinity. -/
theorem isFiniteNumber_iff_key (x : Float) :
    isFiniteNumber x = true ↔ -(2047 * 2 ^ 52) < orderKey x ∧ orderKey x < 2047 * 2 ^ 52 := by
  have key : orderKey x =
      Binary64.signed (x.toBits.toNat / 2 ^ 63 == 1) (x.toBits.toNat % 2 ^ 63) := rfl
  have full : isFiniteNumber x = true ↔ ¬ x.toBits.toNat / 2 ^ 52 % 2 ^ 11 = 2047 := by
    change isFiniteNumber x = true ↔ ¬ x.toBits.toNat / Nat.pow 2 52 % Nat.pow 2 11 = 2047
    rw [isFiniteNumber, Binary64.ofFloat]
    split_ifs with full <;> simp [full]
  rw [full, key, Binary64.signed]
  have bound := x.toBits.toBitVec.isLt
  change x.toBits.toNat < 2 ^ 64 at bound
  generalize x.toBits.toNat = bits at bound ⊢
  split_ifs <;> omega

/-- Numbers between finite ones are finite. -/
theorem isFiniteNumber_of_between {least x most : Float} (lower : least ≤ x) (upper : x ≤ most)
    (above : -(2047 * 2 ^ 52) < orderKey least) (below : orderKey most < 2047 * 2 ^ 52) :
    isFiniteNumber x = true := by
  obtain ⟨defined, number⟩ := isNaN_of_le lower
  obtain ⟨-, defined'⟩ := isNaN_of_le upper
  rw [← orderKey_le_iff defined number] at lower
  rw [← orderKey_le_iff number defined'] at upper
  exact (isFiniteNumber_iff_key x).mpr ⟨by omega, by omega⟩

/-- Degrees are finite numbers. -/
theorem isFiniteNumber_of_isLatitude {x : Float} (valid : isLatitude x = true) :
    isFiniteNumber x = true := by
  rw [isLatitude, Bool.and_eq_true, decide_eq_true_eq, decide_eq_true_eq] at valid
  exact isFiniteNumber_of_between valid.2 valid.1 (by decide +kernel) (by decide +kernel)

theorem isFiniteNumber_of_isLongitude {x : Float} (valid : isLongitude x = true) :
    isFiniteNumber x = true := by
  rw [isLongitude, Bool.and_eq_true, decide_eq_true_eq, decide_eq_true_eq] at valid
  exact isFiniteNumber_of_between valid.2 valid.1 (by decide +kernel) (by decide +kernel)

end MusicianGraph
