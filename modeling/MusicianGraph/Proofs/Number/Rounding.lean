import MusicianGraph.Proofs.Number.OrderKey
import MusicianGraph.Number.Numeral

/-! # Rounding to the nearest floating point number

A number with more than 53 binary digits is shifted until 53 are left, and the two bits that the
shift keeps of the rest decide whether the last one goes up. Here this is the division by a power of
two that is rounded to the nearest whole number, a half to the even one. The result is followed into
the bits and out of them again, so that what is said of it is said of the key it is compared by. -/

namespace MusicianGraph

section HalfEven

variable {a b d q : Nat}

theorem roundHalfEven_bounds (a d : Nat) :
    a / d ≤ roundHalfEven a d ∧ roundHalfEven a d ≤ a / d + 1 := by
  simp only [roundHalfEven]
  split_ifs <;> omega

/-- Rounding keeps the order. -/
theorem roundHalfEven_mono (le : a ≤ b) : roundHalfEven a d ≤ roundHalfEven b d := by
  have quotients : a / d ≤ b / d := Nat.div_le_div_right le
  rcases Nat.lt_or_eq_of_le quotients with less | same
  · have upper := (roundHalfEven_bounds a d).2
    have lower := (roundHalfEven_bounds b d).1
    omega
  · have remainders : a % d ≤ b % d := by
      have splitA := Nat.div_add_mod a d
      have splitB := Nat.div_add_mod b d
      rw [← same] at splitB
      omega
    simp only [roundHalfEven, ← same]
    split_ifs <;> omega

/-- There is nothing to round in a multiple. -/
theorem roundHalfEven_mul (positive : 0 < d) (q : Nat) : roundHalfEven (q * d) d = q := by
  rw [roundHalfEven, Nat.mul_mod_left, Nat.mul_div_cancel q positive]
  simp only [Nat.mul_zero, positive, if_true]

theorem roundHalfEven_one (a : Nat) : roundHalfEven a 1 = a := by
  have whole := roundHalfEven_mul Nat.one_pos a
  rwa [Nat.mul_one] at whole

/-- Rounding does not depend on the unit in which both numbers are measured. -/
theorem roundHalfEven_scale {c : Nat} (positive : 0 < c) :
    roundHalfEven (a * c) (d * c) = roundHalfEven a d := by
  have remainder : 2 * (a * c % (d * c)) = 2 * (a % d) * c := by
    rw [Nat.mul_mod_mul_right, Nat.mul_assoc]
  simp only [roundHalfEven, Nat.mul_div_mul_right a d positive, remainder,
    Nat.mul_lt_mul_right positive]

/-- The rounded number reaches an even number from half a unit below it on. -/
theorem le_roundHalfEven_iff (positive : 0 < d) (even : q % 2 = 0) (one : 0 < q) :
    q ≤ roundHalfEven a d ↔ (2 * q - 1) * d ≤ 2 * a := by
  have split := Nat.div_add_mod a d
  have below := Nat.mod_lt a positive
  obtain ⟨p, rfl⟩ : ∃ p, q = p + 1 := ⟨q - 1, by omega⟩
  have twice : (2 * (p + 1) - 1) * d = 2 * (d * p) + d := by
    have : 2 * (p + 1) - 1 = 2 * p + 1 := by omega
    rw [this]
    ring
  rw [twice]
  rcases Nat.lt_trichotomy (a / d) p with less | same | more
  · have product : d * (a / d + 1) ≤ d * p := Nat.mul_le_mul_left d less
    rw [Nat.mul_add] at product
    have upper := (roundHalfEven_bounds a d).2
    constructor <;> intro <;> omega
  · rw [same] at split
    simp only [roundHalfEven, same]
    split_ifs <;> omega
  · have product : d * (p + 1) ≤ d * (a / d) := Nat.mul_le_mul_left d more
    rw [Nat.mul_add] at product
    have lower := (roundHalfEven_bounds a d).1
    constructor <;> intro <;> omega

/-- Rounding 53 of the binary digits leaves a mantissa, or carries it to the next power of two. -/
theorem roundHalfEven_digits {k : Nat} (digits : a.log2 = 52 + k) :
    2 ^ 52 ≤ roundHalfEven a (2 ^ k) ∧ roundHalfEven a (2 ^ k) ≤ 2 ^ 53 := by
  have nonzero : a ≠ 0 := by
    rintro rfl
    rw [Nat.log2_zero] at digits
    omega
  obtain ⟨lower, upper⟩ := (Nat.log2_eq_iff nonzero).mp digits
  constructor
  · have mono := roundHalfEven_mono (d := 2 ^ k) lower
    rwa [Nat.pow_add, roundHalfEven_mul (Nat.two_pow_pos k)] at mono
  · have mono := roundHalfEven_mono (d := 2 ^ k) upper.le
    rwa [show 52 + k + 1 = 53 + k by omega, Nat.pow_add,
      roundHalfEven_mul (Nat.two_pow_pos k)] at mono

end HalfEven

open Float.Model (UnpackedFloat Format totalExponent)
open Float.Model.UnpackedFloat (Sign Accuracy ExtendedMantissa roundWithAccuracy
  shiftToTargetExponent shiftToExponent packComponents unpackSign
  unpackExponent_packComponents unpackMantissa_packComponents)

namespace Unpacked

/-- The two bits behind a mantissa tell how the part that was cut off compares with half a unit. -/
structure CutFrom (n unit : Nat) (em : ExtendedMantissa) : Prop where
  whole : em.mantissa = n / unit
  half : em.roundBit = true ↔ unit ≤ 2 * (n % unit)
  rest : em.stickyBit = true ↔ 2 * (n % unit) ≠ 0 ∧ 2 * (n % unit) ≠ unit

theorem CutFrom.shiftRightOne {n unit : Nat} {em : ExtendedMantissa} (positive : 0 < unit)
    (cut : CutFrom n unit em) : CutFrom n (unit * 2) em.shiftRightOne where
  whole := by
    rw [ExtendedMantissa.shiftRightOne, cut.whole, Nat.div_div_eq_div_mul]
  half := by
    have below := Nat.mod_lt n positive
    rw [ExtendedMantissa.shiftRightOne, bne_iff_ne, cut.whole, Nat.mod_mul]
    rcases Nat.mod_two_eq_zero_or_one (n / unit) with even | odd
    · rw [even]
      omega
    · rw [odd]
      omega
  rest := by
    have below := Nat.mod_lt n positive
    have half := cut.half
    have rest := cut.rest
    rw [ExtendedMantissa.shiftRightOne, Bool.or_eq_true, half, rest, Nat.mod_mul]
    rcases Nat.mod_two_eq_zero_or_one (n / unit) with even | odd
    · rw [even]
      omega
    · rw [odd]
      omega

/-- Shifting out binary digits cuts off a power of two. -/
theorem cutFrom_shift (n k : Nat) :
    CutFrom n (2 ^ k) (ExtendedMantissa.ofMantissaAndAccuracy n .exact >>> k) := by
  change CutFrom n (2 ^ k) (Nat.repeat ExtendedMantissa.shiftRightOne k _)
  induction k with
  | zero =>
    constructor
    · exact (Nat.div_one n).symm
    · simp [ExtendedMantissa.ofMantissaAndAccuracy, Nat.repeat, Nat.mod_one]
    · simp [ExtendedMantissa.ofMantissaAndAccuracy, Nat.repeat, Nat.mod_one]
  | succ k ih =>
    rw [Nat.repeat, Nat.pow_succ]
    exact ih.shiftRightOne (Nat.two_pow_pos k)

/-- What the bits tell is enough to round. -/
theorem CutFrom.roundedMantissa_eq {n unit : Nat} {em : ExtendedMantissa} (positive : 0 < unit)
    (cut : CutFrom n unit em) : em.roundedMantissa = roundHalfEven n unit := by
  obtain ⟨mantissa, round, sticky⟩ := em
  obtain ⟨whole, half, rest⟩ := cut
  dsimp only at whole half rest
  subst whole
  rw [roundHalfEven]
  cases round <;> cases sticky <;>
    simp only [ExtendedMantissa.roundedMantissa, ExtendedMantissa.accuracy,
      Accuracy.roundToNearestEven, true_iff, Bool.false_eq_true, false_iff] at half rest ⊢
  all_goals split_ifs <;> omega

theorem unpackSign_components (s : Sign) (exponent : BitVec 11) (mantissa : BitVec 52) :
    unpackSign (packComponents .binary64 s exponent mantissa) = s.toBitVec := by
  change (s.toBitVec ++ exponent ++ mantissa).extractLsb' 63 1 = s.toBitVec
  rw [BitVec.extractLsb'_append_eq_of_le (by decide),
    BitVec.extractLsb'_append_eq_of_le (by decide)]
  cases s <;> rfl

theorem ofBitVec_toBitVec (s : Sign) : Sign.ofBitVec s.toBitVec = s := by
  cases s <;> rfl

/-- The exponents of normal numbers leave both ends of the field free. -/
private theorem exponent_field {e : Int} (least : -1074 ≤ e) (most : e ≤ 971) :
    (BitVec.ofNat 11 (e + 1075).toNat).toNat = (e + 1075).toNat ∧
      BitVec.ofNat 11 (e + 1075).toNat ≠ -1#11 ∧ BitVec.ofNat 11 (e + 1075).toNat ≠ 0#11 := by
  have value : (BitVec.ofNat 11 (e + 1075).toNat).toNat = (e + 1075).toNat := by
    change (e + 1075).toNat % 2048 = (e + 1075).toNat
    omega
  refine ⟨value, fun full => ?_, fun none => ?_⟩
  · have field := congrArg BitVec.toNat full
    rw [value] at field
    change (e + 1075).toNat = 2047 at field
    omega
  · have field := congrArg BitVec.toNat none
    rw [value] at field
    change (e + 1075).toNat = 0 at field
    omega

/-- The leading bit of a mantissa is not written. -/
private theorem mantissa_field {m : Nat} (leading : 2 ^ 52 ≤ m) (short : m < 2 ^ 53) :
    (1#1 ++ BitVec.ofNat 52 m).toNat = m := by
  rw [BitVec.toNat_append, ← Nat.shiftLeft_add_eq_or_of_lt (BitVec.isLt _), BitVec.toNat_ofNat,
    Nat.shiftLeft_eq]
  change 1 * 2 ^ 52 + m % 2 ^ 52 = m
  omega

/-- A number with a leading bit is read as it was written. -/
theorem unpack_pack_normal (s : Sign) {m : Nat} {e : Int} (positive : 0 < m) (leading : 2 ^ 52 ≤ m)
    (short : m < 2 ^ 53) (least : -1074 ≤ e) (most : e ≤ 971) :
    (Float.Model.pack (.finite s m e positive)).unpack = .finite s m e positive := by
  have digits : m.log2 = 52 := (Nat.log2_eq_iff (by omega)).mpr ⟨leading, short⟩
  have inside : ¬ 2 ^ Format.binary64.exponentBits ≤
      (e + Format.binary64.exponentBias + Format.binary64.mantissaBitsWithoutImplicit).toNat +
        1 := by
    change ¬ 2048 ≤ (e + 1023 + 52).toNat + 1
    omega
  have biased : (e + Format.binary64.exponentBias + (52 : Nat)).toNat = (e + 1075).toNat := by
    change (e + 1023 + 52).toNat = (e + 1075).toNat
    omega
  obtain ⟨exponent, notFull, notLeast⟩ := exponent_field least most
  have mantissa := mantissa_field leading short
  change UnpackedFloat.unpack .binary64 (UnpackedFloat.pack .binary64 _) = _
  simp only [UnpackedFloat.pack, if_neg inside, digits]
  rw [if_pos (show 52 + 1 = Format.binary64.mantissaBits from rfl)]
  simp only [UnpackedFloat.unpack, unpackMantissa_packComponents, unpackExponent_packComponents,
    unpackSign_components, ofBitVec_toBitVec, biased]
  rw [if_neg notFull, if_neg notLeast]
  congr 1
  rw [exponent]
  change ((e + 1075).toNat : Int) - (1023 + 52) = e
  omega

/-- A number that is too large is infinite. -/
theorem pack_large (s : Sign) {m : Nat} {e : Int} (positive : 0 < m) (large : 972 ≤ e) :
    Float.Model.pack (.finite s m e positive) = Float.Model.pack (.infinity s) := by
  have outside : 2 ^ Format.binary64.exponentBits ≤
      (e + Format.binary64.exponentBias + Format.binary64.mantissaBitsWithoutImplicit).toNat +
        1 := by
    change 2048 ≤ (e + 1023 + 52).toNat + 1
    omega
  have same : UnpackedFloat.pack .binary64 (.finite s m e positive) =
      UnpackedFloat.pack .binary64 (.infinity s) := by
    simp only [UnpackedFloat.pack, if_pos outside]
  unfold Float.Model.pack
  simp only [same]

/-- Binary digits behind the leading 53 are cut off. -/
theorem shiftToTarget {m : Nat} {e : Int} (k : Nat) (digits : m.log2 = 52 + k)
    (least : -1074 ≤ e + k) :
    shiftToTargetExponent .binary64 m e .exact =
      (ExtendedMantissa.ofMantissaAndAccuracy m .exact >>> k, e + k) := by
  have target : Format.binary64.targetExponent (totalExponent m e) = e + k := by
    change max ((m.log2 : Int) + 1 + e - (1 + 52)) (3 - 1024 - (1 + 52)) = e + k
    rw [digits]
    omega
  have amount : (e + k - e).toNat = k := by omega
  rw [shiftToTargetExponent, target, shiftToExponent, amount]

/-- A mantissa that grows to the next power of two in rounding gives up its last digit. -/
theorem roundWithAccuracy_eq (s : Sign) {m : Nat} {e : Int} (k : Nat) (digits : m.log2 = 52 + k)
    (least : -1074 ≤ e + k) :
    2 ^ 52 ≤ roundHalfEven m (2 ^ k) ∧
      ((∃ positive, roundHalfEven m (2 ^ k) < 2 ^ 53 ∧ roundWithAccuracy .binary64 s m e .exact =
          .finite s (roundHalfEven m (2 ^ k)) (e + k) positive) ∨
        ∃ positive, roundHalfEven m (2 ^ k) = 2 ^ 53 ∧ roundWithAccuracy .binary64 s m e .exact =
          .finite s (2 ^ 52) (e + k + 1) positive) := by
  have rounded : (ExtendedMantissa.ofMantissaAndAccuracy m .exact >>> k).roundedMantissa =
      roundHalfEven m (2 ^ k) := (cutFrom_shift m k).roundedMantissa_eq (Nat.two_pow_pos k)
  obtain ⟨leading, short⟩ := roundHalfEven_digits digits
  refine ⟨leading, ?_⟩
  rw [roundWithAccuracy, shiftToTarget k digits least]
  dsimp only
  rw [rounded]
  generalize roundHalfEven m (2 ^ k) = r at leading short
  rcases Nat.lt_or_eq_of_le short with less | full
  · left
    have again : r.log2 = 52 + 0 := (Nat.log2_eq_iff (by omega)).mpr ⟨leading, less⟩
    rw [shiftToTarget 0 again (by omega)]
    have mantissa : (ExtendedMantissa.ofMantissaAndAccuracy r .exact >>> 0).mantissa = r :=
      (cutFrom_shift r 0).whole.trans (Nat.div_one r)
    refine ⟨by omega, less, ?_⟩
    simp only [mantissa]
    rw [dif_neg (by omega)]
    congr 1
    omega
  · right
    subst full
    rw [shiftToTarget 1 (by decide) (by omega)]
    exact ⟨by omega, rfl, rfl⟩

/-- Zero, infinity and the numbers with a leading bit. These are what whole numbers become. -/
inductive Normal : UnpackedFloat → Prop where
  | zero (s : Sign) : Normal (.zero s)
  | infinity (s : Sign) : Normal (.infinity s)
  | finite (s : Sign) {m : Nat} {e : Int} (positive : 0 < m) (leading : 2 ^ 52 ≤ m)
      (short : m < 2 ^ 53) (least : -1074 ≤ e) (most : e ≤ 971) : Normal (.finite s m e positive)

theorem Normal.unpack_pack {u : UnpackedFloat} (normal : Normal u) :
    (Float.Model.pack u).unpack = u := by
  cases normal with
  | zero s => cases s <;> rfl
  | infinity s => cases s <;> rfl
  | finite s positive leading short least most =>
    exact unpack_pack_normal s positive leading short least most

theorem Normal.isNaN_eq_false {u : UnpackedFloat} (normal : Normal u) : u.isNaN = false := by
  cases normal <;> rfl

theorem Normal.neg {u : UnpackedFloat} (normal : Normal u) : Normal u.neg := by
  cases normal with
  | zero s => exact .zero _
  | infinity s => exact .infinity _
  | finite s positive leading short least most => exact .finite _ positive leading short least most

theorem key_neg (u : UnpackedFloat) : key u.neg = -key u := by
  have apply_neg : ∀ (s : Sign) (size : Int), (-s).apply size = -s.apply size := by
    intro s size
    cases s
    · exact (Int.neg_neg size).symm
    · rfl
  cases u with
  | notANumber => rfl
  | infinity s => exact apply_neg s _
  | zero s => rfl
  | finite s m e positive => exact apply_neg s _

end Unpacked

/-- The number is one of those that whole numbers become, and this is its key. -/
def Keyed (x : Float) (k : Int) : Prop :=
  ∃ u, Unpacked.Normal u ∧ x = .ofModel (Float.Model.pack u) ∧ Unpacked.key u = k

namespace Keyed

variable {x : Float} {k : Int}

theorem isNaN_eq_false (keyed : Keyed x k) : x.isNaN = false := by
  obtain ⟨u, normal, rfl, -⟩ := keyed
  change (Float.Model.pack u).unpack.isNaN = false
  rw [normal.unpack_pack]
  exact normal.isNaN_eq_false

theorem orderKey_eq (keyed : Keyed x k) : orderKey x = k := by
  have defined := keyed.isNaN_eq_false
  obtain ⟨u, normal, rfl, rfl⟩ := keyed
  rw [(orderKey_spec defined).2]
  exact congrArg Unpacked.key normal.unpack_pack

theorem neg (keyed : Keyed x k) : Keyed (Float.neg x) (-k) := by
  obtain ⟨u, normal, rfl, rfl⟩ := keyed
  refine ⟨u.neg, normal.neg, ?_, Unpacked.key_neg u⟩
  change Float.ofModel (Float.Model.pack (Float.Model.pack u).unpack.neg) = _
  rw [normal.unpack_pack]

/-- A number with a leading bit has its key; if it is too large it is infinite. -/
theorem ofPacked (s : Sign) {m : Nat} {e : Int} (positive : 0 < m) (leading : 2 ^ 52 ≤ m)
    (short : m < 2 ^ 53) (least : -1074 ≤ e) :
    Keyed (.ofModel (Float.Model.pack (.finite s m e positive)))
      (s.apply (min (2047 * 2 ^ 52) ((e + 1074) * 2 ^ 52 + m))) := by
  by_cases most : e ≤ 971
  · refine ⟨_, .finite s positive leading short least most, rfl, ?_⟩
    rw [Unpacked.key, min_eq_right (by omega)]
  · refine ⟨_, .infinity s, ?_, ?_⟩
    · rw [Unpacked.pack_large s positive (by omega)]
    · rw [Unpacked.key, min_eq_left (by omega)]

/-- Rounding gives a number with a key below infinity, or infinity. -/
theorem ofRounded (s : Sign) {m k : Nat} {e : Int} (digits : m.log2 = 52 + k)
    (least : -1074 ≤ e + k) :
    Keyed (.ofModel (Float.Model.pack (roundWithAccuracy .binary64 s m e .exact)))
      (s.apply (min (2047 * 2 ^ 52) ((e + k + 1074) * 2 ^ 52 + roundHalfEven m (2 ^ k)))) := by
  obtain ⟨leading, ⟨positive, short, same⟩ | ⟨positive, full, same⟩⟩ :=
    Unpacked.roundWithAccuracy_eq s k digits least
  · rw [same]
    exact ofPacked s positive leading short least
  · have carried : (e + k + 1074) * 2 ^ 52 + ((2 ^ 53 : Nat) : Int) =
        (e + k + 1 + 1074) * 2 ^ 52 + ((2 ^ 52 : Nat) : Int) := by
      push_cast
      omega
    rw [same, full, carried]
    exact ofPacked s positive le_rfl (by decide) (by omega)

end Keyed

end MusicianGraph
