import MusicianGraph.Proofs.Number.Rounding

/-! # Whole numbers as floating point numbers

A whole number keeps its leading 53 binary digits when it becomes a floating point number. Those of
up to 53 digits stay what they are, larger ones are rounded, and from `leastTooLarge` on they are
infinite. Rounded numbers are ordered as the whole numbers are, except that different whole numbers
can become equal. -/

namespace MusicianGraph

open Float.Model (UnpackedFloat Format totalExponent)
open Float.Model.UnpackedFloat (Sign roundWithAccuracy)

theorem log2_mul_two_pow {n : Nat} (positive : 0 < n) (k : Nat) :
    (n * 2 ^ k).log2 = n.log2 + k := by
  obtain ⟨lower, upper⟩ := (Nat.log2_eq_iff positive.ne').mp rfl
  have nonzero : n * 2 ^ k ≠ 0 := Nat.mul_ne_zero positive.ne' (Nat.two_pow_pos k).ne'
  refine (Nat.log2_eq_iff nonzero).mpr ⟨?_, ?_⟩
  · rw [Nat.pow_add]
    exact Nat.mul_le_mul_right _ lower
  · rw [Nat.add_right_comm, Nat.pow_add]
    exact Nat.mul_lt_mul_of_pos_right upper (Nat.two_pow_pos k)

/-- The leading 53 binary digits of a whole number. Zeros are added to it if it has fewer; if it has
more it is rounded, which may carry it to the next power of two. -/
def leadingDigits (n : Nat) : Nat := roundHalfEven (n * 2 ^ 52) (2 ^ n.log2)

section Conversion

variable {n : Nat}

theorem leadingDigits_bounds (positive : 0 < n) :
    2 ^ 52 ≤ leadingDigits n ∧ leadingDigits n ≤ 2 ^ 53 :=
  roundHalfEven_digits ((log2_mul_two_pow positive 52).trans (Nat.add_comm _ _))

theorem leadingDigits_of_few (few : n.log2 ≤ 52) : leadingDigits n = n * 2 ^ (52 - n.log2) := by
  have split : n * 2 ^ 52 = n * 2 ^ (52 - n.log2) * 2 ^ n.log2 := by
    rw [Nat.mul_assoc, ← Nat.pow_add, Nat.sub_add_cancel few]
  rw [leadingDigits, split, roundHalfEven_mul (Nat.two_pow_pos _)]

theorem leadingDigits_of_many (many : 52 ≤ n.log2) :
    leadingDigits n = roundHalfEven n (2 ^ (n.log2 - 52)) := by
  have split : 2 ^ n.log2 = 2 ^ (n.log2 - 52) * 2 ^ 52 := by
    rw [← Nat.pow_add, Nat.sub_add_cancel many]
  rw [leadingDigits, split, roundHalfEven_scale (by decide)]

/-- A number of at most 53 binary digits is filled up to a mantissa. -/
private theorem round_short (positive : 0 < n) (few : n.log2 ≤ 52) :
    2 ^ 52 ≤ n * 2 ^ (52 - n.log2) ∧ n * 2 ^ (52 - n.log2) < 2 ^ 53 ∧
      ∃ filled, UnpackedFloat.round .binary64 .positive n 0 =
        .finite .positive (n * 2 ^ (52 - n.log2)) (n.log2 - 52) filled := by
  have digits : (n * 2 ^ (52 - n.log2)).log2 = 52 + 0 := by
    rw [log2_mul_two_pow positive]
    omega
  have filled : 0 < n * 2 ^ (52 - n.log2) := Nat.mul_pos positive (Nat.two_pow_pos _)
  obtain ⟨leading, short⟩ := (Nat.log2_eq_iff filled.ne').mp digits
  have target : Format.binary64.targetExponent (totalExponent n 0) = n.log2 - 52 := by
    change max ((n.log2 : Int) + 1 + 0 - (1 + 52)) (3 - 1024 - (1 + 52)) = n.log2 - 52
    omega
  have amount : (0 - ((n.log2 : Int) - 52)).toNat = 52 - n.log2 := by omega
  have exponent : (0 : Int) - (52 - n.log2 : Nat) = n.log2 - 52 := by omega
  have exact : roundHalfEven (n * 2 ^ (52 - n.log2)) (2 ^ 0) = n * 2 ^ (52 - n.log2) := by
    rw [Nat.pow_zero, roundHalfEven_one]
  refine ⟨leading, short, filled, ?_⟩
  simp only [UnpackedFloat.round, target, UnpackedFloat.decreaseExponent, amount, exponent,
    Nat.shiftLeft_eq]
  obtain ⟨-, ⟨_, -, same⟩ | ⟨_, full, -⟩⟩ :=
    Unpacked.roundWithAccuracy_eq (e := n.log2 - 52) .positive 0 digits (by omega)
  · rw [same]
    congr 1
    omega
  · omega

/-- A number of more binary digits goes through the scientific form. -/
private theorem ofNat_of_many (large : 2 ^ 53 ≤ n) :
    Float.ofNat n = .ofModel (Float.Model.pack
      (roundWithAccuracy .binary64 .positive (n * 2 ^ 53) (-53) .exact)) := by
  have through : Float.ofNat n = .ofModel (Float.Model.ofScientific n 0) := by
    unfold Float.ofNat OfScientific.ofScientific instOfScientificFloat Float.ofScientific
    dsimp only
    rw [dif_neg (by omega)]
    rfl
  have below : ¬ (0 : Int) < -((2 : Int) ^ 11 + n.log2) := by omega
  have unpacked : UnpackedFloat.ofScientific .binary64 n 0 =
      roundWithAccuracy .binary64 .positive ((n <<< 53) * 10 ^ 0) (-53 + 0) .exact := by
    unfold UnpackedFloat.ofScientific
    rw [dif_neg (by omega), if_neg (by decide), if_neg below, if_pos le_rfl]
    rfl
  rw [Nat.shiftLeft_eq, Nat.pow_zero, Nat.mul_one, Int.add_zero] at unpacked
  rw [through, ← unpacked]
  rfl

/-- A number of at most 53 binary digits is converted as a word and multiplied by one. -/
private theorem ofNat_of_few (positive : 0 < n) (small : n < 2 ^ 53) :
    Float.ofNat n = .ofModel (Float.Model.pack (roundWithAccuracy .binary64 .positive
      (n * 2 ^ (52 - n.log2) * 2 ^ 52) (n.log2 - 52 + -52) .exact)) := by
  have through : Float.ofNat n =
      n.toUInt64.toFloat * Float.ofBits 4607182418800017408 := by
    unfold Float.ofNat OfScientific.ofScientific instOfScientificFloat Float.ofScientific
    dsimp only
    rw [dif_pos ⟨small, by decide⟩]
    rfl
  have word : n.toUInt64.toNat = n := by
    change n % 2 ^ 64 = n
    omega
  have one : (Float.ofBits 4607182418800017408).toModel.unpack =
      .finite .positive (2 ^ 52) (-52) (by decide) := by rfl
  have few : n.log2 ≤ 52 := Nat.lt_succ_iff.mp ((Nat.log2_lt positive.ne').mpr small)
  obtain ⟨leading, short, filled, rounded⟩ := round_short positive few
  have converted : n.toUInt64.toFloat.toModel.unpack =
      .finite .positive (n * 2 ^ (52 - n.log2)) (n.log2 - 52) filled := by
    change (Float.Model.pack (UnpackedFloat.ofUInt64 .binary64 n.toUInt64)).unpack = _
    have compared : compare (n : Int) 0 = .gt := Int.compare_eq_gt.mpr (by omega)
    simp only [UnpackedFloat.ofUInt64, UnpackedFloat.ofNat, UnpackedFloat.ofInt,
      UnpackedFloat.normalize, word, compared, Int.toNat_natCast, rounded]
    exact Unpacked.unpack_pack_normal .positive filled leading short (by omega) (by omega)
  rw [through]
  change Float.ofModel (Float.Model.pack (UnpackedFloat.mul .binary64 _ _)) = _
  rw [converted, one]
  rfl

/-- The key of a whole number: its number of binary digits gives the exponent, and the leading 53
of them give the mantissa. -/
theorem Keyed.ofNat (positive : 0 < n) :
    Keyed (Float.ofNat n)
      (min (2047 * 2 ^ 52) ((n.log2 + 1022) * 2 ^ 52 + leadingDigits n)) := by
  by_cases small : n < 2 ^ 53
  · have few : n.log2 ≤ 52 := Nat.lt_succ_iff.mp ((Nat.log2_lt positive.ne').mpr small)
    have filled : 0 < n * 2 ^ (52 - n.log2) := Nat.mul_pos positive (Nat.two_pow_pos _)
    have digits : (n * 2 ^ (52 - n.log2) * 2 ^ 52).log2 = 52 + 52 := by
      rw [log2_mul_two_pow filled, log2_mul_two_pow positive]
      omega
    have exponent : (n.log2 : Int) - 52 + -52 + (52 : Nat) + 1074 = n.log2 + 1022 := by omega
    have keyed := Keyed.ofRounded .positive (e := n.log2 - 52 + -52) digits (by omega)
    rw [exponent, roundHalfEven_mul (Nat.two_pow_pos 52)] at keyed
    rw [ofNat_of_few positive small, leadingDigits_of_few few]
    exact keyed
  · have digits : (n * 2 ^ 53).log2 = 52 + (n.log2 + 1) := by
      rw [log2_mul_two_pow positive]
      omega
    have scaled : leadingDigits n = roundHalfEven (n * 2 ^ 53) (2 ^ (n.log2 + 1)) := by
      rw [leadingDigits, Nat.pow_succ 2 n.log2, Nat.pow_succ 2 52, ← Nat.mul_assoc,
        roundHalfEven_scale (by decide)]
    have exponent : (-53 : Int) + ((n.log2 + 1 : Nat) : Int) + 1074 = n.log2 + 1022 := by omega
    have keyed := Keyed.ofRounded .positive (e := -53) digits (by omega)
    rw [exponent] at keyed
    rw [ofNat_of_many (by omega), scaled]
    exact keyed

end Conversion

/-- The number that is left of a whole number when only its leading 53 binary digits are kept. It is
the nearest such number, and of two the one whose last digit is zero. -/
def roundedNat (n : Nat) : Nat := roundHalfEven n (2 ^ (n.log2 - 52)) * 2 ^ (n.log2 - 52)

/-- The place of a positive whole number among the floating point numbers. -/
def binaryPlace (n : Nat) : Nat := n.log2 * 2 ^ 52 + leadingDigits n

section RoundedNat

variable {m n : Nat}

/-- The leading digits and the power of two that goes with them. -/
theorem roundedNat_mul (n : Nat) : roundedNat n * 2 ^ 52 = leadingDigits n * 2 ^ n.log2 := by
  rw [roundedNat]
  rcases Nat.le_total n.log2 52 with few | many
  · have none : n.log2 - 52 = 0 := by omega
    rw [none, Nat.pow_zero, roundHalfEven_one, Nat.mul_one, leadingDigits_of_few few,
      Nat.mul_assoc, ← Nat.pow_add, Nat.sub_add_cancel few]
  · rw [leadingDigits_of_many many, Nat.mul_assoc, ← Nat.pow_add, Nat.sub_add_cancel many]

/-- The number at a place, in units that make it whole. -/
private def atPlace (place : Nat) : Nat := (2 ^ 52 + place % 2 ^ 52) * 2 ^ (place / 2 ^ 52)

private theorem atPlace_strictMono : StrictMono atPlace := by
  refine strictMono_nat_of_lt_succ fun place => ?_
  have power := Nat.two_pow_pos (place / 2 ^ 52)
  rw [atPlace, atPlace]
  by_cases last : place % 2 ^ 52 + 1 = 2 ^ 52
  · have next : (place + 1) % 2 ^ 52 = 0 := by omega
    have carried : (place + 1) / 2 ^ 52 = place / 2 ^ 52 + 1 := by omega
    rw [next, carried, pow_succ 2 (place / 2 ^ 52)]
    generalize 2 ^ (place / 2 ^ 52) = unit at power ⊢
    have most : place % 2 ^ 52 = 2 ^ 52 - 1 := by omega
    rw [most]
    omega
  · have next : (place + 1) % 2 ^ 52 = place % 2 ^ 52 + 1 := by omega
    have same : (place + 1) / 2 ^ 52 = place / 2 ^ 52 := by omega
    rw [next, same]
    exact Nat.mul_lt_mul_of_pos_right (by omega) power

private theorem atPlace_binaryPlace (positive : 0 < n) :
    atPlace (binaryPlace n) = roundedNat n * 2 ^ 53 := by
  obtain ⟨leading, short⟩ := leadingDigits_bounds positive
  have scaled := roundedNat_mul n
  rw [atPlace, binaryPlace]
  generalize leadingDigits n = r at *
  have doubled : roundedNat n * 2 ^ 53 = r * 2 ^ (n.log2 + 1) := by
    rw [pow_succ 2 52, pow_succ 2 n.log2, ← Nat.mul_assoc, ← Nat.mul_assoc, scaled]
  rw [doubled]
  by_cases full : r = 2 ^ 53
  · have rest : (n.log2 * 2 ^ 52 + r) % 2 ^ 52 = 0 := by omega
    have exponent : (n.log2 * 2 ^ 52 + r) / 2 ^ 52 = n.log2 + 1 + 1 := by omega
    rw [rest, exponent, full, pow_succ 2 (n.log2 + 1), Nat.add_zero, pow_succ 2 52, Nat.mul_assoc,
      Nat.mul_comm 2]
  · have rest : (n.log2 * 2 ^ 52 + r) % 2 ^ 52 = r - 2 ^ 52 := by omega
    have exponent : (n.log2 * 2 ^ 52 + r) / 2 ^ 52 = n.log2 + 1 := by omega
    rw [rest, exponent, Nat.add_sub_cancel' leading]

/-- Places are in the order of the rounded numbers. -/
theorem binaryPlace_le_iff (hm : 0 < m) (hn : 0 < n) :
    binaryPlace m ≤ binaryPlace n ↔ roundedNat m ≤ roundedNat n := by
  rw [← atPlace_strictMono.le_iff_le, atPlace_binaryPlace hm, atPlace_binaryPlace hn]
  exact Nat.mul_le_mul_right_iff (by decide)

theorem binaryPlace_mono (positive : 0 < m) (le : m ≤ n) : binaryPlace m ≤ binaryPlace n := by
  obtain ⟨-, short⟩ := leadingDigits_bounds positive
  obtain ⟨leading, -⟩ := leadingDigits_bounds (positive.trans_le le)
  rw [binaryPlace, binaryPlace]
  have digits : m.log2 ≤ n.log2 :=
    (Nat.le_log2 (positive.trans_le le).ne').mpr ((Nat.log2_self_le positive.ne').trans le)
  rcases Nat.lt_or_eq_of_le digits with less | same
  · omega
  · have mono := roundHalfEven_mono (d := 2 ^ n.log2) (Nat.mul_le_mul_right (2 ^ 52) le)
    rw [leadingDigits, leadingDigits, same]
    omega

theorem roundedNat_zero : roundedNat 0 = 0 := by decide

theorem roundedNat_mono (le : m ≤ n) : roundedNat m ≤ roundedNat n := by
  rcases Nat.eq_zero_or_pos m with rfl | positive
  · rw [roundedNat_zero]
    exact Nat.zero_le _
  · exact (binaryPlace_le_iff positive (positive.trans_le le)).mp (binaryPlace_mono positive le)

/-- Up to 53 binary digits nothing is lost. -/
theorem roundedNat_eq_self (small : n ≤ 2 ^ 53) : roundedNat n = n := by
  rcases Nat.lt_or_eq_of_le small with less | rfl
  · rcases Nat.eq_zero_or_pos n with rfl | positive
    · exact roundedNat_zero
    · have none : n.log2 - 52 = 0 := by
        have := (Nat.log2_lt positive.ne').mpr less
        omega
      rw [roundedNat, none, Nat.pow_zero, roundHalfEven_one, Nat.mul_one]
  · decide

theorem roundedNat_pos (positive : 0 < n) : 0 < roundedNat n := by
  have mono : roundedNat 1 ≤ roundedNat n := roundedNat_mono positive
  rwa [roundedNat_eq_self (by decide)] at mono

end RoundedNat

/-- Half of the last place of the largest floating point numbers. -/
def halfTopPlace : Nat := 2 ^ 970

/-- The least whole number that is too large for a floating point number: half a place less than
`2 ^ 1024`. -/
def leastTooLarge : Nat := (2 ^ 54 - 1) * halfTopPlace

theorem halfTopPlace_pos : 0 < halfTopPlace := by
  rw [halfTopPlace]
  positivity

theorem lt_leastTooLarge {n : Nat} (small : n ≤ 2 ^ 53) : n < leastTooLarge := by
  have unit := halfTopPlace_pos
  rw [leastTooLarge]
  omega

/-- The key of a natural number. Beyond the largest floating point number it is that of infinity. -/
def natKey (n : Nat) : Int :=
  if n = 0 then 0 else min (2047 * 2 ^ 52) (binaryPlace n + 1022 * 2 ^ 52)

section Keys

variable {m n : Nat}

theorem keyed_ofNat (n : Nat) : Keyed (Float.ofNat n) (natKey n) := by
  rw [natKey]
  split_ifs with zero
  · rw [zero]
    exact ⟨.zero .positive, .zero _, by decide +kernel, rfl⟩
  · have place : (binaryPlace n + 1022 * 2 ^ 52 : Int) =
        (n.log2 + 1022) * 2 ^ 52 + leadingDigits n := by
      rw [binaryPlace]
      push_cast
      omega
    rw [place]
    exact Keyed.ofNat (Nat.pos_of_ne_zero zero)

theorem natKey_nonneg (n : Nat) : 0 ≤ natKey n := by
  rw [natKey]
  split_ifs <;> omega

theorem natKey_pos (positive : 0 < n) : 0 < natKey n := by
  rw [natKey, if_neg positive.ne']
  omega

theorem natKey_mono (le : m ≤ n) : natKey m ≤ natKey n := by
  rcases Nat.eq_zero_or_pos m with rfl | positive
  · exact natKey_nonneg n
  · have places := binaryPlace_mono positive le
    rw [natKey, natKey, if_neg positive.ne', if_neg (positive.trans_le le).ne']
    omega

/-- The largest floating point number is less than half a unit below the bound. -/
theorem natKey_lt_iff (n : Nat) : natKey n < 2047 * 2 ^ 52 ↔ n < leastTooLarge := by
  have unit := halfTopPlace_pos
  -- The exponent is named, so that its power of two is not computed.
  obtain ⟨exponent, half, size⟩ : ∃ exponent, halfTopPlace = 2 ^ exponent ∧ exponent = 970 :=
    ⟨_, rfl, rfl⟩
  have top : 2 ^ (53 + exponent) = 2 ^ 53 * halfTopPlace := by
    rw [half, Nat.pow_add]
  rw [leastTooLarge]
  rcases Nat.eq_zero_or_pos n with rfl | positive
  · simp only [natKey, if_true]
    omega
  have place : natKey n < 2047 * 2 ^ 52 ↔ binaryPlace n < 1025 * 2 ^ 52 := by
    rw [natKey, if_neg positive.ne']
    omega
  obtain ⟨leading, short⟩ := leadingDigits_bounds positive
  obtain ⟨lower, upper⟩ := (Nat.log2_eq_iff positive.ne').mp rfl
  rw [place, binaryPlace]
  rcases Nat.lt_trichotomy n.log2 (53 + exponent) with less | same | more
  · have small := upper.trans_le (Nat.pow_le_pow_right Nat.two_pos less)
    rw [top] at small
    omega
  · -- Here the mantissa decides: rounding must not carry it to the next power of two.
    have reach := le_roundHalfEven_iff (a := n * 2 ^ 52) (q := 2 ^ 53) (Nat.two_pow_pos n.log2)
      (by decide) (by decide)
    rw [leadingDigits, same, top] at leading short ⊢
    rw [same, top] at reach
    omega
  · have big := (Nat.pow_le_pow_right Nat.two_pos more).trans lower
    rw [Nat.succ_eq_add_one, pow_succ, top] at big
    omega

/-- Below infinity the keys are in the order of the rounded numbers. -/
theorem natKey_le_iff (hm : m < leastTooLarge) (hn : n < leastTooLarge) :
    natKey m ≤ natKey n ↔ roundedNat m ≤ roundedNat n := by
  rw [← natKey_lt_iff] at hm hn
  rcases Nat.eq_zero_or_pos m with rfl | posM
  · rw [roundedNat_zero]
    exact iff_of_true (natKey_nonneg n) (Nat.zero_le _)
  rcases Nat.eq_zero_or_pos n with rfl | posN
  · have lost := roundedNat_pos posM
    have key := natKey_pos posM
    rw [roundedNat_zero]
    exact iff_of_false (by simp only [natKey, if_true]; omega) (by omega)
  · rw [← binaryPlace_le_iff posM posN]
    rw [natKey, if_neg posM.ne'] at hm ⊢
    rw [natKey, if_neg posN.ne'] at hn ⊢
    omega

end Keys

/-- A function of the size, with the sign. -/
def withSign (f : Nat → Int) : Int → Int
  | .ofNat n => f n
  | .negSucc n => -f (n + 1)

section WithSign

variable {f g : Nat → Int}

theorem withSign_mono (zero : f 0 = 0) (mono : Monotone f) : Monotone (withSign f) := by
  have nonneg : ∀ n, 0 ≤ f n := fun n => zero ▸ mono (Nat.zero_le n)
  intro m n le
  cases m with
  | ofNat m =>
    cases n with
    | ofNat n => exact mono (Int.ofNat_le.mp le)
    | negSucc n => exact absurd (Int.le_trans (Int.natCast_nonneg m) le) (by omega)
  | negSucc m =>
    cases n with
    | ofNat n => exact Int.le_trans (Int.neg_nonpos_of_nonneg (nonneg _)) (nonneg n)
    | negSucc n => exact Int.neg_le_neg (mono (by omega))

/-- Two functions of the size that order two sizes alike order the numbers alike. -/
theorem withSign_le_iff (hf : ∀ n, 0 ≤ f n ∧ 0 < f (n + 1)) (hg : ∀ n, 0 ≤ g n ∧ 0 < g (n + 1))
    {m n : Int} (forth : f m.natAbs ≤ f n.natAbs ↔ g m.natAbs ≤ g n.natAbs)
    (back : f n.natAbs ≤ f m.natAbs ↔ g n.natAbs ≤ g m.natAbs) :
    withSign f m ≤ withSign f n ↔ withSign g m ≤ withSign g n := by
  cases m with
  | ofNat m =>
    cases n with
    | ofNat n => exact forth
    | negSucc n =>
      have left := hf n
      have left' := hf m
      have right := hg n
      have right' := hg m
      simp only [withSign]
      omega
  | negSucc m =>
    cases n with
    | ofNat n =>
      have left := hf m
      have left' := hf n
      have right := hg m
      have right' := hg n
      simp only [withSign]
      omega
    | negSucc n =>
      simp only [Int.natAbs_negSucc, Nat.succ_eq_add_one] at back
      simp only [withSign]
      omega

end WithSign

/-- What a whole number becomes when only its leading 53 binary digits are kept. -/
def roundedInt (n : Int) : Int := withSign (fun size => roundedNat size) n

section WholeNumbers

variable {m n : Int}

theorem keyed_ofInt (n : Int) : Keyed (Float.ofInt n) (withSign natKey n) := by
  cases n with
  | ofNat n => exact keyed_ofNat n
  | negSucc n => exact (keyed_ofNat (n + 1)).neg

theorem isFiniteNumber_ofInt_iff (n : Int) :
    isFiniteNumber (Float.ofInt n) = true ↔ n.natAbs < leastTooLarge := by
  rw [isFiniteNumber_iff_key, (keyed_ofInt n).orderKey_eq, ← natKey_lt_iff]
  have nonneg := natKey_nonneg n.natAbs
  cases n with
  | ofNat n =>
    change -(2047 * 2 ^ 52) < natKey n ∧ natKey n < 2047 * 2 ^ 52 ↔ natKey n < 2047 * 2 ^ 52
    change 0 ≤ natKey n at nonneg
    omega
  | negSucc n =>
    change -(2047 * 2 ^ 52) < -natKey (n + 1) ∧ -natKey (n + 1) < 2047 * 2 ^ 52 ↔
      natKey (n + 1) < 2047 * 2 ^ 52
    change 0 ≤ natKey (n + 1) at nonneg
    omega

/-- Whole numbers that are not too large are ordered by what is left of them. -/
theorem orderKey_ofInt_le_iff (hm : m.natAbs < leastTooLarge) (hn : n.natAbs < leastTooLarge) :
    orderKey (Float.ofInt m) ≤ orderKey (Float.ofInt n) ↔ roundedInt m ≤ roundedInt n := by
  have rounded : ∀ n : Nat, 0 ≤ (roundedNat n : Int) ∧ 0 < (roundedNat (n + 1) : Int) :=
    fun n => ⟨Int.natCast_nonneg _, Int.natCast_pos.mpr (roundedNat_pos (Nat.succ_pos n))⟩
  rw [(keyed_ofInt m).orderKey_eq, (keyed_ofInt n).orderKey_eq]
  refine withSign_le_iff (fun n => ⟨natKey_nonneg n, natKey_pos (Nat.succ_pos n)⟩) rounded ?_ ?_
  · exact (natKey_le_iff hm hn).trans Int.ofNat_le.symm
  · exact (natKey_le_iff hn hm).trans Int.ofNat_le.symm

/-- Rounding keeps the order of whole numbers, though it may take different ones to the same. -/
theorem roundedInt_mono (le : m ≤ n) : roundedInt m ≤ roundedInt n :=
  withSign_mono (f := fun size => roundedNat size) (congrArg Int.ofNat roundedNat_zero)
    (fun _ _ sizes => Int.ofNat_le.mpr (roundedNat_mono sizes)) le

theorem roundedInt_eq_self (small : n.natAbs ≤ 2 ^ 53) : roundedInt n = n := by
  cases n with
  | ofNat n => exact congrArg Int.ofNat (roundedNat_eq_self small)
  | negSucc n => exact congrArg (fun size : Nat => -(size : Int)) (roundedNat_eq_self small)

/-- Whole numbers of 53 binary digits have different keys. -/
theorem orderKey_ofInt_lt_succ (lower : -2 ^ 53 ≤ n) (upper : n < 2 ^ 53) :
    orderKey (Float.ofInt n) < orderKey (Float.ofInt (n + 1)) := by
  have small : n.natAbs ≤ 2 ^ 53 := by omega
  have small' : (n + 1).natAbs ≤ 2 ^ 53 := by omega
  have order := orderKey_ofInt_le_iff (lt_leastTooLarge small') (lt_leastTooLarge small)
  rw [roundedInt_eq_self small, roundedInt_eq_self small'] at order
  omega

theorem orderKey_ofInt_mono (le : m ≤ n) : orderKey (Float.ofInt m) ≤ orderKey (Float.ofInt n) := by
  rw [(keyed_ofInt m).orderKey_eq, (keyed_ofInt n).orderKey_eq]
  exact withSign_mono (if_pos rfl) (fun _ _ sizes => natKey_mono sizes) le

/-- A whole number of 53 binary digits is compared exactly with every whole number. -/
theorem ofInt_le_ofInt_iff (small : m.natAbs < 2 ^ 53 ∨ n.natAbs < 2 ^ 53) :
    Float.ofInt m ≤ Float.ofInt n ↔ m ≤ n := by
  rw [← orderKey_le_iff (keyed_ofInt m).isNaN_eq_false (keyed_ofInt n).isNaN_eq_false]
  refine ⟨fun le => ?_, orderKey_ofInt_mono⟩
  by_contra more
  rcases small with small | small
  · have before := orderKey_ofInt_mono (m := n) (n := m - 1) (by omega)
    have step := orderKey_ofInt_lt_succ (n := m - 1) (by omega) (by omega)
    rw [Int.sub_add_cancel] at step
    omega
  · have step := orderKey_ofInt_lt_succ (n := n) (by omega) (by omega)
    have after := orderKey_ofInt_mono (m := n + 1) (n := m) (by omega)
    omega

end WholeNumbers

end MusicianGraph
