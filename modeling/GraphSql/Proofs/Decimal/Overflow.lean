import Mathlib
import GraphSql.Decimal.Binary64

/-!
# Where decimals overflow

The greatest finite number in double precision is `2 ^ 1024 - 2 ^ 971`. The next power of two has no
number, and what lies halfway to it or above is rounded to infinity: a decimal stands for a finite number
exactly if it is below `2 ^ 1024 - 2 ^ 970`. No decimal stands for an undefined result or has a sign.
-/

namespace GraphSql.Binary64

/-! ## Scaling -/

/-- A fraction with a power multiplied to its numerator or to its denominator, as the sign of the exponent
has it. -/
theorem cast_scaled {base : Nat} (positive : 0 < base) (numerator denominator : Nat) (exponent : Int) :
    ((numerator * Nat.pow base exponent.toNat : Nat) : ℚ) /
        (denominator * Nat.pow base (-exponent).toNat : Nat) =
      numerator / denominator * (base : ℚ) ^ exponent := by
  have notZero : (base : ℚ) ≠ 0 := Nat.cast_ne_zero.2 positive.ne'
  have power : (base : ℚ) ^ exponent = (base : ℚ) ^ exponent.toNat / (base : ℚ) ^ (-exponent).toNat := by
    rw [← zpow_natCast, ← zpow_natCast, ← zpow_sub₀ notZero]
    congr 1
    omega
  rw [power]
  push_cast [Nat.pow_eq]
  rw [div_mul_div_comm]

/-! ## Rounding a quotient -/

section Quotient

variable {numerator denominator bound : Nat}

theorem roundedQuotient_le (positive : 0 < denominator) (below : numerator ≤ bound * denominator) :
    roundedQuotient numerator denominator ≤ bound := by
  have quotient : numerator / denominator ≤ bound := Nat.div_le_of_le_mul (Nat.mul_comm _ _ ▸ below)
  have exact (reached : numerator / denominator = bound) : numerator % denominator = 0 := by
    have parts := Nat.div_add_mod numerator denominator
    rw [reached, Nat.mul_comm] at parts
    omega
  simp only [roundedQuotient]
  split
  · exact quotient
  · rename_i half
    have strict : numerator / denominator < bound := by
      refine quotient.lt_of_ne fun reached => half ?_
      rw [exact reached]
      exact positive
    split <;> omega

theorem le_roundedQuotient (positive : 0 < denominator) (above : bound * denominator ≤ numerator) :
    bound ≤ roundedQuotient numerator denominator := by
  have quotient : bound ≤ numerator / denominator := (Nat.le_div_iff_mul_le positive).2 above
  simp only [roundedQuotient]
  split
  · exact quotient
  · split <;> omega

/-- An even number is reached from halfway below it. -/
theorem le_roundedQuotient_iff (positive : 0 < denominator) (even : bound % 2 = 0) :
    bound ≤ roundedQuotient numerator denominator ↔
      2 * bound * denominator ≤ 2 * numerator + denominator := by
  rcases le_or_gt (bound * denominator) numerator with above | below
  · exact iff_of_true (le_roundedQuotient positive above) (by linarith)
  obtain ⟨less, rfl⟩ : ∃ less, bound = less + 1 :=
    Nat.exists_eq_succ_of_ne_zero (by rintro rfl; simp at below)
  have expand : 2 * (less + 1) * denominator = 2 * (less * denominator) + 2 * denominator := by ring
  rw [expand]
  rcases le_or_gt numerator (less * denominator) with atMost | between
  · have bounded := roundedQuotient_le positive atMost
    exact iff_of_false (by omega) (by omega)
  · have reached : numerator / denominator = less :=
      Nat.div_eq_of_lt_le between.le below
    have parts := Nat.div_add_mod numerator denominator
    rw [reached, Nat.mul_comm] at parts
    have half : 2 * (less * denominator) + 2 * denominator ≤ 2 * numerator + denominator ↔
        denominator ≤ 2 * (numerator % denominator) := by omega
    rw [half]
    simp only [roundedQuotient, reached]
    split
    · omega
    · split <;> omega

end Quotient

/-! ## The binary exponent -/

theorem log2_bounds {number : Nat} (positive : 0 < number) :
    (2 : ℚ) ^ (number.log2 : Int) ≤ number ∧ (number : ℚ) < 2 ^ ((number.log2 : Int) + 1) := by
  have above : number < 2 ^ (number.log2 + 1) := Nat.lt_log2_self
  have below : 2 ^ number.log2 ≤ number := Nat.log2_self_le positive.ne'
  rw [← Nat.cast_succ, zpow_natCast, zpow_natCast]
  exact ⟨mod_cast below, mod_cast above⟩

/-- The binary exponent is that of the greatest power of two which is not above the fraction. -/
theorem binaryExponent_spec {numerator denominator : Nat} (positive : 0 < numerator)
    (positiveDenominator : 0 < denominator) :
    (2 : ℚ) ^ binaryExponent numerator denominator ≤ numerator / denominator ∧
      (numerator / denominator : ℚ) < 2 ^ (binaryExponent numerator denominator + 1) := by
  have two : (2 : ℚ) ≠ 0 := two_ne_zero
  have isPositive : (0 : ℚ) < denominator := Nat.cast_pos.2 positiveDenominator
  obtain ⟨low, high⟩ := log2_bounds positive
  obtain ⟨lowDenominator, highDenominator⟩ := log2_bounds positiveDenominator
  unfold binaryExponent
  simp only
  generalize isGuess : (numerator.log2 : Int) - denominator.log2 = guess
  have guessed : (numerator.log2 : Int) = guess + denominator.log2 := by omega
  rw [guessed] at low high
  have compare : denominator * Nat.pow 2 guess.toNat ≤ numerator * Nat.pow 2 (-guess).toNat ↔
      (2 : ℚ) ^ guess ≤ numerator / denominator := by
    have scaled := cast_scaled (by decide : 0 < 2) denominator numerator guess
    have positiveScaled : 0 < numerator * Nat.pow 2 (-guess).toNat :=
      Nat.mul_pos positive (Nat.pow_pos (by decide))
    rw [← Nat.cast_le (α := ℚ), ← div_le_one (Nat.cast_pos.2 positiveScaled), scaled, le_div_iff₀ isPositive,
      div_mul_eq_mul_div, div_le_one (Nat.cast_pos.2 positive), mul_comm]
    rfl
  split
  · rename_i fits
    refine ⟨compare.1 fits, ?_⟩
    rw [div_lt_iff₀ isPositive]
    calc (numerator : ℚ) < 2 ^ (guess + denominator.log2 + 1) := high
      _ = 2 ^ (guess + 1) * 2 ^ (denominator.log2 : Int) := by rw [← zpow_add₀ two]; congr 1; ring
      _ ≤ 2 ^ (guess + 1) * denominator := by gcongr
  · rename_i tooGreat
    rw [compare, not_le] at tooGreat
    refine ⟨?_, by rwa [Int.sub_add_cancel]⟩
    rw [le_div_iff₀ isPositive]
    calc (2 : ℚ) ^ (guess - 1) * denominator ≤ 2 ^ (guess - 1) * 2 ^ ((denominator.log2 : Int) + 1) := by
          gcongr
      _ = 2 ^ (guess + denominator.log2) := by rw [← zpow_add₀ two]; congr 1; ring
      _ ≤ numerator := low

/-! ## Overflow -/

/-- A number without a sign that is not above infinity. -/
def IsPlain (number : Binary64) : Prop :=
  number.isUndefined = false ∧ number.isNegative = false

section Magnitude

variable {size : Nat}

theorem toNat_ofNat (fits : size ≤ infiniteMagnitude) : (UInt64.ofNat size).toNat = size := by
  rw [UInt64.toNat_ofNat']
  exact Nat.mod_eq_of_lt (fits.trans_lt (by decide))

theorem magnitude_ofNat (fits : size ≤ infiniteMagnitude) : magnitude ⟨UInt64.ofNat size⟩ = size := by
  rw [magnitude, toNat_ofNat fits]
  exact Nat.mod_eq_of_lt (fits.trans_lt (by decide))

theorem isPlain_ofNat (fits : size ≤ infiniteMagnitude) : IsPlain ⟨UInt64.ofNat size⟩ := by
  have noSign : infiniteMagnitude < 0x8000000000000000 := by decide
  refine ⟨decide_eq_false ?_, decide_eq_false ?_⟩
  · rw [magnitude_ofNat fits]
    exact fits.not_gt
  · rw [toNat_ofNat fits]
    omega

theorem isFinite_ofNat (fits : size ≤ infiniteMagnitude) :
    isFinite ⟨UInt64.ofNat size⟩ = true ↔ size < infiniteMagnitude := by
  rw [isFinite, magnitude_ofNat fits, decide_eq_true_iff]

end Magnitude

section Fraction

variable {numerator denominator : Nat}

theorem isPlain_ofFraction : IsPlain (ofFraction numerator denominator) := by
  unfold ofFraction
  split
  · exact @isPlain_ofNat 0 (Nat.zero_le _)
  · exact isPlain_ofNat (Nat.min_le_right _ _)

/-- Halfway between the greatest finite number and the next power of two. -/
theorem limit_eq : (2 : ℚ) ^ 1024 - 2 ^ 970 = (2 ^ 54 - 1) * 2 ^ 970 := by
  rw [sub_mul, ← pow_add, one_mul]

section Significand

variable {top bottom : Nat} {value : ℚ} {leading exponent : Int} (positive : 0 < bottom)
  (scaled : (top / bottom : ℚ) = value * 2 ^ (-exponent))
include positive scaled

/-- Below a power of two the significand needs no more bits than are between it and the unit. -/
theorem roundedQuotient_le_of_lt (high : value < 2 ^ (leading + 1)) (fits : leading + 1 - exponent ≤ 53) :
    roundedQuotient top bottom ≤ 2 ^ 53 := by
  apply roundedQuotient_le positive
  rw [← Nat.cast_le (α := ℚ), Nat.cast_mul, ← div_le_iff₀ (Nat.cast_pos.2 positive), scaled]
  calc value * 2 ^ (-exponent) ≤ 2 ^ (leading + 1) * 2 ^ (-exponent) := by gcongr
    _ = 2 ^ (leading + 1 - exponent) := by rw [← zpow_add₀ two_ne_zero]; rfl
    _ ≤ 2 ^ (53 : ℤ) := zpow_le_zpow_right₀ one_le_two fits
    _ = (2 ^ 53 : Nat) := by norm_cast

theorem le_roundedQuotient_of_le (low : 2 ^ leading ≤ value) (reaches : 52 ≤ leading - exponent) :
    2 ^ 52 ≤ roundedQuotient top bottom := by
  apply le_roundedQuotient positive
  rw [← Nat.cast_le (α := ℚ), Nat.cast_mul, ← le_div_iff₀ (Nat.cast_pos.2 positive), scaled]
  calc ((2 ^ 52 : Nat) : ℚ) = 2 ^ (52 : ℤ) := by norm_cast
    _ ≤ 2 ^ (leading - exponent) := zpow_le_zpow_right₀ one_le_two reaches
    _ = 2 ^ leading * 2 ^ (-exponent) := by rw [← zpow_add₀ two_ne_zero]; rfl
    _ ≤ value * 2 ^ (-exponent) := by gcongr

/-- With the last exponent the significand is rounded up to the next power of two from the limit on. -/
theorem le_roundedQuotient_iff_of_last (last : exponent = 971) :
    2 ^ 53 ≤ roundedQuotient top bottom ↔ (2 : ℚ) ^ 1024 - 2 ^ 970 ≤ value := by
  subst last
  have unit : (2 : ℚ) ^ (-971 : ℤ) = 1 / (2 * 2 ^ 970) := by
    rw [zpow_neg, ← pow_succ', one_div]
    rfl
  have half : 2 * 2 ^ 53 * bottom ≤ 2 * top + bottom ↔ (2 ^ 54 - 1 : ℚ) / 2 ≤ top / bottom := by
    rw [le_div_iff₀ (Nat.cast_pos.2 positive), ← Nat.cast_le (α := ℚ)]
    push_cast
    constructor <;> intro <;> linarith
  have powerPositive : (0 : ℚ) < 2 * 2 ^ 970 := by positivity
  rw [le_roundedQuotient_iff positive (by decide), half, scaled, unit, mul_one_div,
    le_div_iff₀ powerPositive, limit_eq, ← mul_assoc, div_mul_cancel₀ _ two_ne_zero]

end Significand

/-- A fraction overflows from halfway between the greatest finite number and the next power of two. -/
theorem isFinite_ofFraction (positive : 0 < numerator) (positiveDenominator : 0 < denominator) :
    (ofFraction numerator denominator).isFinite = true ↔
      (numerator / denominator : ℚ) < 2 ^ 1024 - 2 ^ 970 := by
  obtain ⟨low, high⟩ := binaryExponent_spec positive positiveDenominator
  rw [ofFraction, if_neg positive.ne']
  simp only
  generalize binaryExponent numerator denominator = leading at low high ⊢
  generalize isExponent : max (leading - 52) (-1074) = exponent
  have scaled := cast_scaled (by decide : 0 < 2) numerator denominator (-exponent)
  rw [neg_neg, Nat.cast_ofNat] at scaled
  have positiveScaled : 0 < denominator * Nat.pow 2 exponent.toNat :=
    Nat.mul_pos positiveDenominator (Nat.pow_pos (by decide))
  generalize numerator * Nat.pow 2 (-exponent).toNat = top at scaled ⊢
  generalize denominator * Nat.pow 2 exponent.toNat = bottom at scaled positiveScaled ⊢
  generalize (numerator / denominator : ℚ) = value at low high scaled ⊢
  rw [isFinite_ofNat (Nat.min_le_right _ _)]
  rcases lt_trichotomy leading 1023 with small | rfl | great
  · -- Below the last power of two there is room for the greatest significand.
    have limited : value < 2 ^ 1024 - 2 ^ 970 := by
      calc value < 2 ^ (leading + 1) := high
        _ ≤ 2 ^ ((53 + 970 : Nat) : ℤ) := zpow_le_zpow_right₀ one_le_two (by omega)
        _ = 2 ^ 53 * 2 ^ 970 := by rw [zpow_natCast, pow_add]
        _ < (2 ^ 54 - 1) * 2 ^ 970 := by gcongr; norm_num
        _ = 2 ^ 1024 - 2 ^ 970 := limit_eq.symm
    have rounded := roundedQuotient_le_of_lt positiveScaled scaled high (by omega)
    refine iff_of_true ?_ limited
    simp only [leadingBit, infiniteMagnitude]
    omega
  · -- With the last exponent the significand must not be rounded up to the next power of two.
    rw [← not_le, ← not_le, ← le_roundedQuotient_iff_of_last positiveScaled scaled (by omega)]
    obtain rfl : exponent = 971 := by omega
    simp only [leadingBit, infiniteMagnitude]
    omega
  · -- Above the last power of two the least significand is too great.
    have unlimited : (2 : ℚ) ^ 1024 - 2 ^ 970 < value := by
      calc (2 : ℚ) ^ 1024 - 2 ^ 970 < 2 ^ 1024 := sub_lt_self _ (by positivity)
        _ = 2 ^ ((1024 : Nat) : ℤ) := (zpow_natCast _ _).symm
        _ ≤ 2 ^ leading := zpow_le_zpow_right₀ one_le_two (by omega)
        _ ≤ value := low
    have rounded := le_roundedQuotient_of_le positiveScaled scaled low (by omega)
    refine iff_of_false ?_ unlimited.not_gt
    simp only [leadingBit, infiniteMagnitude]
    omega

end Fraction

section Decimal

variable {mantissa : Nat} {exponent : Int}

/-- The count of digits says between which powers of ten a number lies. -/
theorem toDigits_bounds (positive : 0 < mantissa) :
    (10 : ℚ) ^ (((Nat.toDigits 10 mantissa).length : ℤ) - 1) ≤ mantissa ∧
      (mantissa : ℚ) < 10 ^ ((Nat.toDigits 10 mantissa).length : ℤ) := by
  obtain ⟨more, length⟩ : ∃ more, (Nat.toDigits 10 mantissa).length = more + 1 :=
    Nat.exists_eq_succ_of_ne_zero (List.length_pos_of_ne_nil Nat.toDigits_ne_nil).ne'
  have above : mantissa < 10 ^ (more + 1) :=
    (Nat.length_toDigits_le_iff (by decide) more.succ_pos).1 length.le
  have below : 10 ^ more ≤ mantissa := by
    rcases more.eq_zero_or_pos with rfl | hasMore
    · exact positive
    · rw [← not_lt, ← Nat.length_toDigits_le_iff (by decide) hasMore, length]
      exact Nat.not_succ_le_self more
  rw [length, Nat.cast_succ, add_sub_cancel_right, ← Nat.cast_succ, zpow_natCast, zpow_natCast]
  exact ⟨mod_cast below, mod_cast above⟩

theorem isPlain_ofDecimal (mantissa : Nat) (exponent : Int) : IsPlain (ofDecimal mantissa exponent) := by
  simp only [ofDecimal]
  split
  · exact @isPlain_ofNat 0 (Nat.zero_le _)
  · split
    · exact isPlain_ofNat le_rfl
    · exact isPlain_ofFraction

/-- A decimal stands for a finite number exactly if it is nearer to the greatest one than to the power of
two above. -/
theorem isFinite_ofDecimal (mantissa : Nat) (exponent : Int) :
    (ofDecimal mantissa exponent).isFinite = true ↔ (mantissa : ℚ) * 10 ^ exponent < 2 ^ 1024 - 2 ^ 970 := by
  have ten : (10 : ℚ) ≠ 0 := by norm_num
  have zeroFinite : isFinite ⟨0⟩ = true := by decide
  have limitPositive : (1 : ℚ) < (2 ^ 54 - 1) * 2 ^ 970 := by
    calc (1 : ℚ) < (2 ^ 54 - 1) * 1 := by norm_num
      _ ≤ (2 ^ 54 - 1) * 2 ^ 970 := by gcongr; exact one_le_pow₀ one_le_two
  rcases mantissa.eq_zero_or_pos with rfl | positive
  · refine iff_of_true zeroFinite ?_
    rw [limit_eq, Nat.cast_zero, zero_mul]
    exact zero_lt_one.trans limitPositive
  obtain ⟨low, high⟩ := toDigits_bounds positive
  simp only [ofDecimal, positive.ne', false_or]
  generalize ((Nat.toDigits 10 mantissa).length : ℤ) = length at low high ⊢
  split
  · rename_i tiny
    refine iff_of_true zeroFinite ?_
    rw [limit_eq]
    calc (mantissa : ℚ) * 10 ^ exponent ≤ 10 ^ length * 10 ^ exponent := by gcongr
      _ = 10 ^ (length + exponent) := (zpow_add₀ ten _ _).symm
      _ ≤ 10 ^ (0 : ℤ) := zpow_le_zpow_right₀ (by norm_num) (by omega)
      _ < (2 ^ 54 - 1) * 2 ^ 970 := by rwa [zpow_zero]
  split
  · rename_i huge
    refine iff_of_false (by decide) (not_lt.2 ?_)
    calc (2 : ℚ) ^ 1024 - 2 ^ 970 ≤ 2 ^ 1024 := sub_le_self _ (by positivity)
      _ ≤ 10 ^ ((309 : Nat) : ℤ) := by
          rw [zpow_natCast]
          exact_mod_cast (by decide +kernel : 2 ^ 1024 ≤ 10 ^ 309)
      _ ≤ 10 ^ (length - 1 + exponent) := zpow_le_zpow_right₀ (by norm_num) (by omega)
      _ = 10 ^ (length - 1) * 10 ^ exponent := zpow_add₀ ten _ _
      _ ≤ mantissa * 10 ^ exponent := by gcongr
  · have power (exponent : Nat) : 0 < Nat.pow 10 exponent := Nat.pow_pos (by decide)
    have scaled := cast_scaled (by decide : 0 < 10) mantissa 1 exponent
    rw [one_mul, Nat.cast_one, div_one] at scaled
    rw [isFinite_ofFraction (Nat.mul_pos positive (power _)) (power _), scaled]
    rfl

end Decimal

end GraphSql.Binary64
