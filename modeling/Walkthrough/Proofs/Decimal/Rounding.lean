import Mathlib

/-!
# How doubles round

A rational number that lies between the two halfway points around a double is rounded to that
double (`Walkthrough.Decimal.roundWithAccuracy_eq`), however it was cut into a mantissa, an exponent
and what is known of the rest.
-/

namespace Walkthrough.Decimal

open Float.Model Float.Model.UnpackedFloat

/-- What an accuracy says of the part that was cut off, in units of the last place. -/
def Tells (accuracy : Accuracy) (part : ℚ) : Prop :=
  match accuracy with
  | .exact => part = 0
  | .inexact .lt => 0 < part ∧ part < 1 / 2
  | .inexact .eq => part = 1 / 2
  | .inexact .gt => 1 / 2 < part ∧ part < 1

theorem Tells.bounds {accuracy : Accuracy} {part : ℚ} (tells : Tells accuracy part) :
    0 ≤ part ∧ part < 1 := by
  unfold Tells at tells
  split at tells
  all_goals constructor <;> linarith

/-- An extended mantissa is what a value was cut to: the round bit counts a half, and the sticky bit
tells whether there is more. -/
def Cuts (cut : ExtendedMantissa) (value : ℚ) : Prop :=
  let rest := value - cut.mantissa - cut.roundBit.toNat / 2
  0 ≤ rest ∧ rest < 1 / 2 ∧ (cut.stickyBit = true ↔ 0 < rest)

/-- A whole number is the nearest to a value, and even if another one is as near. -/
def Nearest (n : ℕ) (value : ℚ) : Prop :=
  if n % 2 = 0 then (n : ℚ) - 1 / 2 ≤ value ∧ value ≤ n + 1 / 2
  else (n : ℚ) - 1 / 2 < value ∧ value < n + 1 / 2

section Cutting

variable {value : ℚ}

theorem Nearest.bounds {n : ℕ} (nearest : Nearest n value) :
    (n : ℚ) - 1 / 2 ≤ value ∧ value ≤ n + 1 / 2 := by
  unfold Nearest at nearest
  split at nearest
  · exact nearest
  · exact ⟨nearest.1.le, nearest.2.le⟩

theorem Nearest.eq_of_lt_half {n m : ℕ} (nearest : Nearest n value) (low : (m : ℚ) ≤ value)
    (high : value < m + 1 / 2) : n = m := by
  obtain ⟨least, most⟩ := nearest.bounds
  have above : (m : ℚ) < n + 1 := by linarith
  have below : (n : ℚ) < m + 1 := by linarith
  have less : n < m + 1 := by exact_mod_cast below
  have more : m < n + 1 := by exact_mod_cast above
  omega

theorem Nearest.eq_of_half_lt {n m : ℕ} (nearest : Nearest n value)
    (low : (m : ℚ) + 1 / 2 < value) (high : value < m + 1) : n = m + 1 := by
  obtain ⟨least, most⟩ := nearest.bounds
  have above : (m : ℚ) < n := by linarith
  have below : (n : ℚ) < m + 2 := by linarith
  have less : n < m + 2 := by exact_mod_cast below
  have more : m < n := by exact_mod_cast above
  omega

/-- Only a value halfway between two whole numbers is as near to both, and then the even one
counts. -/
theorem Nearest.eq_of_half {n m : ℕ} (nearest : Nearest n value) (half : value = m + 1 / 2) :
    n = m + m % 2 := by
  obtain ⟨least, most⟩ := nearest.bounds
  have low : n ≤ m + 1 := by
    have : (n : ℚ) ≤ m + 1 := by linarith
    exact_mod_cast this
  have high : m ≤ n := by
    have : (m : ℚ) ≤ n := by linarith
    exact_mod_cast this
  unfold Nearest at nearest
  split at nearest
  · omega
  · have below : (n : ℚ) < m + 1 := by linarith
    have above : (m : ℚ) < n := by linarith
    have less : n < m + 1 := by exact_mod_cast below
    have more : m < n := by exact_mod_cast above
    omega

theorem cuts_ofMantissaAndAccuracy {mantissa : ℕ} {accuracy : Accuracy}
    (tells : Tells accuracy (value - mantissa)) :
    Cuts (ExtendedMantissa.ofMantissaAndAccuracy mantissa accuracy) value := by
  unfold Tells at tells
  split at tells
  all_goals
    simp only [Cuts, ExtendedMantissa.ofMantissaAndAccuracy, Bool.toNat_false, Bool.toNat_true,
      Nat.cast_zero, Nat.cast_one]
  · exact ⟨by linarith, by linarith, iff_of_false Bool.false_ne_true (by linarith)⟩
  · exact ⟨by linarith, by linarith, iff_of_true trivial (by linarith)⟩
  · exact ⟨by linarith, by linarith, iff_of_false Bool.false_ne_true (by linarith)⟩
  · exact ⟨by linarith, by linarith, iff_of_true trivial (by linarith)⟩

/-- Halving a value shifts what it was cut to: the last bit of the mantissa becomes the round bit,
and the sticky bit collects the bits behind it. -/
theorem Cuts.shiftRightOne {cut : ExtendedMantissa} (cuts : Cuts cut value) :
    Cuts cut.shiftRightOne (value / 2) := by
  obtain ⟨mantissa, round, sticky⟩ := cut
  obtain ⟨least, most, more⟩ := cuts
  have halved : value / 2 - (mantissa / 2 : ℕ) - (mantissa % 2 != 0).toNat / 2 =
      (value - mantissa) / 2 := by
    have whole : mantissa = 2 * (mantissa / 2) + (mantissa % 2 != 0).toNat := by
      rcases Nat.mod_two_eq_zero_or_one mantissa with even | odd
      · rw [even]
        simp only [bne_self_eq_false, Bool.toNat_false]
        omega
      · rw [odd]
        have bit : (1 != 0 : Bool).toNat = 1 := rfl
        omega
    have cast : (mantissa : ℚ) = 2 * (mantissa / 2 : ℕ) + (mantissa % 2 != 0).toNat := by
      exact_mod_cast whole
    linarith
  simp only [Cuts, ExtendedMantissa.shiftRightOne, halved]
  cases round with
  | false =>
      simp only [Bool.toNat_false, Bool.false_or, Nat.cast_zero, zero_div, sub_zero]
        at least most more ⊢
      refine ⟨by linarith, by linarith, more.trans ?_⟩
      constructor <;> intro <;> linarith
  | true =>
      simp only [Bool.toNat_true, Bool.true_or, true_iff, Nat.cast_one] at least most more ⊢
      exact ⟨by linarith, by linarith, by linarith⟩

theorem Cuts.shiftRight {cut : ExtendedMantissa} (cuts : Cuts cut value) (count : ℕ) :
    Cuts (cut >>> count) (value / 2 ^ count) := by
  induction count with
  | zero =>
      rw [pow_zero, div_one]
      exact cuts
  | succ count ih =>
      rw [pow_succ, ← div_div]
      exact ih.shiftRightOne

/-- What a value was cut to is rounded to the whole number that is nearest to the value. -/
theorem Cuts.roundedMantissa_eq {cut : ExtendedMantissa} {n : ℕ} (cuts : Cuts cut value)
    (nearest : Nearest n value) : cut.roundedMantissa = n := by
  obtain ⟨mantissa, round, sticky⟩ := cut
  obtain ⟨least, most, more⟩ := cuts
  cases round with
  | false =>
      simp only [Bool.toNat_false, Nat.cast_zero, zero_div, sub_zero] at least most more
      have same := nearest.eq_of_lt_half (by linarith) (by linarith)
      cases sticky with
      | false => exact same.symm
      | true => exact same.symm
  | true =>
      simp only [Bool.toNat_true, Nat.cast_one] at least most more
      cases sticky with
      | false =>
          have none : ¬ 0 < value - mantissa - 1 / 2 :=
            fun some => Bool.false_ne_true (more.mpr some)
          exact (nearest.eq_of_half (by linarith)).symm
      | true =>
          have some := more.mp rfl
          exact (nearest.eq_of_half_lt (by linarith) (by linarith)).symm

end Cutting

/-- The mantissa and the exponent of a double that is not zero. -/
structure IsDouble (mantissa : ℕ) (exponent : ℤ) : Prop where
  pos : 0 < mantissa
  small : mantissa < 2 ^ 53
  full : 2 ^ 52 ≤ mantissa ∨ exponent = -1074
  least : -1074 ≤ exponent
  most : exponent ≤ 971

/-- The least value that rounds to a double, in units of its last place: halfway to the double
below, which is nearer than the one above at a power of two. -/
def lowerHalf (mantissa : ℕ) (exponent : ℤ) : ℚ :=
  if mantissa = 2 ^ 52 ∧ -1074 < exponent then mantissa - 1 / 4 else mantissa - 1 / 2

/-- A value rounds to a double: it lies between the halfway points around it, and is one of them
only if the mantissa is even. -/
def Near (mantissa : ℕ) (exponent : ℤ) (value : ℚ) : Prop :=
  if mantissa % 2 = 0 then
    lowerHalf mantissa exponent * 2 ^ exponent ≤ value ∧ value ≤ (mantissa + 1 / 2) * 2 ^ exponent
  else
    lowerHalf mantissa exponent * 2 ^ exponent < value ∧ value < (mantissa + 1 / 2) * 2 ^ exponent

section Rounding

variable {mantissa : ℕ} {exponent : ℤ} {value : ℚ}

theorem lowerHalf_le (mantissa : ℕ) (exponent : ℤ) :
    (mantissa : ℚ) - 1 / 2 ≤ lowerHalf mantissa exponent := by
  unfold lowerHalf
  split <;> linarith

theorem Near.bounds (near : Near mantissa exponent value) :
    lowerHalf mantissa exponent * 2 ^ exponent ≤ value ∧
      value ≤ (mantissa + 1 / 2) * 2 ^ exponent := by
  unfold Near at near
  split at near
  · exact near
  · exact ⟨near.1.le, near.2.le⟩

theorem near_self (mantissa : ℕ) (exponent : ℤ) :
    Near mantissa exponent (mantissa * 2 ^ exponent) := by
  have unit : (0 : ℚ) < 2 ^ exponent := by positivity
  have below : lowerHalf mantissa exponent * 2 ^ exponent < mantissa * 2 ^ exponent := by
    apply mul_lt_mul_of_pos_right _ unit
    unfold lowerHalf
    split <;> linarith
  have above : (mantissa : ℚ) * 2 ^ exponent < (mantissa + 1 / 2) * 2 ^ exponent :=
    mul_lt_mul_of_pos_right (by linarith) unit
  unfold Near
  split
  · exact ⟨below.le, above.le⟩
  · exact ⟨below, above⟩

/-- In units of the last place of the double, its mantissa is the nearest whole number. -/
theorem Near.nearest (near : Near mantissa exponent value) :
    Nearest mantissa (value / 2 ^ exponent) := by
  have unit : (0 : ℚ) < 2 ^ exponent := by positivity
  have low := mul_le_mul_of_nonneg_right (lowerHalf_le mantissa exponent) unit.le
  unfold Near at near
  unfold Nearest
  split at near
  · next even =>
      rw [if_pos even, le_div_iff₀ unit, div_le_iff₀ unit]
      exact ⟨low.trans near.1, near.2⟩
  · next odd =>
      rw [if_neg odd, lt_div_iff₀ unit, div_lt_iff₀ unit]
      exact ⟨low.trans_lt near.1, near.2⟩

theorem targetExponent_eq (m : ℕ) (e : ℤ) :
    Format.binary64.targetExponent (totalExponent m e) = max (m.log2 + e - 52) (-1074) := by
  simp only [Format.targetExponent, totalExponent, Format.mantissaBits, Format.minExponent]
  norm_num
  omega

theorem lt_of_two_zpow_lt {a b : ℤ} (less : (2 : ℚ) ^ a < 2 ^ b) : a < b :=
  (zpow_lt_zpow_iff_right₀ one_lt_two).mp less

theorem two_pow_mul_zpow (n : ℕ) (e : ℤ) : (2 : ℚ) ^ n * 2 ^ e = 2 ^ ((n : ℤ) + e) := by
  rw [zpow_add₀ two_ne_zero, zpow_natCast]

/-- A value that is near a double is below the power of two that no double of its exponent
reaches. -/
theorem Near.lt_of_two_zpow_le {e : ℤ} (near : Near mantissa exponent value)
    (double : IsDouble mantissa exponent) (below : 2 ^ e ≤ value) : e < 53 + exponent := by
  have unit : (0 : ℚ) < 2 ^ exponent := by positivity
  have small : (mantissa : ℚ) + 1 ≤ 2 ^ 53 := by exact_mod_cast double.small
  apply lt_of_two_zpow_lt
  calc
    (2 : ℚ) ^ e ≤ value := below
    _ ≤ (mantissa + 1 / 2) * 2 ^ exponent := near.bounds.2
    _ < 2 ^ 53 * 2 ^ exponent := mul_lt_mul_of_pos_right (by linarith) unit
    _ = 2 ^ (53 + exponent) := two_pow_mul_zpow 53 exponent

/-- A value that is near a double reaches every power of two that lies below what rounds to it. -/
theorem Near.lt_of_lt_two_zpow {n : ℕ} {e : ℤ} (near : Near mantissa exponent value)
    (reaches : (2 : ℚ) ^ n ≤ lowerHalf mantissa exponent) (above : value < 2 ^ e) :
    n + exponent < e := by
  have unit : (0 : ℚ) < 2 ^ exponent := by positivity
  apply lt_of_two_zpow_lt
  calc
    (2 : ℚ) ^ ((n : ℤ) + exponent) = 2 ^ n * 2 ^ exponent := (two_pow_mul_zpow n exponent).symm
    _ ≤ lowerHalf mantissa exponent * 2 ^ exponent := mul_le_mul_of_nonneg_right reaches unit.le
    _ ≤ value := near.bounds.1
    _ < 2 ^ e := above

/-- A value that was cut to a mantissa lies between two powers of two. -/
theorem bounds_of_tells {m : ℕ} {e : ℤ} {accuracy : Accuracy}
    (tells : Tells accuracy (value / 2 ^ e - m)) :
    value < 2 ^ (m.log2 + e + 1) ∧ (0 < m → 2 ^ (m.log2 + e) ≤ value) ∧
      (m = 0 → value < 2 ^ e) := by
  have unit : (0 : ℚ) < 2 ^ e := by positivity
  obtain ⟨least, most⟩ := tells.bounds
  have high : value < (m + 1) * 2 ^ e := by
    rw [← div_lt_iff₀ unit]
    linarith
  have low : m * 2 ^ e ≤ value := by
    rw [← le_div_iff₀ unit]
    linarith
  refine ⟨?_, fun positive => ?_, fun zero => ?_⟩
  · have above : ((m + 1 : ℕ) : ℚ) ≤ (2 ^ (m.log2 + 1) : ℕ) := by
      exact_mod_cast Nat.lt_log2_self
    push_cast at above
    calc
      value < (m + 1) * 2 ^ e := high
      _ ≤ 2 ^ (m.log2 + 1) * 2 ^ e := mul_le_mul_of_nonneg_right above unit.le
      _ = 2 ^ ((m.log2 : ℤ) + e + 1) := by
        rw [two_pow_mul_zpow]
        congr 1
        push_cast
        ring
  · have below : ((2 ^ m.log2 : ℕ) : ℚ) ≤ m := by
      exact_mod_cast Nat.log2_self_le positive.ne'
    push_cast at below
    calc
      (2 : ℚ) ^ ((m.log2 : ℤ) + e) = 2 ^ m.log2 * 2 ^ e := (two_pow_mul_zpow m.log2 e).symm
      _ ≤ m * 2 ^ e := mul_le_mul_of_nonneg_right below unit.le
      _ ≤ value := low
  · rw [zero] at high
    simpa using high

/-- Where a value is cut: at the last place of the double, or one place further on just below a power
of two. -/
theorem targetExponent_or {m : ℕ} {e : ℤ} {accuracy : Accuracy}
    (double : IsDouble mantissa exponent) (near : Near mantissa exponent value)
    (tells : Tells accuracy (value / 2 ^ e - m))
    (fine : e ≤ Format.binary64.targetExponent (totalExponent m e)) :
    Format.binary64.targetExponent (totalExponent m e) = exponent ∨
      Format.binary64.targetExponent (totalExponent m e) = exponent - 1 ∧ mantissa = 2 ^ 52 ∧
        -1074 < exponent ∧ value < 2 ^ 52 * 2 ^ exponent := by
  rw [targetExponent_eq] at fine ⊢
  obtain ⟨above, below, -⟩ := bounds_of_tells tells
  have least := double.least
  have ceiling : max ((m.log2 : ℤ) + e - 52) (-1074) ≤ exponent := by
    rcases Nat.eq_zero_or_pos m with zero | positive
    · rw [zero] at fine ⊢
      simp only [Nat.log2_zero] at fine ⊢
      omega
    · have := near.lt_of_two_zpow_le double (below positive)
      omega
  by_cases smallest : exponent = -1074
  · left
    omega
  · rcases (double.full.resolve_right smallest).eq_or_lt with power | larger
    · have half : lowerHalf mantissa exponent = mantissa - 1 / 4 :=
        if_pos ⟨power.symm, by omega⟩
      have reaches : (2 : ℚ) ^ 51 ≤ lowerHalf mantissa exponent := by
        rw [half, ← power]
        norm_num
      have floor := near.lt_of_lt_two_zpow reaches above
      by_cases same : max ((m.log2 : ℤ) + e - 52) (-1074) = exponent
      · exact Or.inl same
      · have last : (m.log2 : ℤ) + e + 1 = (52 : ℕ) + exponent := by omega
        refine Or.inr ⟨by omega, power.symm, by omega, ?_⟩
        rw [two_pow_mul_zpow, ← last]
        exact above
    · have more : (2 : ℚ) ^ 52 + 1 ≤ mantissa := by exact_mod_cast larger
      have reaches : (2 : ℚ) ^ 52 ≤ lowerHalf mantissa exponent := by
        linarith [lowerHalf_le mantissa exponent]
      have floor := near.lt_of_lt_two_zpow reaches above
      left
      omega

/-- Just below a power of two, where the doubles lie twice as close, a value is cut one place
further on. -/
theorem nearest_below_power (near : Near (2 ^ 52) exponent value) (more : -1074 < exponent)
    (under : value < 2 ^ 52 * 2 ^ exponent) : Nearest (2 ^ 53) (value / 2 ^ (exponent - 1)) := by
  have unit : (0 : ℚ) < 2 ^ exponent := by positivity
  have low := near.bounds.1
  have half : lowerHalf (2 ^ 52) exponent = (2 ^ 52 : ℕ) - 1 / 4 := if_pos ⟨rfl, more⟩
  rw [half] at low
  have doubled : value / 2 ^ (exponent - 1) = 2 * (value / 2 ^ exponent) := by
    rw [zpow_sub₀ two_ne_zero, zpow_one]
    field_simp
  have above := (div_lt_iff₀ unit).mpr under
  have below := (le_div_iff₀ unit).mpr low
  rw [doubled]
  refine (if_pos (by norm_num)).mpr ⟨?_, ?_⟩
  · push_cast at below ⊢
    linarith
  · push_cast
    linarith

/-- The mantissa of a double is not cut again. -/
theorem shiftToTargetExponent_self (double : IsDouble mantissa exponent) :
    shiftToTargetExponent Format.binary64 mantissa exponent .exact =
      (⟨mantissa, false, false⟩, exponent) := by
  have shift : (Format.binary64.targetExponent (totalExponent mantissa exponent) -
      exponent).toNat = 0 := by
    have bits : mantissa.log2 < 53 := (Nat.log2_lt double.pos.ne').mpr double.small
    have least := double.least
    rw [targetExponent_eq]
    omega
  have same : ExtendedMantissa.ofMantissaAndAccuracy mantissa .exact >>> 0 =
      ⟨mantissa, false, false⟩ := rfl
  simp only [shiftToTargetExponent, shiftToExponent, shift, same, Nat.cast_zero, add_zero]

/-- A mantissa that was rounded up to the next power of two is halved. -/
theorem shiftToTargetExponent_carry (more : -1074 < exponent) :
    shiftToTargetExponent Format.binary64 (2 ^ 53) (exponent - 1) .exact =
      (⟨2 ^ 52, false, false⟩, exponent) := by
  have shift : (Format.binary64.targetExponent (totalExponent (2 ^ 53) (exponent - 1)) -
      (exponent - 1)).toNat = 1 := by
    rw [targetExponent_eq, Nat.log2_two_pow]
    omega
  have half : ExtendedMantissa.ofMantissaAndAccuracy (2 ^ 53) .exact >>> 1 =
      ⟨2 ^ 52, false, false⟩ := rfl
  simp only [shiftToTargetExponent, shiftToExponent, shift, half, Nat.cast_one, sub_add_cancel]

/-- A value that is cut fine enough is rounded to the double that it is near. -/
theorem roundWithAccuracy_eq {m : ℕ} {e : ℤ} {accuracy : Accuracy}
    (double : IsDouble mantissa exponent) (near : Near mantissa exponent value)
    (tells : Tells accuracy (value / 2 ^ e - m))
    (fine : e ≤ Format.binary64.targetExponent (totalExponent m e)) (sign : Sign) :
    roundWithAccuracy Format.binary64 sign m e accuracy =
      .finite sign mantissa exponent double.pos := by
  have place := targetExponent_or double near tells fine
  generalize at_target : Format.binary64.targetExponent (totalExponent m e) = target at fine place
  have exponents : e + ((target - e).toNat : ℤ) = target := by omega
  have first : shiftToTargetExponent Format.binary64 m e accuracy =
      (ExtendedMantissa.ofMantissaAndAccuracy m accuracy >>> (target - e).toNat, target) := by
    simp only [shiftToTargetExponent, shiftToExponent, at_target, exponents]
  have cuts := (cuts_ofMantissaAndAccuracy tells).shiftRight (target - e).toNat
  rw [div_div, ← zpow_natCast (2 : ℚ) (target - e).toNat, ← zpow_add₀ two_ne_zero, exponents]
    at cuts
  rcases place with same | ⟨lower, power, more, under⟩
  · rw [same] at cuts first
    have rounded := cuts.roundedMantissa_eq near.nearest
    simp only [roundWithAccuracy, first, rounded, shiftToTargetExponent_self double,
      dif_neg double.pos.ne']
  · subst power
    rw [lower] at cuts first
    have rounded := cuts.roundedMantissa_eq (nearest_below_power near more under)
    simp only [roundWithAccuracy, first, rounded, shiftToTargetExponent_carry more,
      dif_neg double.pos.ne']

end Rounding

end Walkthrough.Decimal
