import Mathlib.Data.Nat.Cast.Order.Field
import Walkthrough.Decimal.Shortest
import Walkthrough.Proofs.Decimal.Nearest

/-!
# The shortest decimal of a double

The decimal that is printed for a double rounds to it (`Walkthrough.Decimal.Binary.shortest_near`):
every decimal that is taken does, and with seventeen digits there always is one.
-/

namespace Walkthrough.Decimal.Binary

variable {x : Binary}

theorem ten_zpow_eq (power : ℤ) :
    (10 : ℚ) ^ power = 10 ^ power.toNat / 10 ^ (-power).toNat := by
  rcases Int.le_total 0 power with above | below
  · have none : (-power).toNat = 0 := by omega
    rw [none, pow_zero, div_one, ← zpow_natCast, Int.toNat_of_nonneg above]
  · have none : power.toNat = 0 := by omega
    rw [none, pow_zero, one_div, ← zpow_natCast, ← zpow_neg, Int.toNat_of_nonneg (by omega),
      neg_neg]

theorem two_zpow_eq (x : Binary) :
    (2 : ℚ) ^ x.exponent = 2 ^ x.exponent.toNat / x.denominator := by
  have size := size_eq ⟨false, 1, x.exponent⟩
  simp only [numerator, Nat.cast_one, one_mul, Nat.pow_eq] at size
  rw [size]
  push_cast
  rfl

theorem lowest_eq (some : 0 < x.mantissa) :
    (x.lowest : ℚ) = lowerHalf x.mantissa x.exponent * 2 ^ x.exponent * (4 * x.denominator) := by
  have denominator : (0 : ℚ) < x.denominator := by exact_mod_cast x.denominator_pos
  rw [two_zpow_eq]
  unfold lowest lowerHalf center numerator
  simp only [Nat.pow_eq, gt_iff_lt, Bool.and_eq_true, beq_iff_eq, decide_eq_true_eq]
  have one : 2 ^ x.exponent.toNat ≤ x.mantissa * 2 ^ x.exponent.toNat :=
    Nat.le_mul_of_pos_left _ some
  split
  · rw [Nat.cast_sub (by omega)]
    push_cast
    field_simp
  · rw [Nat.cast_sub (by omega)]
    push_cast
    field_simp
    ring

theorem highest_eq (x : Binary) :
    (x.highest : ℚ) = (x.mantissa + 1 / 2) * 2 ^ x.exponent * (4 * x.denominator) := by
  have denominator : (0 : ℚ) < x.denominator := by exact_mod_cast x.denominator_pos
  rw [two_zpow_eq]
  unfold highest center numerator
  simp only [Nat.pow_eq]
  push_cast
  field_simp
  ring

/-- Whether `c * 10 ^ power` rounds to a double, in whole numbers. -/
def fits (x : Binary) (power : ℤ) (c : ℕ) : Bool :=
  let up := Nat.pow 10 (-power).toNat
  let unit := 4 * x.denominator * Nat.pow 10 power.toNat
  if x.mantissa % 2 == 0 then x.lowest * up ≤ c * unit && c * unit ≤ x.highest * up
  else x.lowest * up < c * unit && c * unit < x.highest * up

/-- The whole number nearest to a quotient, of two equally near the even one. -/
def nearer (center unit : ℕ) : ℕ :=
  let low := center / unit
  let below := center - low * unit
  let above := (low + 1) * unit - center
  if below < above then low else if above < below then low + 1 else low + low % 2

theorem withDigits?_eq (x : Binary) (count : ℕ) :
    ∃ other, x.withDigits? count =
      let power := x.magnitude - count
      let chosen := nearer (x.center * Nat.pow 10 (-power).toNat)
        (4 * x.denominator * Nat.pow 10 power.toNat)
      if x.fits power chosen then some ⟨chosen, power⟩
      else if x.fits power other then some ⟨other, power⟩
      else none :=
  ⟨_, rfl⟩

theorem fits_iff (some : 0 < x.mantissa) (power : ℤ) (c : ℕ) :
    x.fits power c = true ↔ Near x.mantissa x.exponent (c * 10 ^ power) := by
  have denominator : (0 : ℚ) < x.denominator := by exact_mod_cast x.denominator_pos
  have scale : (0 : ℚ) < 4 * x.denominator * 10 ^ (-power).toNat := by positivity
  have size : (c : ℚ) * 10 ^ power =
      (c * (4 * x.denominator * Nat.pow 10 power.toNat) : ℕ) /
        (4 * x.denominator * 10 ^ (-power).toNat) := by
    rw [ten_zpow_eq, Nat.pow_eq]
    push_cast
    field_simp
  have low : ((x.lowest * Nat.pow 10 (-power).toNat : ℕ) : ℚ) =
      lowerHalf x.mantissa x.exponent * 2 ^ x.exponent *
        (4 * x.denominator * 10 ^ (-power).toNat) := by
    rw [Nat.pow_eq]
    push_cast
    rw [lowest_eq some]
    ring
  have high : ((x.highest * Nat.pow 10 (-power).toNat : ℕ) : ℚ) =
      (x.mantissa + 1 / 2) * 2 ^ x.exponent * (4 * x.denominator * 10 ^ (-power).toNat) := by
    rw [Nat.pow_eq]
    push_cast
    rw [highest_eq]
    ring
  unfold Near fits
  rw [size]
  by_cases even : x.mantissa % 2 = 0
  · rw [if_pos (beq_iff_eq.mpr even), if_pos even, Bool.and_eq_true, decide_eq_true_eq,
      decide_eq_true_eq, ← Nat.cast_le (α := ℚ), ← Nat.cast_le (α := ℚ), low, high,
      le_div_iff₀ scale, div_le_iff₀ scale]
  · rw [if_neg (fun same => even (beq_iff_eq.mp same)), if_neg even, Bool.and_eq_true,
      decide_eq_true_eq, decide_eq_true_eq, ← Nat.cast_lt (α := ℚ), ← Nat.cast_lt (α := ℚ), low,
      high, lt_div_iff₀ scale, div_lt_iff₀ scale]

/-- Of the two whole numbers around a quotient, the one that is taken lies no more than half away
from it. -/
theorem nearer_bounds {unit : ℕ} (center : ℕ) (some : 0 < unit) :
    (nearer center unit : ℚ) * unit ≤ center + unit / 2 ∧
      (center : ℚ) ≤ nearer center unit * unit + unit / 2 := by
  suffices close : 2 * (nearer center unit * unit) ≤ 2 * center + unit ∧
      2 * center ≤ 2 * (nearer center unit * unit) + unit by
    obtain ⟨low, high⟩ := close
    have low : (2 : ℚ) * (nearer center unit * unit) ≤ 2 * center + unit := by exact_mod_cast low
    have high : (2 : ℚ) * center ≤ 2 * (nearer center unit * unit) + unit := by
      exact_mod_cast high
    constructor <;> linarith
  unfold nearer
  have whole := Nat.div_add_mod center unit
  have rest := Nat.mod_lt center some
  generalize center / unit = low at whole
  generalize center % unit = above at whole rest
  have this : low * unit = unit * low := mul_comm ..
  have next : (low + 1) * unit = unit * low + unit := by ring
  dsimp only
  rw [this, next]
  split
  · rw [this]
    omega
  · split
    · rw [next]
      omega
    · rcases Nat.mod_two_eq_zero_or_one low with even | odd
      · rw [even, add_zero, this]
        omega
      · rw [odd, next]
        omega

/-- A double is not smaller than a tenth of the power of ten at its decimal point. -/
theorem pow_magnitude_le (some : 0 < x.mantissa) :
    (10 : ℚ) ^ (x.magnitude - 1) ≤ x.mantissa * 2 ^ x.exponent := by
  have denominator : (0 : ℚ) < x.denominator := by exact_mod_cast x.denominator_pos
  have numerator : 0 < x.numerator := by
    unfold numerator
    rw [Nat.pow_eq]
    positivity
  rw [size_eq]
  unfold magnitude
  split
  · next large =>
    have whole : 0 < x.numerator / x.denominator := Nat.div_pos large x.denominator_pos
    have low : ((10 ^ (digitCount (x.numerator / x.denominator) - 1) : ℕ) : ℚ) ≤
        (x.numerator / x.denominator : ℕ) := by
      exact_mod_cast pow_digitCount_le whole
    have count := digitCount_pos whole
    have power : (digitCount (x.numerator / x.denominator) : ℤ) - 1 =
        (digitCount (x.numerator / x.denominator) - 1 : ℕ) := by omega
    rw [power, zpow_natCast]
    push_cast at low
    exact low.trans Nat.cast_div_le
  · next small =>
    have bound := lt_pow_digitCount ((x.denominator - 1) / x.numerator)
    rw [Nat.div_lt_iff_lt_mul numerator] at bound
    have room : x.denominator ≤
        10 ^ digitCount ((x.denominator - 1) / x.numerator) * x.numerator := by omega
    have cast : (x.denominator : ℚ) ≤
        10 ^ digitCount ((x.denominator - 1) / x.numerator) * x.numerator := by
      exact_mod_cast room
    have power (count : ℕ) : (1 - (count : ℤ)) - 1 = -(count : ℤ) := by ring
    rw [power, zpow_neg, zpow_natCast, inv_le_comm₀ (by positivity) (by positivity), inv_div,
      div_le_iff₀ (by positivity)]
    exact cast

/-- Seventeen digits are dense enough: between a double and a halfway point beside it there is half
a step of them. -/
theorem ten_zpow_lt (double : IsDouble x.mantissa x.exponent) :
    (10 : ℚ) ^ (x.magnitude - 17) < 2 ^ x.exponent ∧
      (x.mantissa = 2 ^ 52 → (10 : ℚ) ^ (x.magnitude - 17) < 1 / 2 * 2 ^ x.exponent) := by
  have unit : (0 : ℚ) < 2 ^ x.exponent := by positivity
  have low := pow_magnitude_le double.pos
  have split : (10 : ℚ) ^ (x.magnitude - 1) = 10 ^ (x.magnitude - 17) * 10 ^ 16 := by
    rw [← zpow_natCast, ← zpow_add₀ (by norm_num)]
    congr 1
    push_cast
    ring
  rw [split] at low
  have small : (x.mantissa : ℚ) < 2 ^ 53 := by exact_mod_cast double.small
  constructor
  · have : (x.mantissa : ℚ) * 2 ^ x.exponent < 2 ^ 53 * 2 ^ x.exponent :=
      mul_lt_mul_of_pos_right small unit
    linarith
  · intro power
    rw [power] at low
    push_cast at low
    linarith

/-- What lies no more than half a step of seventeen digits away from a double rounds to it. -/
theorem near_of_close {c : ℚ} (double : IsDouble x.mantissa x.exponent)
    (low : x.mantissa * 2 ^ x.exponent ≤ c + 1 / 2 * 10 ^ (x.magnitude - 17))
    (high : c ≤ x.mantissa * 2 ^ x.exponent + 1 / 2 * 10 ^ (x.magnitude - 17)) :
    Near x.mantissa x.exponent c := by
  obtain ⟨dense, denser⟩ := ten_zpow_lt double
  have above : c < (x.mantissa + 1 / 2) * 2 ^ x.exponent := by linarith
  have below : lowerHalf x.mantissa x.exponent * 2 ^ x.exponent < c := by
    unfold lowerHalf
    split
    · next power =>
      have := denser power.1
      linarith
    · linarith
  unfold Near
  split
  · exact ⟨below.le, above.le⟩
  · exact ⟨below, above⟩

theorem withDigits?_near {count : ℕ} {found : Scaled} (some : 0 < x.mantissa)
    (withDigits : x.withDigits? count = .some found) :
    Near x.mantissa x.exponent (found.coefficient * 10 ^ found.exponent) := by
  obtain ⟨other, same⟩ := x.withDigits?_eq count
  rw [same] at withDigits
  dsimp only at withDigits
  split at withDigits
  · next fits =>
    cases withDigits
    exact (fits_iff some _ _).mp fits
  · split at withDigits
    · next fits =>
      cases withDigits
      exact (fits_iff some _ _).mp fits
    · cases withDigits

/-- There is always a decimal with seventeen digits. -/
theorem withDigits?_seventeen (double : IsDouble x.mantissa x.exponent) :
    (x.withDigits? 17).isSome = true := by
  have denominator : (0 : ℚ) < x.denominator := by exact_mod_cast x.denominator_pos
  have unit : 0 < 4 * x.denominator * Nat.pow 10 (x.magnitude - 17).toNat := by
    have := x.denominator_pos
    rw [Nat.pow_eq]
    positivity
  have scale : (0 : ℚ) < 4 * x.denominator * 10 ^ (-(x.magnitude - 17)).toNat := by positivity
  have size : ((x.center * Nat.pow 10 (-(x.magnitude - 17)).toNat : ℕ) : ℚ) =
      x.mantissa * 2 ^ x.exponent * (4 * x.denominator * 10 ^ (-(x.magnitude - 17)).toNat) := by
    rw [size_eq, center, Nat.pow_eq]
    push_cast
    field_simp
  have step : ((4 * x.denominator * Nat.pow 10 (x.magnitude - 17).toNat : ℕ) : ℚ) =
      10 ^ (x.magnitude - 17) * (4 * x.denominator * 10 ^ (-(x.magnitude - 17)).toNat) := by
    rw [ten_zpow_eq (x.magnitude - 17), Nat.pow_eq]
    push_cast
    field_simp
  obtain ⟨low, high⟩ := nearer_bounds (x.center * Nat.pow 10 (-(x.magnitude - 17)).toNat) unit
  rw [size, step] at low high
  obtain ⟨other, same⟩ := x.withDigits?_eq 17
  rw [same]
  dsimp only [Nat.cast_ofNat]
  rw [if_pos]
  · rfl
  · rw [fits_iff double.pos]
    apply near_of_close double
    · apply le_of_mul_le_mul_right _ scale
      linarith
    · apply le_of_mul_le_mul_right _ scale
      linarith

/-- The decimal that is printed for a double rounds to it. -/
theorem shortest_near (double : IsDouble x.mantissa x.exponent) :
    Near x.mantissa x.exponent (x.shortest.coefficient * 10 ^ x.shortest.exponent) := by
  have found : ((List.range 17).findSome? fun count => x.withDigits? (count + 1)).isSome = true := by
    rw [List.findSome?_isSome_iff]
    exact ⟨16, by decide, withDigits?_seventeen double⟩
  obtain ⟨shortest, found⟩ := Option.isSome_iff_exists.mp found
  obtain ⟨count, -, withDigits⟩ := List.exists_of_findSome?_eq_some found
  have same : x.shortest = shortest := by
    unfold Binary.shortest
    rw [found]
    rfl
  rw [same]
  exact withDigits?_near double.pos withDigits

end Walkthrough.Decimal.Binary
