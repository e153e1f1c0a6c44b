import Walkthrough.Decimal.Reading
import Walkthrough.Proofs.Decimal.Parts

/-!
# The double nearest to a decimal

A decimal that lies between the two halfway points around a double is read as that double
(`Walkthrough.Decimal.nearest_eq`), on the fast way for few digits as on the slow one.
-/

namespace Walkthrough.Decimal

open Float.Model Float.Model.UnpackedFloat

variable {mantissa : ℕ} {exponent : ℤ} {value : ℚ}

/-- A positive number. -/
def positive (mantissa : ℕ) (exponent : ℤ) : Float :=
  Binary.toFloat ⟨false, mantissa, exponent⟩

theorem unpacked_positive (some : 0 < mantissa) :
    Binary.unpacked ⟨false, mantissa, exponent⟩ = .finite .positive mantissa exponent some :=
  dif_pos some

theorem unpack_positive (double : IsDouble mantissa exponent) :
    (positive mantissa exponent).toModel.unpack =
      .finite .positive mantissa exponent double.pos := by
  have fits : Binary.Fits ⟨false, mantissa, exponent⟩ := Or.inr double
  rw [positive, (Binary.of_finite (Binary.ofFloat_toFloat fits)).2.1,
    unpacked_positive double.pos]

theorem positive_eq (some : 0 < mantissa) :
    positive mantissa exponent =
      .ofModel (.pack (.finite .positive mantissa exponent some)) := by
  rw [positive, Binary.toFloat, unpacked_positive some]

theorem log2_mul_two_pow {m : ℕ} (some : 0 < m) (count : ℕ) :
    (m * 2 ^ count).log2 = m.log2 + count := by
  rw [Nat.log2_eq_iff (by positivity)]
  have low := Nat.log2_self_le some.ne'
  have high := Nat.lt_log2_self (n := m)
  constructor
  · rw [pow_add]
    exact Nat.mul_le_mul_right _ low
  · rw [add_right_comm, pow_add]
    exact Nat.mul_lt_mul_of_pos_right high (by positivity)

section Products

variable {m₁ m₂ : ℕ} {e₁ e₂ : ℤ}

/-- A product with enough digits is rounded to the double that it is near. -/
theorem mul_eq (double : IsDouble mantissa exponent) (some₁ : 0 < m₁) (some₂ : 0 < m₂)
    (full : 2 ^ 52 ≤ m₁ * m₂) (near : Near mantissa exponent (m₁ * 2 ^ e₁ * (m₂ * 2 ^ e₂))) :
    UnpackedFloat.mul Format.binary64 (.finite .positive m₁ e₁ some₁)
      (.finite .positive m₂ e₂ some₂) = .finite .positive mantissa exponent double.pos := by
  apply roundWithAccuracy_eq double near
  · change _ = (0 : ℚ)
    rw [zpow_add₀ two_ne_zero]
    push_cast
    field_simp
    ring
  · have bits := (Nat.le_log2 (by omega)).mpr full
    rw [targetExponent_eq]
    omega

theorem tells_accuracyOfFraction {n d : ℕ} (less : n < d) :
    Tells (accuracyOfFraction n d) (n / d) := by
  have some : (0 : ℚ) < d := by exact_mod_cast (Nat.zero_le n).trans_lt less
  have cast : (n : ℚ) < d := by exact_mod_cast less
  unfold accuracyOfFraction
  split
  · next zero =>
    rw [zero]
    simp [Tells]
  · next more =>
    have positive : (0 : ℚ) < n := by exact_mod_cast Nat.pos_of_ne_zero more
    rcases order : compare (2 * n) d with _ | _ | _
    · have less : 2 * n < d := Nat.compare_eq_lt.mp order
      have cast : (2 : ℚ) * n < d := by exact_mod_cast less
      refine ⟨by positivity, ?_⟩
      rw [div_lt_iff₀ some]
      linarith
    · have same : 2 * n = d := Nat.compare_eq_eq.mp order
      have cast : (2 : ℚ) * n = d := by exact_mod_cast same
      change _ = (1 / 2 : ℚ)
      rw [div_eq_iff some.ne']
      linarith
    · have more : d < 2 * n := Nat.compare_eq_gt.mp order
      have cast' : (d : ℚ) < 2 * n := by exact_mod_cast more
      refine ⟨?_, (div_lt_one some).mpr cast⟩
      rw [lt_div_iff₀ some]
      linarith

/-- What a long division leaves, in units of the last place of its quotient. -/
theorem div_sub_quotient {target : ℤ} {count : ℕ} (some₂ : 0 < m₂)
    (exponents : e₁ - e₂ - target = count) :
    ((m₁ : ℚ) * 2 ^ e₁ / (m₂ * 2 ^ e₂)) / 2 ^ target - (m₁ * 2 ^ count / m₂ : ℕ) =
      ((m₁ * 2 ^ count % m₂ : ℕ) : ℚ) / m₂ := by
  have some : (0 : ℚ) < m₂ := by exact_mod_cast some₂
  have whole : ((m₁ * 2 ^ count : ℕ) : ℚ) =
      m₂ * (m₁ * 2 ^ count / m₂ : ℕ) + (m₁ * 2 ^ count % m₂ : ℕ) := by
    exact_mod_cast (Nat.div_add_mod (m₁ * 2 ^ count) m₂).symm
  have scale : (2 : ℚ) ^ e₁ / (2 ^ e₂ * 2 ^ target) = 2 ^ count := by
    rw [← zpow_add₀ two_ne_zero, ← zpow_sub₀ two_ne_zero, ← zpow_natCast, ← exponents]
    congr 1
    ring
  have apart : ((m₁ : ℚ) * 2 ^ e₁ / (m₂ * 2 ^ e₂)) / 2 ^ target =
      m₁ * (2 ^ e₁ / (2 ^ e₂ * 2 ^ target)) / m₂ := by
    field_simp
  push_cast at whole
  rw [apart, scale, whole]
  field_simp
  ring

/-- A long division that starts with enough digits has enough digits in its quotient. -/
theorem le_shifted_div {count : ℕ} (some₁ : 0 < m₁) (some₂ : 0 < m₂)
    (enough : 52 + (m₂.log2 + 1) ≤ m₁.log2 + count) : 2 ^ 52 ≤ m₁ * 2 ^ count / m₂ := by
  rw [Nat.le_div_iff_mul_le some₂]
  calc
    2 ^ 52 * m₂ ≤ 2 ^ 52 * 2 ^ (m₂.log2 + 1) := Nat.mul_le_mul_left _ Nat.lt_log2_self.le
    _ = 2 ^ (52 + (m₂.log2 + 1)) := (pow_add ..).symm
    _ ≤ 2 ^ (m₁.log2 + count) := Nat.pow_le_pow_right two_pos enough
    _ = 2 ^ m₁.log2 * 2 ^ count := pow_add ..
    _ ≤ m₁ * 2 ^ count := Nat.mul_le_mul_right _ (Nat.log2_self_le some₁.ne')

/-- A quotient is rounded to the double that it is near. -/
theorem div_eq (double : IsDouble mantissa exponent) (some₁ : 0 < m₁) (some₂ : 0 < m₂)
    (near : Near mantissa exponent (m₁ * 2 ^ e₁ / (m₂ * 2 ^ e₂))) :
    UnpackedFloat.div Format.binary64 (.finite .positive m₁ e₁ some₁)
      (.finite .positive m₂ e₂ some₂) = .finite .positive mantissa exponent double.pos := by
  simp only [UnpackedFloat.div, divCore]
  generalize at_target : min (e₁ - e₂) (Format.binary64.targetExponent
    (totalExponent m₁ e₁ - totalExponent m₂ e₂)) = target
  have least : target ≤ e₁ - e₂ := by
    rw [← at_target]
    exact min_le_left _ _
  have exponents : e₁ - e₂ - target = ((e₁ - e₂ - target).toNat : ℤ) := by omega
  generalize (e₁ - e₂ - target).toNat = count at exponents
  rw [Nat.shiftLeft_eq]
  apply roundWithAccuracy_eq double near
  · rw [div_sub_quotient some₂ exponents]
    exact tells_accuracyOfFraction (Nat.mod_lt _ some₂)
  · simp only [Format.targetExponent, totalExponent, Format.mantissaBits, Format.minExponent]
      at at_target
    rw [targetExponent_eq]
    by_cases small : target ≤ -1074
    · omega
    · have full := @le_shifted_div _ _ count some₁ some₂ (by omega)
      have := (Nat.le_log2 (by omega)).mpr full
      omega

theorem positive_mul (one : IsDouble m₁ e₁) (other : IsDouble m₂ e₂)
    (double : IsDouble mantissa exponent) (full : 2 ^ 52 ≤ m₁ * m₂)
    (near : Near mantissa exponent (m₁ * 2 ^ e₁ * (m₂ * 2 ^ e₂))) :
    positive m₁ e₁ * positive m₂ e₂ = positive mantissa exponent := by
  change Float.ofModel (.pack (UnpackedFloat.mul _ (positive m₁ e₁).toModel.unpack
    (positive m₂ e₂).toModel.unpack)) = _
  rw [unpack_positive one, unpack_positive other, mul_eq double one.pos other.pos full near,
    positive_eq double.pos]

theorem positive_div (one : IsDouble m₁ e₁) (other : IsDouble m₂ e₂)
    (double : IsDouble mantissa exponent)
    (near : Near mantissa exponent (m₁ * 2 ^ e₁ / (m₂ * 2 ^ e₂))) :
    positive m₁ e₁ / positive m₂ e₂ = positive mantissa exponent := by
  change Float.ofModel (.pack (UnpackedFloat.div _ (positive m₁ e₁).toModel.unpack
    (positive m₂ e₂).toModel.unpack)) = _
  rw [unpack_positive one, unpack_positive other, div_eq double one.pos other.pos near,
    positive_eq double.pos]

end Products

section Few

/-- A whole number of few digits as the parts of a double. -/
theorem isDouble_whole {n : ℕ} (some : 0 < n) (small : n < 2 ^ 53) :
    IsDouble (n * 2 ^ (52 - n.log2)) (n.log2 - 52) := by
  have bits : n.log2 < 53 := (Nat.log2_lt some.ne').mpr small
  have pos : 0 < n * 2 ^ (52 - n.log2) := by positivity
  have log : (n * 2 ^ (52 - n.log2)).log2 = 52 := by
    rw [log2_mul_two_pow some]
    omega
  have bounds := (Nat.log2_eq_iff pos.ne').mp log
  exact ⟨pos, bounds.2, Or.inl bounds.1, by omega, by omega⟩

theorem whole_eq {n : ℕ} (small : n < 2 ^ 53) (some : 0 < n) :
    ((n * 2 ^ (52 - n.log2) : ℕ) : ℚ) * 2 ^ ((n.log2 : ℤ) - 52) = n := by
  have bits : n.log2 < 53 := (Nat.log2_lt some.ne').mpr small
  have back : (n.log2 : ℤ) - 52 = -((52 - n.log2 : ℕ) : ℤ) := by omega
  rw [back, zpow_neg, zpow_natCast]
  push_cast
  field_simp

theorem toFloat_toUInt64 {n : ℕ} (some : 0 < n) (small : n < 2 ^ 53) :
    n.toUInt64.toFloat = positive (n * 2 ^ (52 - n.log2)) (n.log2 - 52) := by
  have double := isDouble_whole some small
  have same : n.toUInt64.toNat = n := by
    change n % 2 ^ 64 = n
    omega
  have order : compare (n : ℤ) 0 = .gt := by
    rw [compare_gt_iff_gt]
    omega
  have bits : n.log2 < 53 := (Nat.log2_lt some.ne').mpr small
  have target : Format.binary64.targetExponent (totalExponent n 0) = n.log2 - 52 := by
    rw [targetExponent_eq]
    omega
  have count : ((0 : ℤ) - (n.log2 - 52)).toNat = 52 - n.log2 := by omega
  have place : (0 : ℤ) - (52 - n.log2 : ℕ) = n.log2 - 52 := by omega
  change Float.ofModel (.pack (UnpackedFloat.ofNat Format.binary64 n.toUInt64.toNat)) = _
  rw [same, positive_eq double.pos]
  simp only [UnpackedFloat.ofNat, UnpackedFloat.ofInt, UnpackedFloat.normalize, order,
    Int.toNat_natCast, UnpackedFloat.round, UnpackedFloat.decreaseExponent, target, count, place,
    Nat.shiftLeft_eq]
  congr 2
  apply roundWithAccuracy_eq double (near_self _ _)
  · change _ = (0 : ℚ)
    field_simp
    ring
  · rw [targetExponent_eq, log2_mul_two_pow some]
    omega

/-- Whether a kind is that of a whole number. -/
def Kind.isWhole (n : ℕ) : Kind → Bool
  | .finite x => !x.negative && x.numerator == n * x.denominator
  | _ => false

theorem exists_positive {f : Float} {n : ℕ} (some : 0 < n)
    (whole : (Kind.ofFloat f).isWhole n = true) :
    ∃ m k, IsDouble m k ∧ f = positive m k ∧ (m : ℚ) * 2 ^ k = n := by
  cases kind : Kind.ofFloat f with
  | notANumber =>
      rw [kind] at whole
      cases whole
  | infinite negative =>
      rw [kind] at whole
      cases whole
  | finite x =>
      rw [kind] at whole
      obtain ⟨fits, -, made⟩ := Binary.of_finite kind
      obtain ⟨negative, m, k⟩ := x
      obtain ⟨sign, sizes⟩ := Bool.and_eq_true_iff.mp whole
      rw [Bool.not_eq_true'] at sign
      rw [beq_iff_eq] at sizes
      subst sign
      have denominator : (0 : ℚ) < Binary.denominator ⟨false, m, k⟩ := by
        exact_mod_cast Binary.denominator_pos _
      have size : (m : ℚ) * 2 ^ k = n := by
        rw [Binary.size_eq ⟨false, m, k⟩, sizes]
        push_cast
        field_simp
      refine ⟨m, k, fits.resolve_left fun none => ?_, made, size⟩
      have zero : m = 0 := none.1
      rw [zero, Nat.cast_zero, zero_mul] at size
      exact some.ne (by exact_mod_cast size)

/-- The powers of ten that are kept as doubles are exact. -/
theorem powersOfTen_eq (e : ℕ) (small : e < Float.exactlyRepresentablePowersOfTen.size) :
    ∃ m k, IsDouble m k ∧ Float.exactlyRepresentablePowersOfTen[e] = positive m k ∧
      (m : ℚ) * 2 ^ k = 10 ^ e := by
  have table : ∀ e : Fin 23,
      (Kind.ofFloat Float.exactlyRepresentablePowersOfTen[e]).isWhole (10 ^ e.val) = true := by
    decide +kernel
  obtain ⟨m, k, double, same, size⟩ := exists_positive (by positivity) (table ⟨e, small⟩)
  refine ⟨m, k, double, same, size.trans ?_⟩
  push_cast
  rfl

end Few

section Scientific

variable {coefficient : ℕ}

/-- With any number of digits, a decimal is read as the double that it is near, while its power of
ten is not out of all bounds. -/
theorem ofScientific_unpacked_eq {e : ℤ} (double : IsDouble mantissa exponent)
    (some : 0 < coefficient) (least : -(2048 + (coefficient.log2 : ℤ)) ≤ e) (most : e ≤ 2048)
    (near : Near mantissa exponent (coefficient * 10 ^ e)) :
    UnpackedFloat.ofScientific Format.binary64 coefficient e =
      .finite .positive mantissa exponent double.pos := by
  have inner : ¬ e > 2 ^ Format.binary64.exponentBits := by
    change ¬ 2048 < e
    omega
  have outer : ¬ e < -((2 ^ Format.binary64.exponentBits : ℤ) + coefficient.log2) := by
    change ¬ e < -(2048 + (coefficient.log2 : ℤ))
    omega
  simp only [UnpackedFloat.ofScientific, dif_neg some.ne', if_neg inner, if_neg outer]
  have shifted : coefficient <<< Format.binary64.mantissaBits = coefficient * 2 ^ 53 :=
    Nat.shiftLeft_eq ..
  split
  · next above =>
    have power : e = (e.toNat : ℤ) := by omega
    simp only [shifted]
    apply mul_eq double
    · calc
        2 ^ 52 ≤ 1 * 2 ^ 53 * 1 := by norm_num
        _ ≤ coefficient * 2 ^ 53 * 10 ^ e.toNat :=
          Nat.mul_le_mul (Nat.mul_le_mul_right _ some) (Nat.one_le_pow _ _ (by decide))
    · convert near using 1
      rw [power]
      change ((coefficient * 2 ^ 53 : ℕ) : ℚ) * 2 ^ (-53 : ℤ) * _ = _
      push_cast
      rw [zpow_natCast, Int.toNat_natCast, zpow_neg]
      field_simp
      rfl
  · next below =>
    have power : e = -((-e).toNat : ℤ) := by omega
    apply div_eq double
    convert near using 1
    rw [power, zpow_neg, zpow_natCast, neg_neg, Int.toNat_natCast]
    push_cast
    simp only [mul_one, div_eq_mul_inv]

/-- The fast way and the slow way lead to the same double. -/
theorem ofScientific_eq {negative : Bool} {e : ℕ} (double : IsDouble mantissa exponent)
    (some : 0 < coefficient) (least : (e : ℤ) ≤ 2048 + coefficient.log2)
    (most : negative = false → e ≤ 2048)
    (near : Near mantissa exponent (coefficient * 10 ^ (if negative then -e else e : ℤ))) :
    Float.ofScientific coefficient negative e = positive mantissa exponent := by
  unfold Float.ofScientific
  split
  · next few =>
    obtain ⟨m, k, power, entry, size⟩ := powersOfTen_eq e (by
      change e < 23
      omega)
    have whole := whole_eq few.1 some
    simp only [toFloat_toUInt64 some few.1, entry]
    cases negative with
    | true =>
        apply positive_div (isDouble_whole some few.1) power double
        rw [whole, size]
        simpa only [if_true, zpow_neg, zpow_natCast, div_eq_mul_inv] using near
    | false =>
        apply positive_mul (isDouble_whole some few.1) power double
        · have full := (isDouble_whole some few.1).full.resolve_right (by omega)
          exact full.trans (Nat.le_mul_of_pos_right _ power.pos)
        · rw [whole, size]
          simpa only [Bool.false_eq_true, if_false, zpow_natCast] using near
  · rw [positive_eq double.pos]
    cases negative with
    | true =>
        simp only [if_true, Int.negOfNat_eq, Int.ofNat_eq_natCast] at near ⊢
        change Float.ofModel (.pack (UnpackedFloat.ofScientific _ _ _)) = _
        rw [ofScientific_unpacked_eq double some (by omega) (by omega) near]
    | false =>
        have most := most rfl
        simp only [Bool.false_eq_true, if_false, Int.ofNat_eq_natCast] at near ⊢
        change Float.ofModel (.pack (UnpackedFloat.ofScientific _ _ _)) = _
        rw [ofScientific_unpacked_eq double some (by omega) (by omega) near]

theorem lt_pow_digitCount (n : ℕ) : n < 10 ^ digitCount n := by
  unfold digitCount
  split
  · next zero =>
    rw [zero]
    exact Nat.one_pos
  · exact (Nat.length_toDigits_le_iff (by decide) Nat.length_toDigits_pos).mp le_rfl

theorem digitCount_pos {n : ℕ} (some : 0 < n) : 0 < digitCount n := by
  rw [digitCount, if_neg some.ne']
  exact Nat.length_toDigits_pos

theorem pow_digitCount_le {n : ℕ} (some : 0 < n) : 10 ^ (digitCount n - 1) ≤ n := by
  rw [digitCount, if_neg some.ne']
  rcases Nat.eq_zero_or_pos ((Nat.toDigits 10 n).length - 1) with zero | more
  · rw [zero]
    exact some
  · by_contra less
    have := (Nat.length_toDigits_le_iff (by decide) more).mpr (Nat.lt_of_not_le less)
    omega

theorem digitCount_le_log2 {n : ℕ} (some : 0 < n) : digitCount n ≤ n.log2 + 1 := by
  have low := pow_digitCount_le some
  have fewer : 2 ^ (digitCount n - 1) ≤ 10 ^ (digitCount n - 1) :=
    Nat.pow_le_pow_left (by decide) _
  have := (Nat.le_log2 some.ne').mpr (fewer.trans low)
  omega

theorem two_zpow_le_ten_zpow : (2 : ℚ) ^ (1200 : ℤ) ≤ 10 ^ (400 : ℤ) := by
  calc
    (2 : ℚ) ^ (1200 : ℤ) = (2 ^ (3 : ℤ)) ^ (400 : ℤ) := by
      rw [← zpow_mul]
      norm_num
    _ ≤ 10 ^ (400 : ℤ) := by
      apply zpow_le_zpow_left₀ (by norm_num) (by positivity)
      norm_num

/-- What is near a double is not out of all bounds. -/
theorem IsDouble.bounds (double : IsDouble mantissa exponent)
    (near : Near mantissa exponent value) :
    (10 : ℚ) ^ (-400 : ℤ) < value ∧ value < 10 ^ (400 : ℤ) := by
  obtain ⟨low, high⟩ := near.bounds
  have unit : (0 : ℚ) < 2 ^ exponent := by positivity
  have least : (2 : ℚ) ^ (-1074 : ℤ) ≤ 2 ^ exponent :=
    zpow_le_zpow_right₀ one_le_two double.least
  have most : (2 : ℚ) ^ exponent ≤ 2 ^ (971 : ℤ) :=
    zpow_le_zpow_right₀ one_le_two double.most
  have one : (1 : ℚ) ≤ mantissa := by exact_mod_cast double.pos
  have few : (mantissa : ℚ) + 1 ≤ 2 ^ 53 := by exact_mod_cast double.small
  constructor
  · calc
      (10 : ℚ) ^ (-400 : ℤ) ≤ 2 ^ (-1200 : ℤ) := by
        rw [zpow_neg, zpow_neg]
        exact inv_anti₀ (by positivity) two_zpow_le_ten_zpow
      _ < 2 ^ (-1075 : ℤ) := (zpow_lt_zpow_iff_right₀ one_lt_two).mpr (by decide)
      _ = 1 / 2 * 2 ^ (-1074 : ℤ) := by
        rw [one_div, ← zpow_neg_one, ← zpow_add₀ two_ne_zero]
        rfl
      _ ≤ 1 / 2 * 2 ^ exponent := by linarith
      _ ≤ lowerHalf mantissa exponent * 2 ^ exponent := by
        apply mul_le_mul_of_nonneg_right _ unit.le
        linarith [lowerHalf_le mantissa exponent]
      _ ≤ value := low
  · calc
      value ≤ (mantissa + 1 / 2) * 2 ^ exponent := high
      _ ≤ 2 ^ 53 * 2 ^ exponent := mul_le_mul_of_nonneg_right (by linarith) unit.le
      _ ≤ 2 ^ 53 * 2 ^ (971 : ℤ) := by linarith
      _ = 2 ^ (1024 : ℤ) := by
        rw [← zpow_natCast, ← zpow_add₀ two_ne_zero]
        rfl
      _ < 2 ^ (1200 : ℤ) := (zpow_lt_zpow_iff_right₀ one_lt_two).mpr (by decide)
      _ ≤ 10 ^ (400 : ℤ) := two_zpow_le_ten_zpow

/-- A decimal that is near a double is not zero. -/
theorem IsDouble.coefficient_pos {e : ℤ} (double : IsDouble mantissa exponent)
    (near : Near mantissa exponent (coefficient * 10 ^ e)) : 0 < coefficient := by
  have above := (double.bounds near).1
  apply Nat.pos_of_ne_zero
  intro zero
  rw [zero, Nat.cast_zero, zero_mul] at above
  exact absurd above (not_lt.mpr (by positivity))

/-- The point of a decimal that is near a double lies within the bounds that are checked. -/
theorem IsDouble.point_bounds {e : ℤ} (double : IsDouble mantissa exponent)
    (near : Near mantissa exponent (coefficient * 10 ^ e)) :
    -400 < e + digitCount coefficient ∧ e + digitCount coefficient ≤ 400 := by
  obtain ⟨above, below⟩ := double.bounds near
  have some := double.coefficient_pos near
  have unit : (0 : ℚ) < 10 ^ e := by positivity
  have shifted (count : ℕ) : (10 : ℚ) ^ (e + count) = 10 ^ count * 10 ^ e := by
    rw [zpow_add₀ (by norm_num), zpow_natCast, mul_comm]
  constructor
  · have less : (coefficient : ℚ) < 10 ^ digitCount coefficient := by
      exact_mod_cast lt_pow_digitCount coefficient
    apply (zpow_lt_zpow_iff_right₀ (by norm_num : (1 : ℚ) < 10)).mp
    calc
      (10 : ℚ) ^ (-400 : ℤ) < coefficient * 10 ^ e := above
      _ < 10 ^ digitCount coefficient * 10 ^ e := mul_lt_mul_of_pos_right less unit
      _ = 10 ^ (e + digitCount coefficient) := (shifted _).symm
  · have count := digitCount_pos some
    have more : (10 : ℚ) ^ (digitCount coefficient - 1) ≤ coefficient := by
      exact_mod_cast pow_digitCount_le some
    have less : (10 : ℚ) ^ (e + (digitCount coefficient - 1 : ℕ)) < 10 ^ (400 : ℤ) := by
      calc
        (10 : ℚ) ^ (e + (digitCount coefficient - 1 : ℕ)) =
            10 ^ (digitCount coefficient - 1) * 10 ^ e := shifted _
        _ ≤ coefficient * 10 ^ e := mul_le_mul_of_nonneg_right more unit.le
        _ < 10 ^ (400 : ℤ) := below
    have := (zpow_lt_zpow_iff_right₀ (by norm_num : (1 : ℚ) < 10)).mp less
    omega

/-- A decimal is read as the double that it is near. -/
theorem nearest_eq {e : ℤ} (double : IsDouble mantissa exponent)
    (near : Near mantissa exponent (coefficient * 10 ^ e)) :
    nearest coefficient e = positive mantissa exponent := by
  have some := double.coefficient_pos near
  obtain ⟨low, high⟩ := double.point_bounds near
  have count := digitCount_pos some
  have bits := digitCount_le_log2 some
  have within : ¬ (decide (coefficient = 0) ||
      decide (e + (digitCount coefficient : ℤ) < -400)) = true := by
    simp only [Bool.or_eq_true, decide_eq_true_eq]
    omega
  simp only [nearest, if_neg within, if_neg (not_lt.mpr high)]
  split
  · next down =>
    apply ofScientific_eq double some (by omega) (fun other => Bool.noConfusion other)
    simpa only [if_true, (by omega : -(e.natAbs : ℤ) = e)] using near
  · next up =>
    apply ofScientific_eq double some (by omega) (fun _ => by omega)
    simpa only [Bool.false_eq_true, if_false, Int.toNat_of_nonneg (not_lt.mp up)] using near

end Scientific

end Walkthrough.Decimal
