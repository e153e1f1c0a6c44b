import Walkthrough.Decimal.Binary
import Walkthrough.Proofs.Decimal.Rounding

/-!
# Doubles and their parts

The parts that are read off the bits of a double are those that the arithmetic of doubles is defined
on (`Walkthrough.Decimal.Binary.of_finite`), and a double is made of its parts again.
-/

namespace Walkthrough.Decimal

open Float.Model Float.Model.UnpackedFloat

/-- The sign of a double. -/
def signOf (negative : Bool) : Sign :=
  if negative then .negative else .positive

/-- Where the parts of a double lie in its bits. -/
structure Parts (bits : ℕ) (negative : Bool) (biased fraction : ℕ) : Prop where
  sum : bits = negative.toNat * 2 ^ 63 + biased * 2 ^ 52 + fraction
  biased_lt : biased < 2 ^ 11
  fraction_lt : fraction < 2 ^ 52

namespace Parts

variable {bits biased fraction : ℕ} {negative : Bool}

theorem exists_of_lt (small : bits < 2 ^ 64) :
    ∃ negative biased fraction, Parts bits negative biased fraction := by
  refine ⟨bits / 2 ^ 63 == 1, bits / 2 ^ 52 % 2 ^ 11, bits % 2 ^ 52, ?_, by omega, by omega⟩
  rcases Nat.lt_or_ge bits (2 ^ 63) with low | high
  · have zero : bits / 2 ^ 63 = 0 := by omega
    rw [zero]
    change bits = 0 * 2 ^ 63 + _ + _
    omega
  · have one : bits / 2 ^ 63 = 1 := by omega
    rw [one]
    change bits = 1 * 2 ^ 63 + _ + _
    omega

theorem sign_eq (parts : Parts bits negative biased fraction) :
    bits / 2 ^ 63 = negative.toNat := by
  obtain ⟨sum, narrow, low⟩ := parts
  have bit := negative.toNat_le
  omega

theorem biased_eq (parts : Parts bits negative biased fraction) :
    bits / 2 ^ 52 % 2 ^ 11 = biased := by
  obtain ⟨sum, narrow, low⟩ := parts
  omega

theorem fraction_eq (parts : Parts bits negative biased fraction) :
    bits % 2 ^ 52 = fraction := by
  obtain ⟨sum, narrow, low⟩ := parts
  omega

theorem ofFloat_eq {x : Float} (parts : Parts x.toBits.toNat negative biased fraction) :
    Kind.ofFloat x =
      if biased = 2047 then if fraction = 0 then .infinite negative else .notANumber
      else if biased = 0 then .finite ⟨negative, fraction, -1074⟩
      else .finite ⟨negative, 2 ^ 52 + fraction, biased - 1075⟩ := by
  have sign : (negative.toNat == 1) = negative := by
    cases negative <;> rfl
  simp only [Kind.ofFloat, Nat.pow_eq, parts.sign_eq, parts.biased_eq, parts.fraction_eq, sign,
    beq_iff_eq]

theorem unpack_eq {x : Float} (parts : Parts x.toBits.toNat negative biased fraction) :
    x.toModel.unpack =
      if biased = 2047 then
        if fraction = 0 then .infinity (signOf negative) else .notANumber
      else if biased = 0 then
        if none : fraction = 0 then .zero (signOf negative)
        else .finite (signOf negative) fraction (-1074) (Nat.pos_of_ne_zero none)
      else .finite (signOf negative) (2 ^ 52 + fraction) (biased - 1075) (by omega) := by
  let word : BitVec Format.binary64.numBits := x.toBits.toBitVec
  have exponent : (unpackExponent word).toNat = biased := by
    rw [← parts.biased_eq, ← Nat.shiftRight_eq_div_pow]
    rfl
  have mantissa : (unpackMantissa word).toNat = fraction := by
    rw [← parts.fraction_eq, ← Nat.shiftRight_zero (n := x.toBits.toNat)]
    rfl
  have sign : Sign.ofBitVec (unpackSign word) = signOf negative := by
    have bit : unpackSign word = BitVec.ofNat 1 negative.toNat := by
      rw [← parts.sign_eq, ← Nat.shiftRight_eq_div_pow]
      rfl
    rw [bit]
    cases negative <;> rfl
  have full : unpackExponent word = -1#_ ↔ biased = 2047 := by
    rw [← exponent, ← BitVec.toNat_inj]
    rfl
  have empty : unpackExponent word = 0#_ ↔ biased = 0 := by
    rw [← exponent, ← BitVec.toNat_inj]
    rfl
  have none : unpackMantissa word = 0#_ ↔ fraction = 0 := by
    rw [← mantissa, ← BitVec.toNat_inj]
    rfl
  have implicit : (1#1 ++ unpackMantissa word).toNat = 2 ^ 52 + fraction := by
    rw [BitVec.toNat_append, ← Nat.shiftLeft_add_eq_or_of_lt (unpackMantissa word).isLt, mantissa]
    rfl
  change UnpackedFloat.unpack Format.binary64 word = _
  simp only [UnpackedFloat.unpack, full, empty, none, sign, exponent, implicit, mantissa]
  split
  · rfl
  · split
    · split
      · rfl
      · next zero _ =>
        rw [zero]
        rfl
    · rfl

end Parts

theorem parts_packComponents (negative : Bool) (exponent : BitVec 11) (mantissa : BitVec 52) :
    Parts (packComponents Format.binary64 (signOf negative) exponent mantissa).toNat negative
      exponent.toNat mantissa.toNat := by
  refine ⟨?_, exponent.isLt, mantissa.isLt⟩
  have sign : (signOf negative).toBitVec.toNat = negative.toNat := by
    cases negative <;> rfl
  change ((signOf negative).toBitVec ++ exponent ++ mantissa).toNat = _
  rw [BitVec.toNat_append, ← Nat.shiftLeft_add_eq_or_of_lt mantissa.isLt, BitVec.toNat_append,
    ← Nat.shiftLeft_add_eq_or_of_lt exponent.isLt, Nat.shiftLeft_eq, Nat.shiftLeft_eq, sign]
  omega

namespace Binary

/-- The parts of a finite double that the arithmetic of doubles is defined on. -/
def unpacked (x : Binary) : UnpackedFloat :=
  if pos : 0 < x.mantissa then .finite (signOf x.negative) x.mantissa x.exponent pos
  else .zero (signOf x.negative)

/-- The double that is made of its parts. -/
def toFloat (x : Binary) : Float :=
  .ofModel (.pack x.unpacked)

/-- The parts are those of a double. -/
def Fits (x : Binary) : Prop :=
  x.mantissa = 0 ∧ x.exponent = -1074 ∨ IsDouble x.mantissa x.exponent

theorem size_eq (x : Binary) :
    (x.mantissa : ℚ) * 2 ^ x.exponent = x.numerator / x.denominator := by
  unfold numerator denominator
  rcases Int.le_total 0 x.exponent with above | below
  · have up : x.exponent = (x.exponent.toNat : ℤ) := by omega
    have none : (-x.exponent).toNat = 0 := by omega
    rw [none, Nat.pow_eq, Nat.pow_eq, pow_zero, Nat.cast_one, div_one]
    push_cast
    rw [← zpow_natCast, ← up]
  · have down : x.exponent = -((-x.exponent).toNat : ℤ) := by omega
    have none : x.exponent.toNat = 0 := by omega
    rw [none, Nat.pow_eq, Nat.pow_eq, pow_zero, mul_one, div_eq_mul_inv]
    push_cast
    rw [← zpow_natCast, ← zpow_neg, ← down]

variable {x : Binary} {f : Float}

theorem parts_toFloat (fits : x.Fits) :
    Parts x.toFloat.toBits.toNat x.negative
      (if x.mantissa < 2 ^ 52 then 0 else (x.exponent + 1075).toNat) (x.mantissa % 2 ^ 52) := by
  obtain ⟨negative, mantissa, exponent⟩ := x
  change Parts (UnpackedFloat.pack Format.binary64 (unpacked ⟨negative, mantissa, exponent⟩)).toNat
    negative (if mantissa < 2 ^ 52 then 0 else (exponent + 1075).toNat) (mantissa % 2 ^ 52)
  rcases fits with ⟨rfl, rfl⟩ | double
  · exact parts_packComponents negative 0 0
  · have positive : 0 < mantissa := double.pos
    have small : mantissa < 2 ^ 53 := double.small
    have least : -1074 ≤ exponent := double.least
    have most : exponent ≤ 971 := double.most
    have biased : (exponent + Format.binary64.exponentBias +
        Format.binary64.mantissaBitsWithoutImplicit).toNat = (exponent + 1075).toNat := by
      change (exponent + 1023 + 52).toNat = _
      omega
    have narrow : ¬ 2 ^ Format.binary64.exponentBits ≤ (exponent + 1075).toNat + 1 := by
      change ¬ 2048 ≤ _
      omega
    have log : mantissa.log2 + 1 = Format.binary64.mantissaBits ↔ ¬ mantissa < 2 ^ 52 := by
      have bits := (Nat.log2_lt positive.ne').mpr small
      rw [← Nat.log2_lt positive.ne']
      change _ = 53 ↔ _
      omega
    simp only [unpacked, dif_pos positive, UnpackedFloat.pack, biased, if_neg narrow, log]
    by_cases low : mantissa < 2 ^ 52
    · rw [if_neg (not_not.mpr low), if_pos low]
      exact parts_packComponents negative 0 (BitVec.ofNat 52 mantissa)
    · have parts := parts_packComponents negative (BitVec.ofNat 11 (exponent + 1075).toNat)
        (BitVec.ofNat 52 mantissa)
      rw [BitVec.toNat_ofNat, BitVec.toNat_ofNat,
        Nat.mod_eq_of_lt (by omega : (exponent + 1075).toNat < 2 ^ 11)] at parts
      rw [if_pos low, if_neg low]
      exact parts

theorem ofFloat_toFloat (fits : x.Fits) : Kind.ofFloat x.toFloat = .finite x := by
  rw [(parts_toFloat fits).ofFloat_eq]
  obtain ⟨negative, mantissa, exponent⟩ := x
  rcases fits with ⟨rfl, rfl⟩ | ⟨pos, small, full, least, most⟩
  · rfl
  · dsimp only at *
    by_cases low : mantissa < 2 ^ 52
    · have lowest : exponent = -1074 := full.resolve_left (by omega)
      rw [if_pos low, if_neg (by omega), if_pos rfl, Nat.mod_eq_of_lt low, lowest]
    · have whole : 2 ^ 52 + mantissa % 2 ^ 52 = mantissa := by omega
      have back : ((exponent + 1075).toNat : ℤ) - 1075 = exponent := by omega
      rw [if_neg low, if_neg (by omega), if_neg (by omega), whole, back]

/-- Everything there is to know of a finite double. -/
theorem of_finite (kind : Kind.ofFloat f = .finite x) :
    x.Fits ∧ f.toModel.unpack = x.unpacked ∧ f = x.toFloat := by
  obtain ⟨negative, biased, fraction, parts⟩ := Parts.exists_of_lt f.toBits.toBitVec.isLt
  change Parts f.toBits.toNat negative biased fraction at parts
  have narrow := parts.biased_lt
  have low := parts.fraction_lt
  have unpack := parts.unpack_eq
  rw [parts.ofFloat_eq] at kind
  suffices same : x.Fits ∧ f.toModel.unpack = x.unpacked by
    refine ⟨same.1, same.2, ?_⟩
    rw [toFloat, ← same.2]
    exact (Float.ofBits_toBits f).symm
  split at kind
  · split at kind <;> cases kind
  · next lower =>
    rw [if_neg lower] at unpack
    split at kind
    · next zero =>
      cases kind
      rw [unpack, if_pos zero]
      by_cases none : fraction = 0
      · cases none
        exact ⟨Or.inl ⟨rfl, rfl⟩, rfl⟩
      · have double : IsDouble fraction (-1074) :=
          ⟨Nat.pos_of_ne_zero none, by omega, Or.inr rfl, by decide, by decide⟩
        rw [dif_neg none]
        exact ⟨Or.inr double, (dif_pos double.pos).symm⟩
    · next some =>
      cases kind
      have double : IsDouble (2 ^ 52 + fraction) (biased - 1075) :=
        ⟨by omega, by omega, Or.inl (by omega), by omega, by omega⟩
      rw [unpack, if_neg some]
      exact ⟨Or.inr double, (dif_pos double.pos).symm⟩

theorem neg_toFloat (fits : x.Fits) :
    -x.toFloat = toFloat { x with negative := !x.negative } := by
  have unpack := (of_finite (ofFloat_toFloat fits)).2.1
  change Float.ofModel (.pack x.toFloat.toModel.unpack.neg) = .ofModel (.pack _)
  rw [unpack]
  obtain ⟨negative, mantissa, exponent⟩ := x
  unfold unpacked
  dsimp only
  split <;> cases negative <;> rfl

/-- A double has a kind with parts just if it is finite. -/
theorem isFinite_iff : f.isFinite = true ↔ ∃ x, Kind.ofFloat f = .finite x := by
  constructor
  · intro finite
    obtain ⟨negative, biased, fraction, parts⟩ := Parts.exists_of_lt f.toBits.toBitVec.isLt
    change Parts f.toBits.toNat negative biased fraction at parts
    change f.toModel.unpack.isFinite = true at finite
    rw [parts.unpack_eq] at finite
    rw [parts.ofFloat_eq]
    split
    · next full =>
      rw [if_pos full] at finite
      split at finite <;> cases finite
    · split
      · exact ⟨_, rfl⟩
      · exact ⟨_, rfl⟩
  · intro ⟨x, kind⟩
    change f.toModel.unpack.isFinite = true
    rw [(of_finite kind).2.1]
    unfold unpacked
    split <;> rfl

end Binary

theorem isFinite_eq (f : Float) : f.isFinite = !(f.isNaN || f.isInf) := by
  change f.toModel.unpack.isFinite =
    !(f.toModel.unpack.isNaN || f.toModel.unpack.isInf)
  cases f.toModel.unpack <;> rfl

end Walkthrough.Decimal
