import Walkthrough.Decimal.Number
import Walkthrough.Instant
import Walkthrough.Proofs.Text.Letters

/-!
# What numbers and times are written with

Numbers, times and names are written with letters, digits and a few signs
(`Walkthrough.areFigures_fixed`, `Walkthrough.areFigures_isoSeconds`). So they break no line, and
hold none of the signs that mean something in a table or in markup.
-/

namespace Walkthrough

/-- Letters, digits and the signs that numbers, times and names are written with. -/
def isFigure (c : Char) : Bool :=
  Text.liesIn [(0x2B, 0x2B), (0x2D, 0x2E), (0x30, 0x3A), (0x41, 0x5A), (0x5F, 0x5F), (0x61, 0x7A)] c

/-- Whether a text is written with such characters alone. -/
def areFigures (text : String) : Bool :=
  text.toList.all isFigure

/-- A character of another kind is none of them. -/
theorem ne_of_isFigure {c d : Char} (figure : isFigure c = true) (other : isFigure d = false) :
    c ≠ d := by
  rintro rfl
  rw [figure] at other
  cases other

theorem isLineBreak_of_isFigure {c : Char} (figure : isFigure c = true) :
    Text.isLineBreak c = false :=
  Text.liesIn_eq_false (by decide) figure

theorem isFigure_of_isDigit {c : Char} (digit : c.isDigit = true) : isFigure c = true := by
  simp only [Char.isDigit, Bool.and_eq_true, decide_eq_true_eq] at digit
  have lower : 48 ≤ c.toNat := digit.1
  have upper : c.toNat ≤ 57 := digit.2
  refine List.any_eq_true.mpr ⟨(0x30, 0x3A), by simp, ?_⟩
  simp only [Bool.and_eq_true, decide_eq_true_eq]
  omega

theorem areFigures_append {first second : String} :
    areFigures (first ++ second) = (areFigures first && areFigures second) := by
  rw [areFigures, String.toList_append, List.all_append]
  rfl

theorem isDigit_of_mem_toString {n : Nat} {c : Char} (among : c ∈ (toString n).toList) :
    c.isDigit = true := by
  rw [Nat.toString_eq_repr, Nat.toList_repr] at among
  exact Nat.isDigit_of_mem_toDigits (by decide) (by decide) among

theorem areFigures_nat (n : Nat) : areFigures (toString n) = true :=
  List.all_eq_true.mpr fun _ among => isFigure_of_isDigit (isDigit_of_mem_toString among)

theorem areFigures_int (i : Int) : areFigures (toString i) = true := by
  cases i with
  | ofNat n => exact areFigures_nat n
  | negSucc n =>
      have sign : areFigures "-" = true := rfl
      have written : toString (Int.negSucc n) = "-" ++ toString (n + 1) := rfl
      rw [written, areFigures_append, sign, areFigures_nat]
      rfl

section Places

/-- Digits behind zeros are figures. -/
theorem isFigure_of_mem_filled {count n : Nat} {c : Char}
    (among : c ∈ List.replicate count '0' ++ Nat.toDigits 10 n) : isFigure c = true := by
  rcases List.mem_append.mp among with zero | digit
  · rw [List.eq_of_mem_replicate zero]
    rfl
  · exact isFigure_of_isDigit (Nat.isDigit_of_mem_toDigits (by decide) (by decide) digit)

theorem isFigure_of_mem_placed {places units : Nat} {c : Char}
    (among : c ∈ Decimal.placed places units) : isFigure c = true := by
  simp only [Decimal.placed] at among
  split at among
  · exact isFigure_of_mem_filled (List.mem_of_mem_take among)
  · rcases List.mem_append.mp among with whole | rest
    · exact isFigure_of_mem_filled (List.mem_of_mem_take whole)
    · rcases List.mem_cons.mp rest with rfl | fraction
      · rfl
      · exact isFigure_of_mem_filled (List.mem_of_mem_drop fraction)

/-- A number with so many places is written with figures. -/
theorem areFigures_fixed (places : Nat) (number : Number) :
    areFigures (number.fixed places) = true := by
  unfold Number.fixed Decimal.fixedText
  split
  · rfl
  · next negative _ =>
      cases negative with
      | false => rfl
      | true => rfl
  · next value _ =>
      rw [areFigures, String.toList_ofList]
      refine List.all_eq_true.mpr fun c among => ?_
      cases negative : value.negative with
      | false =>
          simp only [negative, Bool.false_eq_true, if_false] at among
          exact isFigure_of_mem_placed among
      | true =>
          simp only [negative, if_true] at among
          rcases List.mem_cons.mp among with rfl | later
          · rfl
          · exact isFigure_of_mem_placed later

end Places

section Times

theorem areFigures_padded (width : Nat) (n : Int) : areFigures (Instant.padded width n) = true := by
  rw [areFigures, Instant.padded, String.toList_ofList]
  exact List.all_eq_true.mpr fun c among => isFigure_of_mem_filled among

theorem areFigures_offsetText (instant : Instant) : areFigures instant.offsetText = true := by
  have signs : areFigures "" = true ∧ areFigures "." = true ∧ areFigures ":" = true ∧
      areFigures "-" = true ∧ areFigures "+" = true := by decide
  unfold Instant.offsetText
  split
  · exact signs.1
  · simp only [areFigures_append, areFigures_padded, apply_ite areFigures, signs, Bool.and_self,
      ite_self]

/-- A time is written with figures. -/
theorem areFigures_isoSeconds (instant : Instant) : areFigures instant.isoSeconds = true := by
  simp only [Instant.isoSeconds, Instant.secondsText, Instant.dateText, Instant.timeText,
    areFigures_append, areFigures_padded, areFigures_offsetText]
  rfl

end Times

end Walkthrough
