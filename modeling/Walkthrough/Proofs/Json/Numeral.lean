import Mathlib.Tactic.IntervalCases
import Walkthrough.Json.Writing
import Walkthrough.Proofs.Decimal.Shortest
import Walkthrough.Proofs.Json.Standard

/-!
# Numbers in documents

A number is read back from its text: whole numbers exactly
(`Walkthrough.Json.Standard.readNumber_int`), and finite doubles from their shortest decimal
(`Walkthrough.Json.Standard.readNumber_shortestText`).
-/

namespace Walkthrough.Json.Standard

/-- What stands behind a value in a document that was written: nothing, a comma, or a new line. -/
def Closes (rest : List Char) : Prop :=
  ∀ c ∈ rest.head?, c = ',' ∨ c = '\n'

/-- A text that does not go on with a digit. -/
def NoDigit (rest : List Char) : Prop :=
  ∀ c ∈ rest.head?, c.isDigit = false

section Digits

variable {digits rest : List Char}

theorem Closes.noDigit (closes : Closes rest) : NoDigit rest := by
  intro c head
  rcases closes c head with rfl | rfl <;> rfl

theorem takeWhile_digits (ascii : ∀ c ∈ digits, c.isDigit = true) (ends : NoDigit rest) :
    (digits ++ rest).takeWhile Char.isDigit = digits := by
  rw [List.takeWhile_append_of_pos ascii]
  cases rest with
  | nil => simp
  | cons c more =>
      have other := ends c rfl
      rw [List.takeWhile_cons_of_neg (by simp [other]), List.append_nil]

theorem dropWhile_digits (ascii : ∀ c ∈ digits, c.isDigit = true) (ends : NoDigit rest) :
    (digits ++ rest).dropWhile Char.isDigit = rest := by
  rw [List.dropWhile_append_of_pos ascii]
  cases rest with
  | nil => rfl
  | cons c more =>
      have other := ends c rfl
      exact List.dropWhile_cons_of_neg (by simp [other])

end Digits

/-- A number without its sign as it is spelled. -/
structure Numeral where
  whole : List Char
  /-- The digits behind the point; there is none without digits. -/
  fraction : List Char
  /-- The power of ten, negated or not, if there is one. -/
  power : Option (Bool × List Char)

namespace Numeral

/-- The text of the power of ten. -/
def powerChars (power : Option (Bool × List Char)) : List Char :=
  match power with
  | some (negative, digits) => 'e' :: (if negative then '-' else '+') :: digits
  | none => []

/-- The text of a number. -/
def chars (n : Numeral) : List Char :=
  n.whole ++ ((if n.fraction.isEmpty then [] else '.' :: n.fraction) ++ powerChars n.power)

/-- The power of ten that is named. -/
def exponent (n : Numeral) : Int :=
  match n.power with
  | some (negative, digits) =>
    let size : Int := Decimal.digitsValue digits
    if negative then -size else size
  | none => 0

/-- What a number stands for: a whole number unless it has a fraction or a power. -/
def value (n : Numeral) (negative : Bool) : Number :=
  if n.fraction.isEmpty && n.power.isNone then
    let size : Int := Decimal.digitsValue n.whole
    .int (if negative then -size else size)
  else
    let size := Decimal.ofDigits n.whole n.fraction n.exponent
    .float (if negative then -size else size)

/-- The grammar of numbers. -/
structure Proper (n : Numeral) : Prop where
  starts : n.whole = ['0'] ∨ ∃ c more, n.whole = c :: more ∧ c ≠ '0'
  whole : ∀ c ∈ n.whole, c.isDigit = true
  fraction : ∀ c ∈ n.fraction, c.isDigit = true
  power : ∀ sign digits, n.power = some (sign, digits) →
    digits ≠ [] ∧ ∀ c ∈ digits, c.isDigit = true

variable {n : Numeral} {rest : List Char}

theorem wholePart_append (proper : n.Proper) (ends : NoDigit rest) :
    wholePart (n.whole ++ rest) = n.whole := by
  have run := takeWhile_digits proper.whole ends
  rcases proper.starts with zero | ⟨c, more, start, other⟩
  · rw [zero]
    rfl
  · rw [start] at run ⊢
    unfold wholePart
    split
    · next same =>
      exact absurd (List.cons.inj same).1 other
    · exact run

theorem noDigit_powerChars (power : Option (Bool × List Char)) (closes : Closes rest) :
    NoDigit (powerChars power ++ rest) := by
  cases power with
  | none => exact closes.noDigit
  | some power =>
      intro c head
      cases head
      rfl

theorem readExponent_powerChars (proper : n.Proper) (closes : Closes rest) :
    readExponent (powerChars n.power ++ rest) =
      (n.power.map fun _ => n.exponent, rest) := by
  unfold exponent
  cases shape : n.power with
  | none =>
      cases rest with
      | nil => rfl
      | cons c more => rcases closes c rfl with rfl | rfl <;> rfl
  | some power =>
      obtain ⟨negative, digits⟩ := power
      obtain ⟨some, ascii⟩ := proper.power negative digits shape
      have run := takeWhile_digits ascii closes.noDigit
      have after := dropWhile_digits ascii closes.noDigit
      have whole : digits.isEmpty = false := by simpa using some
      cases negative <;> simp [powerChars, readExponent, run, after, whole]

theorem readFraction_chars (proper : n.Proper) (closes : Closes rest) :
    readFraction ((if n.fraction.isEmpty then [] else '.' :: n.fraction) ++
      (powerChars n.power ++ rest)) =
        (if n.fraction.isEmpty then none else some n.fraction, powerChars n.power ++ rest) := by
  cases whole : n.fraction.isEmpty with
  | true =>
      cases n.power with
      | none =>
          cases rest with
          | nil => rfl
          | cons c more => rcases closes c rfl with rfl | rfl <;> rfl
      | some power => rfl
  | false =>
      have ends := noDigit_powerChars n.power closes
      simp [readFraction, takeWhile_digits proper.fraction ends,
        dropWhile_digits proper.fraction ends, whole]

/-- A number is read as what it stands for. -/
theorem readSize_chars (proper : n.Proper) (closes : Closes rest) (negative : Bool) :
    readSize negative (n.chars ++ rest) = some (n.value negative, rest) := by
  have some : n.whole.isEmpty = false := by
    rcases proper.starts with zero | ⟨c, more, start, -⟩
    · rw [zero]
      rfl
    · rw [start]
      rfl
  have ends : NoDigit ((if n.fraction.isEmpty then [] else '.' :: n.fraction) ++
      (powerChars n.power ++ rest)) := by
    split
    · exact noDigit_powerChars n.power closes
    · intro c head
      cases head
      rfl
  rw [chars, List.append_assoc, List.append_assoc]
  simp only [readSize, wholePart_append proper ends, some, List.drop_left, Bool.false_eq_true,
    if_false, readFraction_chars proper closes, readExponent_powerChars proper closes]
  unfold value
  cases whole : n.fraction.isEmpty with
  | true =>
      have none : n.fraction = [] := by simpa using whole
      cases power : n.power with
      | none => simp
      | some power => simp [none]
  | false =>
      cases power : n.power with
      | none => simp [exponent, power]
      | some power => simp

end Numeral

section Values

open Decimal

theorem digitsValue_append (a b : List Char) :
    digitsValue (a ++ b) = digitsValue a * 10 ^ b.length + digitsValue b := by
  have fold (n : Nat) : b.foldl (fun n c => 10 * n + (c.toNat - '0'.toNat)) n =
      n * 10 ^ b.length + digitsValue b := by
    unfold digitsValue
    induction b generalizing n with
    | nil => simp
    | cons c rest ih =>
        rw [List.foldl_cons, List.foldl_cons, ih, ih (10 * 0 + _), List.length_cons, pow_succ]
        ring
  rw [digitsValue, List.foldl_append, fold]
  rfl

theorem digitsValue_zeros (count : Nat) : digitsValue (List.replicate count '0') = 0 := by
  induction count with
  | zero => rfl
  | succ count ih =>
      rw [List.replicate_succ', digitsValue_append, ih, zero_mul]
      rfl

theorem digitsValue_toDigits (n : Nat) : digitsValue (Nat.toDigits 10 n) = n :=
  Nat.ofDigitChars_ten_toDigits

theorem isDigit_toDigits {n : Nat} {c : Char} (among : c ∈ Nat.toDigits 10 n) :
    c.isDigit = true :=
  Nat.isDigit_of_mem_toDigits (by decide) (by decide) among

/-- The digits of a number do not start with a zero. -/
theorem toDigits_eq_cons {n : Nat} (some : 0 < n) :
    ∃ c more, Nat.toDigits 10 n = c :: more ∧ c ≠ '0' := by
  induction n using Nat.strong_induction_on with
  | h n ih =>
      by_cases small : n < 10
      · refine ⟨n.digitChar, [], Nat.toDigits_of_lt_base small, ?_⟩
        interval_cases n <;> decide
      · obtain ⟨c, more, start, other⟩ := ih (n / 10) (by omega) (by omega)
        exact ⟨c, more ++ [(n % 10).digitChar],
          by rw [Nat.toDigits_of_base_le (by decide) (by omega), start, List.cons_append], other⟩

theorem proper_whole (n : Nat) : (Numeral.mk (Nat.toDigits 10 n) [] none).Proper := by
  refine ⟨?_, fun c => isDigit_toDigits, fun c among => absurd among List.not_mem_nil,
    fun sign digits same => Option.noConfusion rfl (heq_of_eq same)⟩
  rcases Nat.eq_zero_or_pos n with zero | some
  · rw [zero]
    exact Or.inl (Nat.toDigits_zero 10)
  · exact Or.inr (toDigits_eq_cons some)

theorem readSize_toDigits {rest : List Char} (n : Nat) (negative : Bool) (closes : Closes rest) :
    readSize negative (Nat.toDigits 10 n ++ rest) =
      some (.int (if negative then -(n : Int) else n), rest) := by
  have read := Numeral.readSize_chars (proper_whole n) closes negative
  simpa [Numeral.chars, Numeral.powerChars, Numeral.value, digitsValue_toDigits] using read

/-- Only what starts with a digit is read as a number without a sign. -/
theorem starts_of_readSize {negative : Bool} {s : List Char} {read : Number × List Char}
    (found : readSize negative s = some read) : ∃ c more, s = c :: more ∧ c.isDigit = true := by
  have whole : (wholePart s).isEmpty = false := by
    cases none : (wholePart s).isEmpty with
    | false => rfl
    | true => simp [readSize, none] at found
  unfold wholePart at whole
  split at whole
  · exact ⟨'0', _, rfl, rfl⟩
  · cases s with
    | nil => cases whole
    | cons c more =>
        cases digit : c.isDigit with
        | true => exact ⟨c, more, rfl, digit⟩
        | false => simp [digit] at whole

theorem readNumber_of_digit {s : List Char} (starts : ∀ c ∈ s.head?, c ≠ '-') :
    readNumber s = readSize false s := by
  unfold readNumber
  split
  · exact absurd rfl (starts _ rfl)
  · rfl

/-- A whole number is read back from its text. -/
theorem readNumber_int {rest : List Char} (value : Int) (closes : Closes rest) :
    readNumber ((toString value).toList ++ rest) = some (.int value, rest) := by
  cases value with
  | ofNat n =>
      have text : (toString (Int.ofNat n)).toList = Nat.toDigits 10 n := Nat.toList_repr
      rw [text, readNumber_of_digit]
      · exact readSize_toDigits n false closes
      · intro c head same
        obtain ⟨first, more, start, digit⟩ :=
          starts_of_readSize (readSize_toDigits n false closes)
        rw [start] at head
        cases head
        rw [same] at digit
        cases digit
  | negSucc n =>
      have text : (toString (Int.negSucc n)).toList = '-' :: Nat.toDigits 10 (n + 1) := by
        change ("-" ++ Nat.repr (n + 1)).toList = _
        rw [String.toList_append, Nat.toList_repr]
        rfl
      rw [text]
      exact readSize_toDigits (n + 1) true closes

end Values

section Layouts

open Decimal

/-- A spelling of a double: it is read as a double, as that nearest to a decimal. -/
structure Spells (n : Numeral) (value : ℚ) : Prop where
  proper : n.Proper
  float : (n.fraction.isEmpty && n.power.isNone) = false
  value : (digitsValue (n.whole ++ n.fraction) : ℚ) * 10 ^ (n.exponent - n.fraction.length) = value

variable {digits : List Char}

theorem spells_point {whole fraction : List Char} {value : ℚ}
    (starts : whole = ['0'] ∨ ∃ c more, whole = c :: more ∧ c ≠ '0')
    (ascii : ∀ c ∈ whole ++ fraction, c.isDigit = true) (some : fraction ≠ [])
    (same : (digitsValue (whole ++ fraction) : ℚ) * 10 ^ (-(fraction.length : ℤ)) = value) :
    Spells ⟨whole, fraction, none⟩ value where
  proper := {
    starts
    whole := fun c among => ascii c (List.mem_append_left _ among)
    fraction := fun c among => ascii c (List.mem_append_right _ among)
    power := fun _ _ same => Option.noConfusion rfl (heq_of_eq same) }
  float := by simpa using some
  value := by
    rw [← same]
    simp [Numeral.exponent]

theorem isDigit_of_mem_zeros {count : ℕ} {c : Char} (among : c ∈ List.replicate count '0') :
    c.isDigit = true := by
  rw [List.eq_of_mem_replicate among]
  rfl

/-- A decimal below one starts with zeros. -/
theorem spells_small (ascii : ∀ c ∈ digits, c.isDigit = true) (some : digits ≠ []) {point : ℤ}
    (before : point ≤ 0) :
    Spells ⟨['0'], List.replicate (-point).toNat '0' ++ digits, none⟩
      (digitsValue digits * 10 ^ (point - digits.length)) := by
  refine spells_point (Or.inl rfl) ?_ (by simp [some]) ?_
  · intro c among
    rcases List.mem_append.mp among with zero | among
    · rw [List.mem_singleton.mp zero]
      rfl
    · rcases List.mem_append.mp among with zero | among
      · exact isDigit_of_mem_zeros zero
      · exact ascii c among
  · have places : (-point).toNat = -point := by omega
    rw [← List.append_assoc, digitsValue_append]
    change ((digitsValue (List.replicate (_ + 1) '0') * _ + _ : ℕ) : ℚ) * _ = _
    rw [digitsValue_zeros, zero_mul, zero_add, List.length_append, List.length_replicate]
    congr 2
    push_cast
    omega

/-- A decimal without a fraction is filled up with zeros. -/
theorem spells_large (starts : ∃ c more, digits = c :: more ∧ c ≠ '0')
    (ascii : ∀ c ∈ digits, c.isDigit = true) {point : ℤ} (short : digits.length ≤ point.toNat) :
    Spells ⟨digits ++ List.replicate (point.toNat - digits.length) '0', ['0'], none⟩
      (digitsValue digits * 10 ^ (point - digits.length)) := by
  obtain ⟨first, more, start, other⟩ := starts
  refine spells_point (Or.inr ⟨first, _, by rw [start, List.cons_append], other⟩) ?_
    (List.cons_ne_nil _ _) ?_
  · intro c among
    rw [List.append_assoc, ← List.replicate_succ'] at among
    rcases List.mem_append.mp among with among | zero
    · exact ascii c among
    · exact isDigit_of_mem_zeros zero
  · have whole : 0 < digits.length := by
      rw [start]
      exact Nat.succ_pos _
    have places : ((point.toNat - digits.length : ℕ) : ℤ) = point - digits.length := by omega
    rw [List.append_assoc, ← List.replicate_succ', digitsValue_append, digitsValue_zeros,
      List.length_replicate, ← places, zpow_natCast]
    push_cast
    simp only [List.length_singleton, Nat.cast_one, zpow_neg, zpow_one, pow_succ]
    ring

/-- The point of a decimal may stand between its digits. -/
theorem spells_between (starts : ∃ c more, digits = c :: more ∧ c ≠ '0')
    (ascii : ∀ c ∈ digits, c.isDigit = true) {point : ℤ} (after : 0 < point)
    (long : point.toNat < digits.length) :
    Spells ⟨digits.take point.toNat, digits.drop point.toNat, none⟩
      (digitsValue digits * 10 ^ (point - digits.length)) := by
  obtain ⟨first, more, start, other⟩ := starts
  have whole : digits.take point.toNat ++ digits.drop point.toNat = digits :=
    List.take_append_drop ..
  refine spells_point (Or.inr ⟨first, more.take (point.toNat - 1), ?_, other⟩) ?_ ?_ ?_
  · have count : point.toNat = (point.toNat - 1) + 1 := by omega
    rw [count, start, List.take_succ_cons, Nat.add_sub_cancel]
  · rw [whole]
    exact ascii
  · simpa using long
  · rw [whole, List.length_drop]
    congr 2
    omega

/-- With its point written out, a decimal keeps its value. -/
theorem spells_positional (starts : ∃ c more, digits = c :: more ∧ c ≠ '0')
    (ascii : ∀ c ∈ digits, c.isDigit = true) (point : ℤ) :
    ∃ n, positional digits point = n.chars ∧
      Spells n (digitsValue digits * 10 ^ (point - digits.length)) := by
  have some : digits ≠ [] := by
    obtain ⟨first, more, start, -⟩ := starts
    rw [start]
    exact List.cons_ne_nil first more
  unfold positional
  split
  · next before =>
    refine ⟨_, ?_, spells_small ascii some before⟩
    simp [Numeral.chars, Numeral.powerChars, some]
  · next after =>
    split
    · next short =>
      refine ⟨_, ?_, spells_large starts ascii short⟩
      simp [Numeral.chars, Numeral.powerChars]
    · next long =>
      refine ⟨_, ?_, spells_between starts ascii (by omega) (Nat.lt_of_not_le long)⟩
      have rest : (digits.drop point.toNat).isEmpty = false := by
        simpa using Nat.lt_of_not_le long
      simp [Numeral.chars, Numeral.powerChars, rest]

/-- With a power of ten, a decimal keeps its value. -/
theorem spells_exponential (layout : Layout) (starts : ∃ c more, digits = c :: more ∧ c ≠ '0')
    (ascii : ∀ c ∈ digits, c.isDigit = true) (point : ℤ) :
    ∃ n, exponential layout digits point = n.chars ∧
      Spells n (digitsValue digits * 10 ^ (point - digits.length)) := by
  obtain ⟨first, more, start, other⟩ := starts
  let power := Nat.toDigits 10 (point - 1).natAbs
  let shown := List.replicate (layout.exponentDigits - power.length) '0' ++ power
  have size : digitsValue shown = (point - 1).natAbs := by
    rw [digitsValue_append, digitsValue_zeros, zero_mul, zero_add, digitsValue_toDigits]
  have exponent : (Numeral.mk [first] more (some (decide (point - 1 < 0), shown))).exponent =
      point - 1 := by
    simp only [Numeral.exponent, size, decide_eq_true_eq]
    split <;> omega
  refine ⟨⟨[first], more, some (decide (point - 1 < 0), shown)⟩, ?_, ?_, ?_, ?_⟩
  · rw [start]
    unfold exponential
    cases more with
    | nil => simp [Numeral.chars, Numeral.powerChars, shown, power]
    | cons second more => simp [Numeral.chars, Numeral.powerChars, shown, power]
  · refine ⟨Or.inr ⟨first, [], rfl, other⟩, fun c among => ?_, fun c among => ?_,
      fun sign l same => ?_⟩
    · rw [List.mem_singleton.mp among]
      exact ascii first (start ▸ List.mem_cons_self)
    · exact ascii c (start ▸ List.mem_cons_of_mem _ among)
    · cases same
      refine ⟨by simp [shown, power], fun c among => ?_⟩
      rcases List.mem_append.mp among with zero | among
      · exact isDigit_of_mem_zeros zero
      · exact isDigit_toDigits among
  · simp
  · rw [exponent, start]
    change (digitsValue (first :: more) : ℚ) * _ = _
    congr 2
    rw [List.length_cons]
    push_cast
    ring

theorem dropZeros_spec (fuel n : ℕ) :
    n = (dropZeros fuel n).1 * 10 ^ (dropZeros fuel n).2 := by
  induction fuel generalizing n with
  | zero => simp [dropZeros]
  | succ fuel ih =>
      unfold dropZeros
      split
      · next ends =>
        have tenth : n % 10 = 0 := by
          have := (Bool.and_eq_true_iff.mp ends).2
          simpa using this
        have half := ih (n / 10)
        dsimp only
        rw [pow_succ, ← mul_assoc, ← half]
        omega
      · simp

/-- A decimal is laid out as a number that has its value. -/
theorem spells_lay (layout : Layout) {x : Scaled} (some : 0 < x.coefficient) :
    ∃ n, x.lay layout = n.chars ∧ Spells n (x.coefficient * 10 ^ x.exponent) := by
  have whole := dropZeros_spec 20 x.coefficient
  unfold Scaled.lay
  generalize dropZeros 20 x.coefficient = dropped at whole
  obtain ⟨coefficient, zeros⟩ := dropped
  dsimp only at whole ⊢
  have more : 0 < coefficient := by
    apply Nat.pos_of_ne_zero
    intro zero
    rw [zero, zero_mul] at whole
    omega
  have starts := toDigits_eq_cons more
  have ascii : ∀ c ∈ Nat.toDigits 10 coefficient, c.isDigit = true := fun c => isDigit_toDigits
  have value : (x.coefficient : ℚ) * 10 ^ x.exponent =
      digitsValue (Nat.toDigits 10 coefficient) *
        10 ^ ((Nat.toDigits 10 coefficient).length + zeros + x.exponent -
          (Nat.toDigits 10 coefficient).length) := by
    have places : ((Nat.toDigits 10 coefficient).length : ℤ) + zeros + x.exponent -
        (Nat.toDigits 10 coefficient).length = zeros + x.exponent := by ring
    rw [places, zpow_add₀ (by norm_num), zpow_natCast, digitsValue_toDigits, whole]
    push_cast
    ring
  rw [value]
  split
  · exact spells_positional starts ascii _
  · exact spells_exponential layout starts ascii _

end Layouts

section Doubles

open Decimal

variable {rest : List Char}

theorem Spells.readSize_eq {n : Numeral} {value : ℚ} {mantissa : ℕ} {exponent : ℤ}
    (spells : Spells n value) (double : IsDouble mantissa exponent)
    (near : Near mantissa exponent value) (closes : Closes rest) (negative : Bool) :
    readSize negative (n.chars ++ rest) =
      some (.float (Binary.toFloat ⟨negative, mantissa, exponent⟩), rest) := by
  have read : ofDigits n.whole n.fraction n.exponent = positive mantissa exponent := by
    apply nearest_eq double
    rw [spells.value]
    exact near
  have fits : Binary.Fits ⟨false, mantissa, exponent⟩ := Or.inr double
  rw [Numeral.readSize_chars spells.proper closes, Numeral.value, spells.float, read]
  cases negative with
  | false => rfl
  | true =>
      simp only [Bool.false_eq_true, if_false, if_true, positive, Binary.neg_toFloat fits]
      rfl

theorem zero_eq : (0.0 : Float) = Binary.toFloat ⟨false, 0, -1074⟩ := by
  decide +kernel

theorem readSize_zero (negative : Bool) (closes : Closes rest) :
    readSize negative (['0', '.', '0'] ++ rest) =
      some (.float (Binary.toFloat ⟨negative, 0, -1074⟩), rest) := by
  have proper : (Numeral.mk ['0'] ['0'] none).Proper := by
    refine ⟨Or.inl rfl, ?_, ?_, fun _ _ same => Option.noConfusion rfl (heq_of_eq same)⟩ <;> simp
  have read := Numeral.readSize_chars proper closes negative
  have zero : ofDigits ['0'] ['0'] 0 = 0.0 := rfl
  have fits : Binary.Fits ⟨false, 0, -1074⟩ := Or.inl ⟨rfl, rfl⟩
  have value : (Numeral.mk ['0'] ['0'] none).value negative =
      .float (Binary.toFloat ⟨negative, 0, -1074⟩) := by
    change Number.float (if negative then -ofDigits ['0'] ['0'] 0 else ofDigits ['0'] ['0'] 0) = _
    rw [zero, zero_eq]
    cases negative with
    | false => rfl
    | true =>
        rw [if_pos rfl, Binary.neg_toFloat fits]
        rfl
  rw [value] at read
  exact read

/-- A finite double is read back from its shortest decimal. -/
theorem readNumber_shortestText {x : Float} (finite : x.isFinite = true) (closes : Closes rest) :
    readNumber ((shortestText x).toList ++ rest) = some (.float x, rest) := by
  obtain ⟨parts, kind⟩ := Binary.isFinite_iff.mp finite
  obtain ⟨fits, -, made⟩ := Binary.of_finite kind
  have size : ∀ negative, readSize negative
      ((if parts.mantissa == 0 then ['0', '.', '0'] else parts.shortest.lay plainLayout) ++ rest) =
        some (.float (Binary.toFloat ⟨negative, parts.mantissa, parts.exponent⟩), rest) := by
    intro negative
    rcases fits with ⟨none, least⟩ | double
    · rw [if_pos (beq_iff_eq.mpr none), none, least]
      exact readSize_zero negative closes
    · have near := Binary.shortest_near double
      obtain ⟨n, chars, spells⟩ := spells_lay plainLayout (double.coefficient_pos near)
      have more : (parts.mantissa == 0) = false := beq_eq_false_iff_ne.mpr double.pos.ne'
      rw [more, if_neg Bool.false_ne_true, chars]
      exact spells.readSize_eq double near closes negative
  have sign := size parts.negative
  have starts : ∀ c ∈ ((if parts.mantissa == 0 then ['0', '.', '0']
      else parts.shortest.lay plainLayout) ++ rest).head?, c ≠ '-' := by
    obtain ⟨first, more, start, digit⟩ := starts_of_readSize sign
    intro c head same
    rw [start] at head
    cases head
    rw [same] at digit
    cases digit
  simp only [shortestText, kind, String.toList_ofList]
  obtain ⟨negative, mantissa, exponent⟩ := parts
  rw [made]
  cases negative with
  | false =>
      rw [if_neg Bool.false_ne_true, readNumber_of_digit starts]
      exact sign
  | true => exact sign

end Doubles

end Walkthrough.Json.Standard
