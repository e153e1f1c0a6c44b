import Mathlib.Data.List.Chain
import Walkthrough.Json.Writing
import Walkthrough.Proofs.Json.Standard
import Walkthrough.Proofs.Text.Shown

/-!
# Strings in documents

A string is read back from its text, code by code (`Walkthrough.Json.Standard.readString_writeText`)
but for one thing: the two halves of a character, written one behind the other, are read as that
character.
-/

namespace Walkthrough.Text

/-- Whether a code is that of the first half of a character. -/
def isHigh (code : Nat) : Bool :=
  0xD800 ≤ code && code < 0xDC00

/-- Whether a code is that of the second half of a character. -/
def isLow (code : Nat) : Bool :=
  0xDC00 ≤ code && code < 0xE000

/-- The character that two halves make. -/
def wholeCode (high low : Nat) : Nat :=
  0x10000 + (high - 0xD800) * 0x400 + (low - 0xDC00)

/-- The codes of a text, with the halves of a character that stand side by side joined. -/
def joinHalves : List Nat → List Nat
  | high :: low :: rest =>
    if isHigh high && isLow low then wholeCode high low :: joinHalves rest
    else high :: joinHalves (low :: rest)
  | row => row

/-- A text with its halves joined. -/
def joined (text : String) : String :=
  String.ofList (ofCodes (joinHalves (codes text.toList)))

/-- A text with no halves to join, kept in the one way that its codes are kept. -/
structure Tidy (text : String) : Prop where
  kept : ofCodes (codes text.toList) = text.toList
  apart : (codes text.toList).IsChain fun code next => ¬ (isHigh code ∧ isLow next)

theorem joinHalves_eq_self {row : List Nat}
    (apart : row.IsChain fun code next => ¬ (isHigh code ∧ isLow next)) :
    joinHalves row = row := by
  induction row using joinHalves.induct with
  | case1 high low rest pair ih =>
      rw [List.isChain_cons_cons] at apart
      exact absurd (Bool.and_eq_true_iff.mp pair) apart.1
  | case2 high low rest other ih =>
      rw [List.isChain_cons_cons] at apart
      rw [joinHalves, if_neg other, ih apart.2]
  | case3 row short =>
      unfold joinHalves
      split
      · exact absurd rfl (short _ _ _)
      · rfl

theorem Tidy.joined_eq {text : String} (tidy : Tidy text) : joined text = text := by
  rw [joined, joinHalves_eq_self tidy.apart, tidy.kept, String.ofList_toList]

theorem kept_of_ascii {code : Nat} (ascii : code < 0x80) : kept code = [Char.ofNat code] := by
  have whole : isHalf code = false := by
    simp only [isHalf, Bool.and_eq_false_iff, decide_eq_false_iff_not]
    omega
  simp [kept, whole, needsMark_of_ascii ascii]

end Walkthrough.Text

namespace Walkthrough.Json.Standard

open Text

section Units

theorem hexValue?_hexDigit {n : Nat} (small : n < 16) :
    hexValue? (Quoted.hexDigit n) = some n := by
  have all : ∀ n : Fin 16, hexValue? (Quoted.hexDigit n) = some n.val := by decide
  exact all ⟨n, small⟩

theorem readUnit_hex {unit : Nat} (small : unit < 0x10000) (rest : List Char) :
    readUnit (Quoted.hex 4 unit ++ rest) = some (unit, rest) := by
  have value : ((unit / 16 / 16 / 16 % 16 * 16 + unit / 16 / 16 % 16) * 16 + unit / 16 % 16) * 16 +
      unit % 16 = unit := by omega
  simp only [Quoted.hex, List.nil_append, List.cons_append, readUnit,
    hexValue?_hexDigit (Nat.mod_lt _ (by decide : 16 > 0)), Option.bind_eq_bind, Option.bind_some,
    Option.pure_def, value]

/-- The text does not go on with the second half of a character. -/
def NoLow (s : List Char) : Prop :=
  ∀ after low more, s = '\\' :: 'u' :: after → readUnit after = some (low, more) → isLow low = false

theorem joinUnits_pair {high low : Nat} (first : isHigh high = true) (second : isLow low = true)
    (rest : List Char) : joinUnits high (unitEscape low ++ rest) = (wholeCode high low, rest) := by
  have small : low < 0x10000 := by
    simp only [isLow, Bool.and_eq_true, decide_eq_true_eq] at second
    omega
  unfold isHigh at first
  unfold isLow at second
  simp only [joinUnits, unitEscape, List.cons_append, readUnit_hex small, first, second, if_true]
  rfl

theorem joinUnits_alone {unit : Nat} {s : List Char} (alone : isHigh unit = true → NoLow s) :
    joinUnits unit s = (unit, s) := by
  unfold joinUnits
  dsimp only
  split
  · next high =>
    split
    · next after =>
      split
      · next low more read =>
        have other := alone high after low more rfl read
        unfold isLow at other
        rw [other, if_neg Bool.false_ne_true]
      · rfl
    · rfl
  · rfl

end Units

section Escapes

/-- How a code is written: by a letter, as it is, as one unit, or as two halves. -/
inductive Escaped : Nat → List Char → Prop where
  | letter {code : Nat} {e : Char} (ascii : code < 0x80) (other : e ≠ 'u')
      (reads : unescape? e = some (Char.ofNat code)) : Escaped code ['\\', e]
  | plain {code : Nat} (printable : 0x20 ≤ code) (ascii : code < 0x80)
      (noQuote : Char.ofNat code ≠ '"') (noEscape : Char.ofNat code ≠ '\\') :
      Escaped code [Char.ofNat code]
  | unit {code : Nat} (small : code < 0x10000) : Escaped code (unitEscape code)
  | pair {high low : Nat} (first : isHigh high = true) (second : isLow low = true) :
      Escaped (wholeCode high low) (unitEscape high ++ unitEscape low)

theorem eq_toNat_of_ofNat_eq {code : Nat} {c : Char} (some : c ≠ '\x00')
    (same : Char.ofNat code = c) : code = c.toNat := by
  by_cases valid : code.isValidChar
  · rw [← same, toNat_ofNat valid]
  · rw [Char.ofNat, dif_neg valid] at same
    exact absurd same.symm some

theorem escaped_escape {code : Nat} (small : code < 0x110000) : Escaped code (escape code) := by
  have letter {c e : Char} (same : (Char.ofNat code == c) = true) (some : c ≠ '\x00')
      (ascii : c.toNat < 0x80) (other : e ≠ 'u') (reads : unescape? e = .some c) :
      Escaped code ['\\', e] := by
    have same := beq_iff_eq.mp same
    refine .letter ?_ other (same ▸ reads)
    rw [eq_toNat_of_ofNat_eq some same]
    exact ascii
  unfold escape
  dsimp only
  split
  · next same => exact letter same (by decide) (by decide) (by decide) rfl
  · next noQuote =>
    split
    · next same => exact letter same (by decide) (by decide) (by decide) rfl
    · next noEscape =>
      split
      · next same => exact letter same (by decide) (by decide) (by decide) rfl
      split
      · next same => exact letter same (by decide) (by decide) (by decide) rfl
      split
      · next same => exact letter same (by decide) (by decide) (by decide) rfl
      split
      · next same => exact letter same (by decide) (by decide) (by decide) rfl
      split
      · next same => exact letter same (by decide) (by decide) (by decide) rfl
      split
      · next printable =>
        obtain ⟨low, high⟩ := Bool.and_eq_true_iff.mp printable
        exact .plain (of_decide_eq_true low) ((of_decide_eq_true high).trans (by decide))
          (fun same => noQuote (beq_iff_eq.mpr same)) (fun same => noEscape (beq_iff_eq.mpr same))
      split
      · next unit => exact .unit unit
      · next above =>
        have whole : wholeCode (0xD800 + (code - 0x10000) / 0x400)
            (0xDC00 + (code - 0x10000) % 0x400) = code := by
          unfold wholeCode
          omega
        have first : isHigh (0xD800 + (code - 0x10000) / 0x400) = true := by
          simp only [isHigh, Bool.and_eq_true, decide_eq_true_eq]
          omega
        have second : isLow (0xDC00 + (code - 0x10000) % 0x400) = true := by
          simp only [isLow, Bool.and_eq_true, decide_eq_true_eq]
          omega
        have pair := Escaped.pair first second
        rw [whole] at pair
        exact pair

variable {read rest : List Char}

theorem readText_unit {unit : Nat} (small : unit < 0x10000) (fuel : Nat) (s : List Char) :
    readText (fuel + 1) read (unitEscape unit ++ s) =
      readText fuel ((kept (joinUnits unit s).1).reverse ++ read) (joinUnits unit s).2 := by
  simp only [unitEscape, List.cons_append, readText, readUnit_hex small, Option.bind_eq_bind,
    Option.bind_some]

theorem isHalf_of_isHigh {code : Nat} (first : isHigh code = true) : isHalf code = true := by
  simp only [isHigh, isHalf, Bool.and_eq_true, decide_eq_true_eq] at first ⊢
  omega

theorem isHalf_of_isLow {code : Nat} (second : isLow code = true) : isHalf code = true := by
  simp only [isLow, isHalf, Bool.and_eq_true, decide_eq_true_eq] at second ⊢
  omega

theorem lt_of_isHalf {code : Nat} (half : isHalf code = true) : code < 0x10000 := by
  simp only [isHalf, Bool.and_eq_true, decide_eq_true_eq] at half
  omega

/-- One step reads one code. -/
theorem Escaped.readText_eq {code : Nat} {written s : List Char} (escaped : Escaped code written)
    (alone : isHigh code = true → NoLow s) (fuel : Nat) :
    readText (fuel + 1) read (written ++ s) = readText fuel ((kept code).reverse ++ read) s := by
  cases escaped with
  | letter ascii other reads =>
      rw [kept_of_ascii ascii]
      simp [readText, reads]
  | plain printable ascii noQuote noEscape =>
      have bare : ¬ (Char.ofNat code).toNat < 0x20 := by
        rw [toNat_ofNat (Or.inl (by omega))]
        omega
      rw [kept_of_ascii ascii]
      simp [readText, noEscape, bare]
  | unit small => rw [readText_unit small, joinUnits_alone alone]
  | pair first second =>
      rw [List.append_assoc, readText_unit (lt_of_isHalf (isHalf_of_isHigh first)), joinUnits_pair first second]

theorem Escaped.noLow {code : Nat} {written : List Char} (escaped : Escaped code written)
    (other : isLow code = false) (s : List Char) : NoLow (written ++ s) := by
  intro after low more start read
  cases escaped with
  | letter ascii noUnit reads =>
      simp only [List.cons_append, List.cons.injEq] at start
      exact absurd start.2.1 noUnit
  | plain printable ascii noQuote noEscape =>
      simp only [List.cons_append, List.cons.injEq] at start
      exact absurd start.1 noEscape
  | unit small =>
      simp only [unitEscape, List.cons_append, List.cons.injEq, true_and] at start
      rw [← start, readUnit_hex small] at read
      cases read
      exact other
  | pair first second =>
      simp only [unitEscape, List.cons_append, List.append_assoc, List.cons.injEq, true_and]
        at start
      rw [← start, readUnit_hex (lt_of_isHalf (isHalf_of_isHigh first))] at read
      cases read
      simp only [isHigh, Bool.and_eq_true, decide_eq_true_eq] at first
      simp only [isLow, Bool.and_eq_false_iff, decide_eq_false_iff_not]
      omega

theorem escape_of_isHalf {code : Nat} (half : isHalf code = true) :
    escape code = unitEscape code := by
  simp only [isHalf, Bool.and_eq_true, decide_eq_true_eq] at half
  have none : Char.ofNat code = '\x00' := by
    rw [Char.ofNat, dif_neg]
    · rfl
    · simp only [Nat.isValidChar]
      omega
  have large : (decide (0x20 ≤ code) && decide (code < 0x7F)) = false := by
    simp only [Bool.and_eq_false_iff, decide_eq_false_iff_not]
    omega
  have small : code < 0x10000 := by omega
  unfold escape
  rw [none, large]
  exact if_pos small

/-- A row of codes is read back from its text, with halves joined. -/
theorem readText_escapes {row : List Nat} (small : ∀ code ∈ row, code < 0x110000) {fuel : Nat}
    (enough : row.length < fuel) :
    readText fuel read (row.flatMap escape ++ '"' :: rest) =
      some (String.ofList (read.reverse ++ ofCodes (joinHalves row)), rest) := by
  have one {code : Nat} {s : List Char} {fuel : Nat} {read : List Char} (low : code < 0x110000)
      (alone : isHigh code = true → NoLow s) :
      readText (fuel + 1) read (escape code ++ s) = readText fuel ((kept code).reverse ++ read) s :=
    (escaped_escape low).readText_eq alone fuel
  induction row using joinHalves.induct generalizing fuel read with
  | case1 high low row pair ih =>
      obtain ⟨first, second⟩ := Bool.and_eq_true_iff.mp pair
      obtain ⟨fuel, rfl⟩ : ∃ less, fuel = less + 1 := ⟨fuel - 1, by omega⟩
      rw [List.flatMap_cons, List.flatMap_cons, escape_of_isHalf (isHalf_of_isHigh first),
        escape_of_isHalf (isHalf_of_isLow second), List.append_assoc, List.append_assoc,
        readText_unit (lt_of_isHalf (isHalf_of_isHigh first)), joinUnits_pair first second]
      rw [ih (fun code among => small code (List.mem_cons_of_mem _ (List.mem_cons_of_mem _ among)))
        (by simp only [List.length_cons] at enough; omega), joinHalves, if_pos pair]
      simp [ofCodes]
  | case2 high low row other ih =>
      obtain ⟨fuel, rfl⟩ : ∃ less, fuel = less + 1 := ⟨fuel - 1, by omega⟩
      have alone : isHigh high = true →
          NoLow ((low :: row).flatMap escape ++ '"' :: rest) := by
        intro first
        have second : isLow low = false := by
          cases second : isLow low with
          | false => rfl
          | true => exact absurd (Bool.and_eq_true_iff.mpr ⟨first, second⟩) other
        rw [List.flatMap_cons, List.append_assoc]
        exact (escaped_escape (small low (List.mem_cons_of_mem _ List.mem_cons_self))).noLow second _
      rw [List.flatMap_cons, List.append_assoc, one (small high List.mem_cons_self) alone,
        ih (fun code among => small code (List.mem_cons_of_mem _ among))
          (by simp only [List.length_cons] at enough ⊢; omega), joinHalves, if_neg other]
      simp [ofCodes]
  | case3 row short =>
      have same : joinHalves row = row := by
        unfold joinHalves
        split
        · exact absurd rfl (short _ _ _)
        · rfl
      rw [same]
      obtain ⟨fuel, rfl⟩ : ∃ less, fuel = less + 1 := ⟨fuel - 1, by omega⟩
      rcases row with _ | ⟨code, _ | ⟨next, more⟩⟩
      · simp [readText, ofCodes]
      · obtain ⟨fuel, rfl⟩ : ∃ less, fuel = less + 1 :=
          ⟨fuel - 1, by simp only [List.length_singleton] at enough; omega⟩
        have alone : isHigh code = true → NoLow ('"' :: rest) := by
          intro first after low more start
          cases start
        rw [List.flatMap_singleton, one (small code List.mem_cons_self) alone]
        simp [readText, ofCodes]
      · exact absurd rfl (short _ _ _)

/-- A string is read back from its text, with halves joined. -/
theorem readString_writeText (text : String) (rest : List Char) :
    ∃ body, writeText text ++ rest = '"' :: body ∧ readString body = some (joined text, rest) := by
  have small : ∀ code ∈ codes text.toList, code < 0x110000 := fun code among =>
    lt_of_mem_codesFrom among
  have enough : (codes text.toList).length ≤ ((codes text.toList).flatMap escape).length := by
    generalize codes text.toList = row at small
    induction row with
    | nil => exact Nat.le_refl _
    | cons code row ih =>
        have some : 0 < (escape code).length := by
          have escaped := escaped_escape (small code List.mem_cons_self)
          cases written : escape code with
          | nil =>
              rw [written] at escaped
              cases escaped
          | cons c more => exact Nat.succ_pos _
        have more := ih fun other among => small other (List.mem_cons_of_mem _ among)
        rw [List.flatMap_cons, List.length_append, List.length_cons]
        omega
  refine ⟨(codes text.toList).flatMap escape ++ '"' :: rest, by simp [writeText], ?_⟩
  rw [readString, readText_escapes small]
  · rfl
  · rw [List.length_append]
    omega

end Escapes

end Walkthrough.Json.Standard
