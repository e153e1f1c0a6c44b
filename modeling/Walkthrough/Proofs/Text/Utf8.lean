import Mathlib.Data.List.Basic
import Walkthrough.Text.Utf8

/-!
# Which octets are UTF-8

The octets of a character are of one of four forms (`Walkthrough.Utf8.Coded`), and these are the
ones that the library encodes characters in. Reading octets gives characters exactly if the octets
are the characters encoded (`Walkthrough.Utf8.decodeFrom_eq_ok_iff`).
-/

namespace Walkthrough.Utf8

/-- The octets of one character, by how many there are, with its code. -/
inductive Coded : List UInt8 → Nat → Prop
  | one {a : UInt8} : a.toNat < 0x80 → Coded [a] a.toNat
  | two {a b : UInt8} : 0xC2 ≤ a.toNat → a.toNat < 0xE0 → isContinuation b.toNat = true →
      Coded [a, b] (a.toNat % 0x20 * 0x40 + b.toNat % 0x40)
  | three {a b c : UInt8} : 0xE0 ≤ a.toNat → a.toNat < 0xF0 →
      maySecond a.toNat b.toNat = true → isContinuation c.toNat = true →
      Coded [a, b, c] ((a.toNat % 0x10 * 0x40 + b.toNat % 0x40) * 0x40 + c.toNat % 0x40)
  | four {a b c d : UInt8} : 0xF0 ≤ a.toNat → a.toNat < 0xF5 →
      maySecond a.toNat b.toNat = true → isContinuation c.toNat = true →
      isContinuation d.toNat = true →
      Coded [a, b, c, d] (((a.toNat % 0x08 * 0x40 + b.toNat % 0x40) * 0x40 + c.toNat % 0x40) * 0x40
        + d.toNat % 0x40)

theorem isContinuation_iff {n : Nat} : isContinuation n = true ↔ 0x80 ≤ n ∧ n < 0xC0 := by
  simp [isContinuation]

theorem maySecond_iff {first second : Nat} : maySecond first second = true ↔
    (0x80 ≤ second ∧ second < 0xC0) ∧ (first = 0xE0 → 0xA0 ≤ second) ∧
      (first = 0xED → second < 0xA0) ∧ (first = 0xF0 → 0x90 ≤ second) ∧
      (first = 0xF4 → second < 0x90) := by
  simp only [maySecond, Bool.and_eq_true, isContinuation_iff, Bool.not_eq_true',
    Bool.or_eq_false_iff, Bool.and_eq_false_iff, beq_eq_false_iff_ne, decide_eq_false_iff_not]
  omega

section Encoding

variable {octets : List UInt8} {code : Nat}

theorem Coded.of_eq {other : Nat} (coded : Coded octets code) (same : code = other) :
    Coded octets other :=
  same ▸ coded

theorem Coded.length_pos (coded : Coded octets code) : 0 < octets.length := by
  cases coded <;> exact Nat.succ_pos _

/-- The code of some octets is that of a character. -/
theorem Coded.isValidChar (coded : Coded octets code) : code.isValidChar := by
  unfold Nat.isValidChar
  cases coded with
  | one low => omega
  | two low high second =>
      rw [isContinuation_iff] at second
      omega
  | three low high second third =>
      rw [isContinuation_iff] at third
      rw [maySecond_iff] at second
      omega
  | four low high second third fourth =>
      rw [isContinuation_iff] at third fourth
      rw [maySecond_iff] at second
      omega

theorem ofNat_eq_iff {octet : UInt8} {n : Nat} :
    UInt8.ofNat n = octet ↔ n % 0x100 = octet.toNat := by
  rw [← UInt8.toNat_inj, UInt8.toNat_ofNat']

/-- A character is encoded in the octets that have its code. -/
theorem Coded.encode_eq (coded : Coded octets code) :
    String.utf8EncodeChar (Char.ofNat code) = octets := by
  have value : (Char.ofNat code).val.toNat = code := Text.toNat_ofNat coded.isValidChar
  unfold String.utf8EncodeChar
  simp only [value]
  cases coded with
  | one low =>
      rw [if_pos (by omega)]
      simp only [List.cons.injEq, ofNat_eq_iff, and_true]
      omega
  | two low high second =>
      rw [isContinuation_iff] at second
      rw [if_neg (by omega), if_pos (by omega)]
      simp only [List.cons.injEq, ofNat_eq_iff, and_true]
      omega
  | three low high second third =>
      rw [isContinuation_iff] at third
      rw [maySecond_iff] at second
      rw [if_neg (by omega), if_neg (by omega), if_pos (by omega)]
      simp only [List.cons.injEq, ofNat_eq_iff, and_true]
      omega
  | four low high second third fourth =>
      rw [isContinuation_iff] at third fourth
      rw [maySecond_iff] at second
      rw [if_neg (by omega), if_neg (by omega), if_neg (by omega)]
      simp only [List.cons.injEq, ofNat_eq_iff, and_true]
      omega

/-- The octets that a character is encoded in have its code. -/
theorem coded_encode (c : Char) : Coded (String.utf8EncodeChar c) c.toNat := by
  have valid : c.toNat < 0xD800 ∨ 0xDFFF < c.toNat ∧ c.toNat < 0x110000 := c.valid
  have octet {n : Nat} (small : n < 0x100) : ∃ octet, UInt8.ofNat n = octet ∧ octet.toNat = n :=
    ⟨_, rfl, UInt8.toNat_ofNat_of_lt' small⟩
  unfold String.utf8EncodeChar
  simp only [show c.val.toNat = c.toNat from rfl]
  generalize c.toNat = code at valid ⊢
  split
  · obtain ⟨a, same, first⟩ := octet (n := code) (by omega)
    have coded := Coded.one (a := a) (by omega)
    rwa [same, ← first]
  split
  · obtain ⟨a, sameA, first⟩ := octet (n := code / 0x40 % 0x20 + 0xC0) (by omega)
    obtain ⟨b, sameB, second⟩ := octet (n := code % 0x40 + 0x80) (by omega)
    have coded := Coded.two (a := a) (b := b) (by omega) (by omega)
      (isContinuation_iff.mpr (by omega))
    rw [sameA, sameB]
    exact coded.of_eq (by omega)
  split
  · obtain ⟨a, sameA, first⟩ := octet (n := code / 0x1000 % 0x10 + 0xE0) (by omega)
    obtain ⟨b, sameB, second⟩ := octet (n := code / 0x40 % 0x40 + 0x80) (by omega)
    obtain ⟨c, sameC, third⟩ := octet (n := code % 0x40 + 0x80) (by omega)
    have coded := Coded.three (a := a) (b := b) (c := c) (by omega) (by omega)
      (maySecond_iff.mpr (by omega)) (isContinuation_iff.mpr (by omega))
    rw [sameA, sameB, sameC]
    exact coded.of_eq (by omega)
  · obtain ⟨a, sameA, first⟩ := octet (n := code / 0x40000 % 0x08 + 0xF0) (by omega)
    obtain ⟨b, sameB, second⟩ := octet (n := code / 0x1000 % 0x40 + 0x80) (by omega)
    obtain ⟨c, sameC, third⟩ := octet (n := code / 0x40 % 0x40 + 0x80) (by omega)
    obtain ⟨d, sameD, fourth⟩ := octet (n := code % 0x40 + 0x80) (by omega)
    have coded := Coded.four (a := a) (b := b) (c := c) (d := d) (by omega) (by omega)
      (maySecond_iff.mpr (by omega)) (isContinuation_iff.mpr (by omega))
      (isContinuation_iff.mpr (by omega))
    rw [sameA, sameB, sameC, sameD]
    exact coded.of_eq (by omega)

end Encoding

section Decoding

variable {octets left : List UInt8} {code position : Nat}

/-- Octets that belong to the character before are passed over. -/
theorem decodeFrom_skip (position : Nat) (octets left : List UInt8) :
    decodeFrom position (octets ++ left) octets.length =
      decodeFrom (position + octets.length) left 0 := by
  induction octets generalizing position with
  | nil => rfl
  | cons octet rest ih =>
      rw [List.cons_append, List.length_cons, decodeFrom, ih, Nat.add_right_comm, Nat.add_assoc]

/-- The octets of one character are read as that, whatever follows. -/
theorem decodeFrom_coded (position : Nat) (coded : Coded octets code) (left : List UInt8) :
    decodeFrom position (octets ++ left) 0 =
      (decodeFrom (position + octets.length) left 0).map (Char.ofNat code :: ·) := by
  have reads (octet : UInt8) (rest : List UInt8) {code : Nat}
      (starts : following? octet.toNat = some rest.length)
      (continues : continueWith (some octet.toNat) rest.length (payload octet.toNat rest.length) 1
        (rest ++ left) = .ok (code, left)) :
      decodeFrom position (octet :: (rest ++ left)) 0 =
        (decodeFrom (position + (octet :: rest).length) left 0).map (Char.ofNat code :: ·) := by
    rw [decodeFrom]
    simp only [starts, continues, decodeFrom_skip, List.length_cons]
    rw [Nat.add_assoc, Nat.add_comm 1]
    cases decodeFrom (position + (rest.length + 1)) left 0 <;> rfl
  cases coded with
  | @one a low =>
      refine reads a [] ?_ rfl
      rw [following?, if_pos low]
      rfl
  | @two a b low high second =>
      refine reads a [b] ?_ ?_
      · rw [following?, if_neg (by omega), if_neg (by omega), if_pos high]
        rfl
      · have fits : maySecond a.toNat b.toNat = true := by
          rw [isContinuation_iff] at second
          rw [maySecond_iff]
          omega
        simp only [List.length_singleton, List.cons_append, List.nil_append, continueWith, fits,
          if_true, payload]
  | @three a b c low high second third =>
      refine reads a [b, c] ?_ ?_
      · rw [following?, if_neg (by omega), if_neg (by omega), if_neg (by omega), if_pos high]
        rfl
      · simp only [List.length_cons, List.length_nil, List.cons_append, List.nil_append,
          continueWith, second, third, if_true, payload]
  | @four a b c d low high second third fourth =>
      refine reads a [b, c, d] ?_ ?_
      · rw [following?, if_neg (by omega), if_neg (by omega), if_neg (by omega),
          if_neg (by omega), if_pos high]
        rfl
      · simp only [List.length_cons, List.length_nil, List.cons_append, List.nil_append,
          continueWith, second, third, fourth, if_true, payload]

/-- Each further octet of a character that is continued. -/
theorem continueWith_ok {first : Option Nat} {following good value : Nat} {rest : List UInt8}
    (read : continueWith first (following + 1) code good rest = .ok (value, left)) :
    ∃ octet after, rest = octet :: after ∧
      first.elim (isContinuation octet.toNat) (maySecond · octet.toNat) = true ∧
      continueWith none following (code * 0x40 + octet.toNat % 0x40) (good + 1) after =
        .ok (value, left) := by
  cases rest with
  | nil => cases read
  | cons octet after =>
      cases first
      all_goals
        simp only [continueWith] at read
        split at read
        · next fits => exact ⟨octet, after, rfl, fits, read⟩
        · cases read

/-- Octets that are read begin with those of a character. -/
theorem coded_of_decodeFrom {octet : UInt8} {rest : List UInt8} {chars : List Char}
    (read : decodeFrom position (octet :: rest) 0 = .ok chars) :
    ∃ octets code left, Coded octets code ∧ octet :: rest = octets ++ left := by
  rw [decodeFrom] at read
  cases starts : following? octet.toNat with
  | none =>
      simp only [starts] at read
      cases read
  | some following =>
      cases continues : continueWith (some octet.toNat) following (payload octet.toNat following) 1
          rest with
      | error fault =>
          simp only [starts, continues] at read
          cases read
      | ok result =>
          unfold following? at starts
          split at starts
          · next low => exact ⟨_, _, rest, .one low, rfl⟩
          split at starts
          · cases starts
          split at starts
          · cases starts
            obtain ⟨b, after, rfl, second, -⟩ := continueWith_ok continues
            have bounds := (maySecond_iff.mp second).1
            exact ⟨_, _, after, .two (by omega) (by omega) (isContinuation_iff.mpr bounds), rfl⟩
          split at starts
          · cases starts
            obtain ⟨b, after, rfl, second, continues⟩ := continueWith_ok continues
            obtain ⟨c, after, rfl, third, -⟩ := continueWith_ok continues
            exact ⟨_, _, after, .three (by omega) (by omega) second third, rfl⟩
          split at starts
          · cases starts
            obtain ⟨b, after, rfl, second, continues⟩ := continueWith_ok continues
            obtain ⟨c, after, rfl, third, continues⟩ := continueWith_ok continues
            obtain ⟨d, after, rfl, fourth, -⟩ := continueWith_ok continues
            exact ⟨_, _, after, .four (by omega) (by omega) second third fourth, rfl⟩
          · cases starts

/-- **Octets are read exactly if they are UTF-8.** Reading octets gives characters exactly if the
octets are those characters encoded. -/
theorem decodeFrom_eq_ok_iff {octets : List UInt8} {chars : List Char} :
    decodeFrom position octets 0 = .ok chars ↔ octets = chars.flatMap String.utf8EncodeChar := by
  constructor
  · intro read
    induction size : octets.length using Nat.strongRecOn generalizing position octets chars with
    | _ size ih =>
    subst size
    cases octets with
    | nil =>
        cases read
        rfl
    | cons octet rest =>
        obtain ⟨octets, code, left, coded, split⟩ := coded_of_decodeFrom read
        rw [split, decodeFrom_coded position coded left] at read
        cases after : decodeFrom (position + octets.length) left 0 with
        | error =>
            rw [after] at read
            cases read
        | ok more =>
            rw [after] at read
            cases read
            have shorter : left.length < (octet :: rest).length := by
              rw [split, List.length_append]
              have := coded.length_pos
              omega
            rw [split, List.flatMap_cons, coded.encode_eq, ← ih _ shorter after rfl]
  · rintro rfl
    induction chars generalizing position with
    | nil => rfl
    | cons c rest ih =>
        rw [List.flatMap_cons, decodeFrom_coded position (coded_encode c), ih, Except.map,
          Char.ofNat_toNat]

end Decoding

end Walkthrough.Utf8
