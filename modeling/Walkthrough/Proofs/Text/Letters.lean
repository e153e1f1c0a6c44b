import Mathlib.Data.List.Basic
import Walkthrough.Text.Code
import Walkthrough.Text.Letters

/-!
# Characters that are the same letter as no other

Characters outside the tables of letters stand for themselves alone
(`Walkthrough.Text.foldLetter_eq_self`); blanks and digits are such characters, so no letter matches
them (`Walkthrough.Text.sameLetter_of_isBlank`, `Walkthrough.Text.sameLetter_of_isDigit`). Which
characters a letter is the same as can be checked for it alone
(`Walkthrough.Text.sameLetter_iff_mem`).
-/

namespace Walkthrough.Text

/-- The ranges of characters that have another form. -/
def caseRanges : List (Nat × Nat) :=
  [(0x41, 0x5A), (0x130, 0x130)] ++ Table.lowering.map (fun run => (run.1, run.2.1)) ++
    Table.sharingCapital.flatMap (·.map fun n => (n, n))

/-- The ranges of the digits of all scripts. -/
def digitRanges : List (Nat × Nat) :=
  (0x30, 0x39) :: Table.zeros.map fun start => (start, start + 9)

variable {c letter : Char}

/-- Ranges that have no character in common. -/
theorem liesIn_eq_false {ranges others : List (Nat × Nat)}
    (apart : ranges.all (fun range => others.all fun other =>
      Nat.blt range.2 other.1 || Nat.blt other.2 range.1) = true)
    (lies : liesIn ranges c = true) : liesIn others c = false := by
  obtain ⟨range, member, within⟩ := List.any_eq_true.mp lies
  simp only [Bool.and_eq_true, decide_eq_true_eq] at within
  refine List.any_eq_false.mpr fun other among => ?_
  have disjoint := List.all_eq_true.mp (List.all_eq_true.mp apart range member) other among
  simp only [Bool.or_eq_true, Nat.blt_eq, decide_eq_true_eq, Bool.and_eq_true, not_and]
    at disjoint ⊢
  omega

theorem liesIn_of_isDigit (digit : isDigit c = true) : liesIn digitRanges c = true := by
  rw [isDigit, digit?] at digit
  split at digit
  · split at digit
    · next ascii =>
        simp only [Char.isDigit, Bool.and_eq_true, decide_eq_true_eq, UInt32.le_iff_toNat_le]
          at ascii
        refine List.any_eq_true.mpr ⟨(0x30, 0x39), List.mem_cons_self, ?_⟩
        simp only [Bool.and_eq_true, decide_eq_true_eq]
        exact ascii
    · cases digit
  · rw [Option.isSome_map, List.find?_isSome] at digit
    obtain ⟨start, member, within⟩ := digit
    refine List.any_eq_true.mpr
      ⟨(start, start + 9), List.mem_cons_of_mem _ (List.mem_map_of_mem member), ?_⟩
    simp only [Bool.and_eq_true, decide_eq_true_eq] at within ⊢
    omega

theorem lowerLetter_eq_self (outside : liesIn caseRanges c = false) : lowerLetter c = c := by
  simp only [liesIn, caseRanges, List.any_append, List.any_cons, List.any_nil, Bool.or_false,
    Bool.or_eq_false_iff] at outside
  obtain ⟨⟨⟨capital, dotted⟩, runs⟩, -⟩ := outside
  simp only [Bool.and_eq_false_iff, decide_eq_false_iff_not] at capital dotted
  rw [lowerLetter]
  split
  · refine dif_neg fun within => ?_
    simp only [ge_iff_le, UInt32.le_iff_toNat_le] at within
    exact capital.elim (absurd within.1) (absurd within.2)
  · have none : Table.lowering.find? (fun run => run.1 ≤ c.toNat && c.toNat ≤ run.2.1 &&
        (c.toNat - run.1) % run.2.2.1 == 0) = none := by
      refine List.find?_eq_none.mpr fun run member => ?_
      have apart := List.any_eq_false.mp runs _ (List.mem_map_of_mem member)
      simp only [Bool.not_eq_true, Bool.and_eq_false_iff] at apart ⊢
      exact .inl apart
    rw [if_neg (by omega), shiftCase, shift?, none]
    rfl

/-- A character outside the tables of letters is the same letter as itself alone. -/
theorem foldLetter_eq_self (outside : liesIn caseRanges c = false) : foldLetter c = c := by
  have none : Table.sharingCapital.find? (·.contains c.toNat) = none := by
    refine List.find?_eq_none.mpr fun group member => ?_
    rw [liesIn, caseRanges, List.any_append, Bool.or_eq_false_iff] at outside
    intro contains
    have among : (c.toNat, c.toNat) ∈
        Table.sharingCapital.flatMap (·.map fun n => (n, n)) :=
      List.mem_flatMap.mpr ⟨group, member, List.mem_map_of_mem (List.contains_iff_mem.mp contains)⟩
    have apart := List.any_eq_false.mp outside.2 _ among
    simp at apart
  rw [foldLetter, lowerLetter_eq_self outside, none]

/-- A letter does not match a character of a class outside the tables of letters. -/
theorem sameLetter_of_liesIn {ranges : List (Nat × Nat)}
    (apart : ranges.all (fun range => caseRanges.all fun other =>
      Nat.blt range.2 other.1 || Nat.blt other.2 range.1) = true)
    (outside : liesIn ranges (foldLetter letter) = false) (lies : liesIn ranges c = true) :
    sameLetter letter c = false := by
  rw [sameLetter, foldLetter_eq_self (liesIn_eq_false apart lies), beq_eq_false_iff_ne]
  rintro rfl
  rw [lies] at outside
  cases outside

theorem sameLetter_of_isBlank (outside : isBlank (foldLetter letter) = false)
    (blank : isBlank c = true) : sameLetter letter c = false :=
  sameLetter_of_liesIn (by decide) outside blank

theorem sameLetter_of_isDigit (outside : liesIn digitRanges (foldLetter letter) = false)
    (digit : isDigit c = true) : sameLetter letter c = false :=
  sameLetter_of_liesIn (by decide +kernel) outside (liesIn_of_isDigit digit)

section Words

/-- The ranges of the characters of words. -/
def wordRanges : List (Nat × Nat) :=
  [(0x30, 0x39), (0x41, 0x5A), (0x5F, 0x5F), (0x61, 0x7A)] ++ Table.alphanumeric

theorem liesIn_of_isWord (word : isWord c = true) : liesIn wordRanges c = true := by
  rw [isWord] at word
  rw [liesIn, wordRanges, List.any_append, Bool.or_eq_true]
  split at word
  · change ((c.isUpper || c.isLower || c.isDigit) || c == '_') = true at word
    simp only [Bool.or_eq_true, beq_iff_eq] at word
    simp only [List.any_cons, List.any_nil, Bool.or_false, Bool.or_eq_true, Bool.and_eq_true,
      decide_eq_true_eq]
    refine .inl ?_
    rcases word with ((upper | lower) | digit) | rfl
    · exact .inr (.inl (of_decide_eq_true upper))
    · obtain ⟨least, most⟩ := Bool.and_eq_true_iff.mp lower
      exact .inr (.inr (.inr ⟨of_decide_eq_true least, of_decide_eq_true most⟩))
    · obtain ⟨least, most⟩ := Bool.and_eq_true_iff.mp digit
      exact .inl ⟨of_decide_eq_true least, of_decide_eq_true most⟩
    · decide
  · exact .inr word

/-- No blank belongs to a word. -/
theorem isWord_of_isBlank (blank : isBlank c = true) : isWord c = false := by
  refine Bool.eq_false_iff.mpr fun word => ?_
  have outside : isBlank c = false := liesIn_eq_false (by decide +kernel) (liesIn_of_isWord word)
  rw [blank] at outside
  cases outside

theorem isBlank_of_isWord (word : isWord c = true) : isBlank c = false :=
  Bool.eq_false_iff.mpr fun blank => by rw [isWord_of_isBlank blank] at word; cases word

end Words

section Ascii

/-- Whether no character outside of ASCII is the same letter as a small letter of ASCII. -/
def isPlainLetter (small : Char) : Bool :=
  decide (0 < small.toNat) && decide (small.toNat < 0x80) && small != 'i' &&
    Table.sharingCapital.all (fun group => group.all fun n => Char.ofNat n != small) &&
    Table.lowering.all fun run =>
      (small.toNat : Int) - run.2.2.2 < run.1 || run.2.1 < (small.toNat : Int) - run.2.2.2

variable {small : Char}

/-- A character other than the first one comes of its own number alone. -/
theorem eq_toNat_of_ofNat {n : Nat} (same : Char.ofNat n = small) (positive : 0 < small.toNat) :
    n = small.toNat := by
  by_cases valid : n.isValidChar
  · rw [← same, toNat_ofNat valid]
  · rw [Char.ofNat, dif_neg valid] at same
    rw [← same] at positive
    cases positive

theorem lowerLetter_of_foldLetter (plain : isPlainLetter small = true)
    (folded : foldLetter c = small) : lowerLetter c = small := by
  simp only [isPlainLetter, Bool.and_eq_true] at plain
  obtain ⟨⟨-, groups⟩, -⟩ := plain
  rw [foldLetter] at folded
  split at folded
  · next least others found =>
      have group := List.all_eq_true.mp groups _ (List.mem_of_find?_eq_some found)
      have apart := List.all_eq_true.mp group least List.mem_cons_self
      rw [folded, bne_self_eq_false] at apart
      cases apart
  · exact folded

/-- Whether no capital beyond ASCII has `small` as its small letter. -/
def isUnmade (small : Char) : Bool :=
  decide (0 < small.toNat) && small != 'i' && Table.lowering.all fun run =>
    (small.toNat : Int) - run.2.2.2 < run.1 || run.2.1 < (small.toNat : Int) - run.2.2.2

/-- Such a letter is the small letter of itself, and of letters of ASCII at most. -/
theorem eq_or_toLower_of_lowerLetter (unmade : isUnmade small = true)
    (lowered : lowerLetter c = small) : c = small ∨ c.toNat < 0x80 ∧ c.toLower = small := by
  simp only [isUnmade, Bool.and_eq_true, decide_eq_true_eq, bne_iff_ne] at unmade
  obtain ⟨⟨positive, notI⟩, runs⟩ := unmade
  rw [lowerLetter] at lowered
  split at lowered
  · next ascii => exact .inr ⟨ascii, lowered⟩
  · split at lowered
    · exact absurd lowered.symm notI
    · rw [shiftCase] at lowered
      split at lowered
      · next shift moved =>
          obtain ⟨run, found, rfl⟩ := Option.map_eq_some_iff.mp moved
          have outside := List.all_eq_true.mp runs run (List.mem_of_find?_eq_some found)
          have inside := List.find?_some found
          have number := eq_toNat_of_ofNat lowered positive
          simp only [Bool.or_eq_true, Bool.and_eq_true, decide_eq_true_eq] at outside inside
          omega
      · exact .inl lowered

/-- Only the two letters of ASCII are the same letter as such a small one. -/
theorem toLower_of_foldLetter (plain : isPlainLetter small = true)
    (folded : foldLetter c = small) : c.toNat < 0x80 ∧ c.toLower = small := by
  have lowered := lowerLetter_of_foldLetter plain folded
  simp only [isPlainLetter, Bool.and_eq_true, decide_eq_true_eq] at plain
  obtain ⟨⟨⟨⟨positive, ascii⟩, notI⟩, -⟩, runs⟩ := plain
  have unmade : isUnmade small = true := by simp [isUnmade, positive, notI, runs]
  rcases eq_or_toLower_of_lowerLetter unmade lowered with rfl | lower
  · exact ⟨ascii, by rwa [lowerLetter, if_pos ascii] at lowered⟩
  · exact lower

/-- What is the same letter as a letter of ASCII belongs to a word. -/
theorem isWord_of_sameLetter (plain : isPlainLetter (foldLetter letter) = true)
    (lower : (foldLetter letter).isLower = true) (same : sameLetter letter c = true) :
    isWord c = true := by
  obtain ⟨ascii, small⟩ := toLower_of_foldLetter plain (beq_iff_eq.mp same).symm
  have alphabetic : (c.isUpper || c.isLower) = true := by
    rw [Bool.or_eq_true]
    by_cases upper : c.isUpper = true
    · exact .inl upper
    · have same : c.toLower = c := dif_neg fun within => upper (decide_eq_true within)
      rw [← small, same] at lower
      exact .inr lower
  rw [isWord, if_pos ascii]
  exact Bool.or_eq_true_iff.mpr (.inl (Bool.or_eq_true_iff.mpr (.inl alphabetic)))

/-- The ranges of the signs of ASCII, which are all of it but letters and the null character. -/
def signRanges : List (Nat × Nat) :=
  [(0x1, 0x40), (0x5B, 0x60), (0x7B, 0x7F)]

theorem sign_bounds {sign : Char} (lies : liesIn signRanges sign = true) :
    0 < sign.toNat ∧ sign.toNat < 0x80 ∧ ¬(0x61 ≤ sign.toNat ∧ sign.toNat ≤ 0x7A) := by
  simp only [liesIn, signRanges, List.any_cons, List.any_nil, Bool.or_false, Bool.or_eq_true,
    Bool.and_eq_true, decide_eq_true_eq] at lies
  omega

/-- No letter is made small into a sign. -/
theorem isPlainLetter_of_sign {sign : Char} (lies : liesIn signRanges sign = true) :
    isPlainLetter sign = true := by
  have groups : Table.sharingCapital.all (·.all fun n => signRanges.all fun range =>
      range.2 < n || n < range.1) = true := by
    decide
  have runs : Table.lowering.all (fun run => signRanges.all fun range =>
      (range.2 : Int) < run.1 + run.2.2.2 || run.2.1 + run.2.2.2 < (range.1 : Int)) = true := by
    decide
  obtain ⟨positive, ascii, unlettered⟩ := sign_bounds lies
  obtain ⟨range, member, within⟩ := List.any_eq_true.mp lies
  simp only [Bool.and_eq_true, decide_eq_true_eq] at within
  simp only [isPlainLetter, Bool.and_eq_true, decide_eq_true_eq, bne_iff_ne, List.all_eq_true]
  refine ⟨⟨⟨⟨positive, ascii⟩, ?_⟩, ?_⟩, ?_⟩
  · intro same
    rw [same] at unlettered
    exact unlettered (by decide)
  · intro group among n inside same
    have apart := List.all_eq_true.mp (List.all_eq_true.mp (List.all_eq_true.mp groups group among)
      n inside) range member
    rw [eq_toNat_of_ofNat same positive] at apart
    simp only [Bool.or_eq_true, decide_eq_true_eq] at apart
    omega
  · intro run among
    have apart := List.all_eq_true.mp (List.all_eq_true.mp runs run among) range member
    simp only [Bool.or_eq_true, decide_eq_true_eq] at apart ⊢
    omega

/-- A sign is the same letter as itself alone. -/
theorem sameLetter_iff_eq {sign : Char} (lies : liesIn signRanges sign = true) :
    sameLetter sign c = true ↔ c = sign := by
  have lowers : ∀ n : Fin 0x80, (Char.ofNat n).toLower = Char.ofNat n ∨
      0x61 ≤ (Char.ofNat n).toLower.toNat ∧ (Char.ofNat n).toLower.toNat ≤ 0x7A := by
    decide
  have folded : foldLetter sign = sign :=
    foldLetter_eq_self (liesIn_eq_false (by decide) lies)
  constructor
  · intro same
    rw [sameLetter, folded] at same
    obtain ⟨small, lowered⟩ :=
      toLower_of_foldLetter (isPlainLetter_of_sign lies) (beq_iff_eq.mp same).symm
    have lower := lowers ⟨c.toNat, small⟩
    rw [Char.ofNat_toNat, lowered] at lower
    rcases lower with unchanged | letter
    · exact unchanged.symm
    · exact absurd letter (sign_bounds lies).2.2
  · intro same
    rw [same]
    exact sameLetter_refl sign

end Ascii

section Forms

variable {smalls forms : List Char}

/-- Whether `forms` are the characters that are the same letter as `letter`, and `smalls` the small
ones among them. -/
def areForms (letter : Char) (smalls forms : List Char) : Bool :=
  forms.all (sameLetter letter) && smalls.contains (foldLetter letter) &&
    smalls.all (fun small => isUnmade small && forms.contains small) &&
    Table.sharingCapital.all (fun group =>
      Char.ofNat (group.headD 0) != foldLetter letter ||
        group.all fun n => smalls.contains (Char.ofNat n)) &&
    (List.range 0x80).all fun n =>
      !smalls.contains (Char.ofNat n).toLower || forms.contains (Char.ofNat n)

/-- The characters that are the same letter are read off a list that has been checked. -/
theorem sameLetter_iff_mem (smalls : List Char) (complete : areForms letter smalls forms = true) :
    sameLetter letter c = true ↔ c ∈ forms := by
  simp only [areForms, Bool.and_eq_true, List.all_eq_true] at complete
  obtain ⟨⟨⟨⟨forward, itself⟩, small⟩, groups⟩, ascii⟩ := complete
  refine ⟨fun same => ?_, forward c⟩
  have folded : foldLetter letter = foldLetter c := beq_iff_eq.mp same
  have lowered : lowerLetter c ∈ smalls := by
    rw [folded, foldLetter] at itself
    split at itself
    · next least others found =>
        have group := groups _ (List.mem_of_find?_eq_some found)
        have among : (lowerLetter c).toNat ∈ least :: others := by
          simpa using List.find?_some found
        have least : Char.ofNat least = foldLetter letter := by
          rw [folded, foldLetter, found]
        rw [List.headD_cons, least, bne_self_eq_false, Bool.false_or, List.all_eq_true] at group
        simpa using group _ among
    · exact List.contains_iff_mem.mp itself
  obtain ⟨unmade, listed⟩ := small _ lowered
  rcases eq_or_toLower_of_lowerLetter unmade rfl with same | ⟨plain, lower⟩
  · rw [same]
    exact List.contains_iff_mem.mp listed
  · have whole := ascii c.toNat (List.mem_range.mpr plain)
    rw [Char.ofNat_toNat, lower] at whole
    simpa [lowered] using whole

end Forms

end Walkthrough.Text
