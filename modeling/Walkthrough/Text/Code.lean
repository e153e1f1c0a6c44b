/-!
# Codes of texts

A text is a row of codes. Most are codes of characters, but some formats can name half a character
as well, by a code that belongs to no character. In a list of characters such a half is kept as a
character of a plane that none are assigned in; a character that could be taken for a kept half, or
for the mark, stands behind a mark. Every row of codes is kept in just one way, and is found again.
-/

namespace Walkthrough.Text

/-- Whether a code is that of half a character. -/
def isHalf (code : Nat) : Bool :=
  0xD800 ≤ code && code < 0xE000

/-- How far above the code of a half the character lies that it is kept as. -/
def halfShift : Nat := 0xA0000

/-- The character that says that the next one is itself, and kept for no half. -/
def mark : Char := Char.ofNat 0xAE000

/-- Whether the character of a code could be taken for a kept half, or for the mark. -/
def needsMark (code : Nat) : Bool :=
  isHalf (code - halfShift) || code == mark.toNat

/-- What a code is kept as. -/
def kept (code : Nat) : List Char :=
  if isHalf code then [Char.ofNat (halfShift + code)]
  else if needsMark code then [mark, Char.ofNat code]
  else [Char.ofNat code]

/-- Codes as a text. -/
def ofCodes (codes : List Nat) : List Char :=
  codes.flatMap kept

/-- Characters as a text. -/
def ofChars (chars : List Char) : List Char :=
  ofCodes (chars.map Char.toNat)

/-- The codes of a text; `marked` says whether a mark stands before it. -/
def codesFrom (marked : Bool) : List Char → List Nat
  | [] => []
  | c :: rest =>
    if marked then c.toNat :: codesFrom false rest
    else if c == mark then codesFrom true rest
    else if needsMark c.toNat then (c.toNat - halfShift) :: codesFrom false rest
    else c.toNat :: codesFrom false rest

/-- The codes of a text. -/
def codes (s : List Char) : List Nat :=
  codesFrom false s

/-- The count of codes in a text. -/
def size (s : List Char) : Nat :=
  (codes s).length

/-- The number of a character is the one that it was made of, if that is valid. -/
theorem toNat_ofNat {code : Nat} (valid : code.isValidChar) : (Char.ofNat code).toNat = code := by
  rw [Char.ofNat, dif_pos valid]
  rfl

/-- What a code is kept as gives that code, whatever follows. -/
theorem codes_kept_append {code : Nat} (small : code < 0x110000) (s : List Char) :
    codes (kept code ++ s) = code :: codes s := by
  have ofMark : mark.toNat = 0xAE000 := toNat_ofNat (by decide)
  have isMark {n : Nat} (valid : n.isValidChar) : Char.ofNat n = mark ↔ n = 0xAE000 :=
    ⟨fun same => by rw [← toNat_ofNat valid, same, ofMark], fun same => by rw [same]; rfl⟩
  by_cases half : isHalf code = true
  · have bounds : 0xD800 ≤ code ∧ code < 0xE000 := by simpa [isHalf] using half
    have valid : (halfShift + code).isValidChar := by
      simp only [Nat.isValidChar, halfShift]
      omega
    have other : ¬ Char.ofNat (halfShift + code) = mark := by
      rw [isMark valid]
      simp only [halfShift]
      omega
    simp [kept, half, codes, codesFrom, needsMark, toNat_ofNat valid, other]
  · have valid : code.isValidChar := by
      simp only [isHalf, Bool.and_eq_true, decide_eq_true_eq] at half
      simp only [Nat.isValidChar]
      omega
    by_cases marked : needsMark code = true
    · simp [kept, half, marked, codes, codesFrom, toNat_ofNat valid]
    · have other : ¬ Char.ofNat code = mark := by
        rw [isMark valid]
        intro same
        simp [needsMark, ofMark, same] at marked
      simp [kept, half, marked, codes, codesFrom, toNat_ofNat valid, other]

/-- The codes that a text was made of are found again. -/
theorem codes_ofCodes {row : List Nat} (small : ∀ code ∈ row, code < 0x110000) :
    codes (ofCodes row) = row := by
  induction row with
  | nil => rfl
  | cons code rest ih =>
    rw [ofCodes, List.flatMap_cons, codes_kept_append (small code List.mem_cons_self)]
    exact congrArg _ (ih fun other among => small other (List.mem_cons_of_mem _ among))

end Walkthrough.Text

namespace Walkthrough

/-- A string of characters, as it comes from outside, as a text. -/
def received (characters : String) : String :=
  String.ofList (Text.ofChars characters.toList)

/-- The characters of a text, as they are shown outside; a half is shown as the character for what
cannot be shown. -/
def shown (text : String) : String :=
  String.ofList ((Text.codes text.toList).map fun code =>
    if Text.isHalf code then '\ufffd' else Char.ofNat code)

end Walkthrough
