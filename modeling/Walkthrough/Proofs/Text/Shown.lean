import Walkthrough.Text.Code

/-!
# How texts are shown

The characters that a text is shown with, code by code: a text of ASCII is shown as it is kept, and
what any code is kept as is shown alike whatever follows it (`Walkthrough.Text.IsWhole`).
-/

namespace Walkthrough.Text

theorem toNat_lt (c : Char) : c.toNat < 0x110000 := by
  have valid := c.valid
  simp only [UInt32.isValidChar, Nat.isValidChar] at valid
  change c.val.toNat < _
  omega

/-- Every code of a text is small enough for a character. -/
theorem lt_of_mem_codesFrom {marked : Bool} {s : List Char} {code : Nat}
    (among : code ∈ codesFrom marked s) : code < 0x110000 := by
  induction s generalizing marked with
  | nil => cases among
  | cons c rest ih =>
      have small := toNat_lt c
      unfold codesFrom at among
      split at among
      · rcases List.mem_cons.mp among with rfl | later
        · exact small
        · exact ih later
      · split at among
        · exact ih among
        · split at among
          · rcases List.mem_cons.mp among with same | later
            · exact same ▸ Nat.lt_of_le_of_lt (Nat.sub_le _ _) small
            · exact ih later
          · rcases List.mem_cons.mp among with rfl | later
            · exact small
            · exact ih later

/-- The character that a code is shown as. -/
def shownCode (code : Nat) : Char :=
  if isHalf code then '\ufffd' else Char.ofNat code

/-- The characters of a text as they are shown. -/
def shownChars (s : List Char) : List Char :=
  (codes s).map shownCode

theorem toList_shown (text : String) : (shown text).toList = shownChars text.toList := by
  simp [shown, shownChars, shownCode]

/-- A character is shown as it is. -/
theorem shownCode_toNat (c : Char) : shownCode c.toNat = c := by
  have whole : isHalf c.toNat = false := by
    have valid := c.valid
    simp only [UInt32.isValidChar, Nat.isValidChar] at valid
    change isHalf c.val.toNat = false
    simp only [isHalf, Bool.and_eq_false_iff, decide_eq_false_iff_not]
    omega
  simp [shownCode, whole]

theorem needsMark_of_ascii {code : Nat} (ascii : code < 0x80) : needsMark code = false := by
  have small : code - halfShift = 0 := by
    simp only [halfShift]
    omega
  have ofMark : mark.toNat = 0xAE000 := toNat_ofNat (by decide)
  have differs : (code == mark.toNat) = false := by
    simp only [ofMark, beq_eq_false_iff_ne]
    omega
  rw [needsMark, small, differs]
  decide

/-- A character of ASCII is its own code. -/
theorem codes_cons_of_ascii {c : Char} (ascii : c.toNat < 0x80) (s : List Char) :
    codes (c :: s) = c.toNat :: codes s := by
  have other : (c == mark) = false := by
    have ofMark : mark.toNat = 0xAE000 := toNat_ofNat (by decide)
    simp only [beq_eq_false_iff_ne]
    rintro rfl
    omega
  simp only [codes, codesFrom, Bool.false_eq_true, if_false, other, needsMark_of_ascii ascii]

theorem codes_append_of_ascii {a : List Char} (ascii : ∀ c ∈ a, c.toNat < 0x80) (s : List Char) :
    codes (a ++ s) = a.map Char.toNat ++ codes s := by
  induction a with
  | nil => rfl
  | cons c rest ih =>
      rw [List.cons_append, codes_cons_of_ascii (ascii c List.mem_cons_self),
        ih fun d among => ascii d (List.mem_cons_of_mem _ among)]
      rfl

theorem shownChars_append_of_ascii {a : List Char} (ascii : ∀ c ∈ a, c.toNat < 0x80)
    (s : List Char) : shownChars (a ++ s) = a ++ shownChars s := by
  have same : shownCode ∘ Char.toNat = id := funext shownCode_toNat
  rw [shownChars, codes_append_of_ascii ascii, List.map_append, List.map_map, same, List.map_id]
  rfl

theorem shownChars_kept {code : Nat} (small : code < 0x110000) (s : List Char) :
    shownChars (kept code ++ s) = shownCode code :: shownChars s := by
  rw [shownChars, codes_kept_append small]
  rfl

theorem shownChars_kept_alone {code : Nat} (small : code < 0x110000) :
    shownChars (kept code) = [shownCode code] := by
  have alone := shownChars_kept small []
  rw [List.append_nil] at alone
  exact alone

/-- Characters that are shown alike whatever follows them. -/
def IsWhole (a : List Char) : Prop :=
  ∀ s, shownChars (a ++ s) = shownChars a ++ shownChars s

theorem shownChars_of_ascii {a : List Char} (ascii : ∀ c ∈ a, c.toNat < 0x80) :
    shownChars a = a := by
  have whole := shownChars_append_of_ascii ascii []
  simpa [shownChars, codes, codesFrom] using whole

theorem IsWhole.of_ascii {a : List Char} (ascii : ∀ c ∈ a, c.toNat < 0x80) : IsWhole a := by
  intro s
  rw [shownChars_append_of_ascii ascii, shownChars_of_ascii ascii]

theorem IsWhole.kept {code : Nat} (small : code < 0x110000) : IsWhole (kept code) := by
  intro s
  rw [shownChars_kept small, shownChars_kept_alone small, List.singleton_append]

theorem IsWhole.flatMap {codes : List Nat} {write : Nat → List Char}
    (whole : ∀ code ∈ codes, IsWhole (write code)) (s : List Char) :
    shownChars (codes.flatMap write ++ s) =
      codes.flatMap (fun code => shownChars (write code)) ++ shownChars s := by
  induction codes with
  | nil => rfl
  | cons code rest ih =>
      rw [List.flatMap_cons, List.append_assoc, whole code List.mem_cons_self,
        ih fun other among => whole other (List.mem_cons_of_mem _ among), List.flatMap_cons,
        List.append_assoc]

end Walkthrough.Text
