import Walkthrough.Proofs.Decimal.Figures
import Walkthrough.Proofs.Text.Shown
import Walkthrough.Proofs.Xml.Reading

/-!
# Reading texts that are written in XML

A text is written code by code, and a reader finds each code again, or stumbles over the first one
that may not stand in a document: in attributes (`Walkthrough.Xml.value?_inAttribute`) and between
tags, where line breaks become plain (`Walkthrough.Xml.content?_inText`).
-/

namespace Walkthrough.Xml

open Text

/-- A text of which every character may stand in a document. -/
def isLegalText (text : String) : Bool :=
  (codes text.toList).all isLegal

theorem ofNat_of_isHalf {code : Nat} (half : isHalf code = true) : Char.ofNat code = '\x00' := by
  have invalid : ¬ code.isValidChar := by
    simp only [isHalf, Bool.and_eq_true, decide_eq_true_eq] at half
    simp only [Nat.isValidChar]
    omega
  rw [Char.ofNat, dif_neg invalid]
  rfl

theorem isLegal_of_isHalf {code : Nat} (half : isHalf code = true) : isLegal code = false := by
  simp only [isHalf, Bool.and_eq_true, decide_eq_true_eq] at half
  simp only [isLegal, Bool.or_eq_false_iff, Bool.and_eq_false_iff, beq_eq_false_iff_ne,
    decide_eq_false_iff_not]
  omega

theorem toNat_ofNat_of_whole {code : Nat} (small : code < 0x110000) (whole : isHalf code = false) :
    (Char.ofNat code).toNat = code := by
  refine toNat_ofNat ?_
  simp only [isHalf, Bool.and_eq_false_iff, decide_eq_false_iff_not] at whole
  simp only [Nat.isValidChar]
  omega

/-- The code of a character other than the first of all is told by it. -/
theorem eq_of_ofNat_eq {code : Nat} {c : Char} (small : code < 0x110000) (other : c ≠ '\x00')
    (same : Char.ofNat code = c) : code = c.toNat := by
  cases half : isHalf code with
  | true =>
      rw [ofNat_of_isHalf half] at same
      exact absurd same.symm other
  | false => rw [← same, toNat_ofNat_of_whole small half]

theorem digit?_of_isDigit {c : Char} (decimal : c.isDigit = true) :
    digit? c = some (c.toNat - '0'.toNat) ∧ c.toNat - '0'.toNat < 10 := by
  have bounds : '0' ≤ c ∧ c ≤ '9' := by
    simp only [Char.isDigit, Bool.and_eq_true, decide_eq_true_eq] at decimal
    exact decimal
  refine ⟨by simp [digit?, bounds], ?_⟩
  have upper : c.toNat ≤ 57 := bounds.2
  have zero : '0'.toNat = 48 := rfl
  omega

theorem number?_of_digits {digits : List Char} (decimal : ∀ c ∈ digits, c.isDigit = true)
    (before : Nat) : number? 10 before digits = some (Nat.ofDigitChars 10 digits before) := by
  induction digits generalizing before with
  | nil => rfl
  | cons c rest ih =>
      obtain ⟨value, small⟩ := digit?_of_isDigit (decimal c List.mem_cons_self)
      rw [number?, value, Option.bind_some, if_pos small,
        ih fun d among => decimal d (List.mem_cons_of_mem _ among)]
      rfl

theorem referred?_of_digits {digits : List Char} (decimal : ∀ c ∈ digits, c.isDigit = true) :
    referred? ('#' :: digits) = numbered? 10 digits := by
  cases digits with
  | nil => rfl
  | cons c rest =>
      have other : c ≠ 'x' := by
        rintro rfl
        exact absurd (decimal 'x' List.mem_cons_self) (by decide)
      unfold referred?
      split
      all_goals simp_all

/-- A reference ends at the first semicolon. -/
theorem resolved?_reference {name : List Char} (unended : ';' ∉ name) (before s : List Char) :
    resolved? (some before) (name ++ ';' :: s) =
      (referred? (before.reverse ++ name)).bind fun d => (resolved? none s).map (d :: ·) := by
  induction name generalizing before with
  | nil => simp [resolved?]
  | cons c rest ih =>
      have first : c ≠ ';' := by
        rintro rfl
        exact unended List.mem_cons_self
      rw [List.cons_append, resolved?, if_neg first,
        ih fun among => unended (List.mem_cons_of_mem _ among)]
      simp

theorem ascii_of_isDigit {c : Char} (decimal : c.isDigit = true) : c.toNat < 0x80 := by
  simp only [Char.isDigit, Bool.and_eq_true, decide_eq_true_eq] at decimal
  have upper : c.toNat ≤ 57 := decimal.2
  omega

theorem numbered?_toString (code : Nat) : numbered? 10 (toString code).toList =
    if isLegal code then some (Char.ofNat code) else none := by
  have filled : (toString code).toList.isEmpty = false := by
    rw [Nat.toString_eq_repr, Nat.toList_repr, List.isEmpty_eq_false_iff]
    exact Nat.toDigits_ne_nil
  have value : number? 10 0 (toString code).toList = some code := by
    rw [number?_of_digits fun _ => isDigit_of_mem_toString, Nat.toString_eq_repr, Nat.toList_repr,
      Nat.ofDigitChars_ten_toDigits]
  simp only [numbered?, filled, value, Bool.false_eq_true, if_false, Option.bind_some]

theorem ascii_of_mem_half {code : Nat} (half : isHalf code = true) :
    ∀ c ∈ plainCode code, c.toNat < 0x80 := by
  intro c among
  simp only [plainCode, half, if_true, List.mem_append, List.mem_singleton] at among
  rcases among with (sign | digit) | rfl
  · have signs : "&#".toList.all (fun c => c.toNat < 0x80) = true := by decide
    simpa using List.all_eq_true.mp signs c sign
  · exact ascii_of_isDigit (isDigit_of_mem_toString digit)
  · decide

/-- Half a character is written as a reference to its number, which no document may refer to. -/
theorem resolved?_half {code : Nat} (half : isHalf code = true) (s : List Char) :
    resolved? none (shownChars (plainCode code) ++ s) = none := by
  have unended : ';' ∉ '#' :: (toString code).toList := by
    rintro (_ | ⟨_, among⟩)
    exact absurd (isDigit_of_mem_toString among) (by decide)
  have written : plainCode code ++ s = '&' :: ('#' :: (toString code).toList) ++ ';' :: s := by
    simp [plainCode, half]
  rw [shownChars_of_ascii (ascii_of_mem_half half), written, List.cons_append, resolved?,
    if_pos rfl, resolved?_reference unended, List.reverse_nil, List.nil_append,
    referred?_of_digits fun _ => isDigit_of_mem_toString, numbered?_toString,
    isLegal_of_isHalf half]
  rfl

theorem shownChars_plainCode {code : Nat} (small : code < 0x110000) (whole : isHalf code = false) :
    shownChars (plainCode code) = [Char.ofNat code] := by
  simp only [plainCode, whole, Bool.false_eq_true, if_false, shownChars_kept_alone small, shownCode]

/-- What a code is written as, where it stands for itself. -/
theorem resolved?_plainCode {code : Nat} (small : code < 0x110000)
    (other : Char.ofNat code ≠ '&') (s : List Char) :
    resolved? none (shownChars (plainCode code) ++ s) =
      if isLegal code then (resolved? none s).map (Char.ofNat code :: ·) else none := by
  cases half : isHalf code with
  | true => rw [resolved?_half half, isLegal_of_isHalf half, if_neg (by decide)]
  | false =>
      rw [shownChars_plainCode small half, List.singleton_append, resolved?, if_neg other,
        toNat_ofNat_of_whole small half]

/-- A code that is written in an attribute is found again, or may not stand there. -/
theorem resolved?_attributeCode {code : Nat} (small : code < 0x110000) (s : List Char) :
    resolved? none (shownChars (attributeCode code) ++ s) =
      if isLegal code then (resolved? none s).map (Char.ofNat code :: ·) else none := by
  unfold attributeCode
  split
  case h_8 other _ _ _ _ _ _ => exact resolved?_plainCode small other s
  all_goals
    next same =>
      obtain rfl := eq_of_ofNat_eq small (by decide) same
      rfl

/-- A code that is written between tags is found again, or may not stand there. -/
theorem resolved?_textCode {code : Nat} (small : code < 0x110000) (s : List Char) :
    resolved? none (shownChars (textCode code) ++ s) =
      if isLegal code then (resolved? none s).map (Char.ofNat code :: ·) else none := by
  unfold textCode
  split
  case h_4 other _ _ => exact resolved?_plainCode small other s
  all_goals
    next same =>
      obtain rfl := eq_of_ofNat_eq small (by decide) same
      rfl

theorem isWhole_plainCode {code : Nat} (small : code < 0x110000) : IsWhole (plainCode code) := by
  cases half : isHalf code with
  | true => exact .of_ascii (ascii_of_mem_half half)
  | false =>
      simp only [plainCode, half, Bool.false_eq_true, if_false]
      exact .kept small

theorem isWhole_attributeCode {code : Nat} (small : code < 0x110000) :
    IsWhole (attributeCode code) := by
  unfold attributeCode
  split
  case h_8 => exact isWhole_plainCode small
  all_goals exact .of_ascii (by simp)

theorem isWhole_textCode {code : Nat} (small : code < 0x110000) : IsWhole (textCode code) := by
  unfold textCode
  split
  case h_4 => exact isWhole_plainCode small
  all_goals exact .of_ascii (by simp)

/-- What holds of a code's own character, of digits and of the signs of a reference holds of all
that the code is written with. -/
theorem all_plainCode {code : Nat} {fits : Char → Bool} (small : code < 0x110000)
    (own : fits (Char.ofNat code) = true) (digit : ∀ c, c.isDigit = true → fits c = true)
    (signs : "&#;".toList.all fits = true) : (shownChars (plainCode code)).all fits = true := by
  cases half : isHalf code with
  | true =>
      have digits : (toString code).toList.all fits = true :=
        List.all_eq_true.mpr fun c among => digit c (isDigit_of_mem_toString among)
      have fitting : fits '&' = true ∧ fits '#' = true ∧ fits ';' = true := by simpa using signs
      obtain ⟨ampersand, number, semicolon⟩ := fitting
      rw [shownChars_of_ascii (ascii_of_mem_half half), plainCode, if_pos half, List.all_append,
        List.all_append, digits]
      simp [ampersand, number, semicolon]
  | false =>
      rw [shownChars_plainCode small half]
      simp [own]

/-- Whether a character may stand bare in an attribute that is written. -/
def isBare (c : Char) : Bool :=
  c != '<' && c != '"' && c != '\r' && c != '\n' && c != '\t'

theorem isBare_iff {c : Char} :
    isBare c = true ↔ c ≠ '<' ∧ c ≠ '"' ∧ c ≠ '\r' ∧ c ≠ '\n' ∧ c ≠ '\t' := by
  simp only [isBare, Bool.and_eq_true, bne_iff_ne, and_assoc]

theorem all_attributeCode {code : Nat} (small : code < 0x110000) :
    (shownChars (attributeCode code)).all isBare = true := by
  have digit (c : Char) (decimal : c.isDigit = true) : isBare c = true := by
    refine isBare_iff.mpr ⟨?_, ?_, ?_, ?_, ?_⟩
    all_goals
      rintro rfl
      exact absurd decimal (by decide)
  unfold attributeCode
  split
  case h_8 _ lt _ quote back feed tab =>
    exact all_plainCode small (isBare_iff.mpr ⟨lt, quote, back, feed, tab⟩) digit (by decide)
  all_goals
    next same =>
      obtain rfl := eq_of_ofNat_eq small (by decide) same
      rfl

/-- No tag starts within a text that is written, and none ends there. -/
theorem all_textCode {code : Nat} (small : code < 0x110000) :
    (shownChars (textCode code)).all (fun c => c != '<' && c != '>') = true := by
  have digit (c : Char) (decimal : c.isDigit = true) : (c != '<' && c != '>') = true := by
    simp only [Bool.and_eq_true, bne_iff_ne]
    constructor
    all_goals
      rintro rfl
      exact absurd decimal (by decide)
  unfold textCode
  split
  case h_4 _ lt gt =>
    have own : (Char.ofNat code != '<' && Char.ofNat code != '>') = true := by
      simp only [Bool.and_eq_true, bne_iff_ne]
      exact ⟨lt, gt⟩
    exact all_plainCode small own digit (by decide)
  all_goals
    next same =>
      obtain rfl := eq_of_ofNat_eq small (by decide) same
      rfl

/-- Only a carriage return is written with one. -/
theorem all_textCode_of_ne {code : Nat} (small : code < 0x110000) (other : Char.ofNat code ≠ '\r') :
    (shownChars (textCode code)).all (fun c => c != '\r') = true := by
  have digit (c : Char) (decimal : c.isDigit = true) : (c != '\r') = true := by
    rw [bne_iff_ne]
    rintro rfl
    exact absurd decimal (by decide)
  unfold textCode
  split
  case h_4 => exact all_plainCode small (bne_iff_ne.mpr other) digit (by decide)
  all_goals
    next same =>
      obtain rfl := eq_of_ofNat_eq small (by decide) same
      rfl

/-- The characters that a text is written with in an attribute. -/
def inAttribute (s : List Char) : List Char :=
  (codes s).flatMap fun code => shownChars (attributeCode code)

/-- The characters that a text is written with between tags. -/
def inText (s : List Char) : List Char :=
  (codes s).flatMap fun code => shownChars (textCode code)

theorem shownChars_inAttribute (text s : List Char) :
    shownChars ((codes text).flatMap attributeCode ++ s) = inAttribute text ++ shownChars s :=
  IsWhole.flatMap (fun _ among => isWhole_attributeCode (lt_of_mem_codesFrom among)) s

theorem shownChars_inText (text s : List Char) :
    shownChars ((codes text).flatMap textCode ++ s) = inText text ++ shownChars s :=
  IsWhole.flatMap (fun _ among => isWhole_textCode (lt_of_mem_codesFrom among)) s

theorem plainBreaks_append {a : List Char} (bare : a.all (fun c => c != '\r') = true)
    (s : List Char) : plainBreaks (a ++ s) = a ++ plainBreaks s := by
  induction a with
  | nil => rfl
  | cons c rest ih =>
      obtain ⟨first, later⟩ := (Bool.and_eq_true _ _).mp (List.all_cons ▸ bare)
      have other : c ≠ '\r' := bne_iff_ne.mp first
      rw [List.cons_append, plainBreaks, ih later]
      · rfl
      · rintro _ rfl
        exact absurd rfl other
      · exact other

theorem plainBreaks_eq_self {a : List Char} (bare : a.all (fun c => c != '\r') = true) :
    plainBreaks a = a := by
  have whole := plainBreaks_append bare []
  simpa [plainBreaks] using whole

theorem map_guard {α β : Type} (first rest : Bool) (change : α → β) (value : α) :
    (if first then (if rest then some value else none).map change else none) =
      if first && rest then some (change value) else none := by
  cases first with
  | false => rfl
  | true =>
      cases rest with
      | false => rfl
      | true => rfl

/-- Codes are found again one after the other, up to one that may not stand in a document. -/
theorem resolved?_flatMap {row : List Nat} {write : Nat → List Char}
    (found : ∀ code ∈ row, ∀ s, resolved? none (shownChars (write code) ++ s) =
      if isLegal code then (resolved? none s).map (Char.ofNat code :: ·) else none) :
    resolved? none (row.flatMap fun code => shownChars (write code)) =
      if row.all isLegal then some (row.map Char.ofNat) else none := by
  induction row with
  | nil => rfl
  | cons code rest ih =>
      rw [List.flatMap_cons, found code List.mem_cons_self,
        ih fun other among => found other (List.mem_cons_of_mem _ among), map_guard, List.all_cons,
        List.map_cons]

theorem all_inAttribute (s : List Char) : (inAttribute s).all isBare = true := by
  rw [inAttribute, List.all_flatMap]
  exact List.all_eq_true.mpr fun code among => all_attributeCode (lt_of_mem_codesFrom among)

/-- A text is read in an attribute as it was, if all of its characters may stand in a document. -/
theorem value?_inAttribute (text : String) : value? (inAttribute text.toList) =
    if isLegalText text then some ((codes text.toList).map Char.ofNat) else none := by
  have bare {c : Char} (among : c ∈ inAttribute text.toList) :=
    isBare_iff.mp (List.all_eq_true.mp (all_inAttribute text.toList) c among)
  have apart : (inAttribute text.toList).contains '<' = false := by
    rw [Bool.eq_false_iff, ne_eq, List.contains_iff_mem]
    intro among
    exact (bare among).1 rfl
  have unbroken : (inAttribute text.toList).all (fun c => c != '\r') = true :=
    List.all_eq_true.mpr fun c among => bne_iff_ne.mpr (bare among).2.2.1
  have plain := plainBreaks_eq_self unbroken
  have spaces : (inAttribute text.toList).map (fun c => if isSpace c then ' ' else c) =
      inAttribute text.toList := by
    refine (List.map_congr_left fun c among => ?_).trans (List.map_id _)
    obtain ⟨-, -, back, feed, tab⟩ := bare among
    by_cases blank : c = ' '
    · simp [blank]
    · simp [isSpace, blank, back, feed, tab]
  rw [value?, apart, if_neg (by decide), plain, spaces]
  exact resolved?_flatMap fun code among => resolved?_attributeCode (lt_of_mem_codesFrom among)

theorem plainBreaks_cons_of_ne {c : Char} (other : c ≠ '\r') (s : List Char) :
    plainBreaks (c :: s) = c :: plainBreaks s :=
  plainBreaks_append (a := [c]) (by simp [other]) s

/-- A carriage return becomes a line feed, and takes one behind it along. -/
theorem plainBreaks_return {s : List Char} (other : s.head? ≠ some '\n') :
    plainBreaks ('\r' :: s) = '\n' :: plainBreaks s := by
  rw [plainBreaks]
  rintro rest rfl
  exact other rfl

theorem textCode_head? {code : Nat} (small : code < 0x110000) (other : Char.ofNat code ≠ '\n')
    (s : List Char) : (shownChars (textCode code) ++ s).head? ≠ some '\n' := by
  unfold textCode
  split
  case h_4 =>
    cases half : isHalf code with
    | true =>
        rw [shownChars_of_ascii (ascii_of_mem_half half), plainCode, if_pos half]
        rintro ⟨⟩
    | false =>
        rw [shownChars_plainCode small half]
        intro same
        exact other (Option.some.inj same)
  all_goals
    next same =>
      obtain rfl := eq_of_ofNat_eq small (by decide) same
      rintro ⟨⟩

theorem resolved?_plainBreaks_cons {code : Nat} (small : code < 0x110000)
    (other : Char.ofNat code ≠ '\r') (s : List Char) :
    resolved? none (plainBreaks (shownChars (textCode code) ++ s)) =
      if isLegal code then (resolved? none (plainBreaks s)).map (Char.ofNat code :: ·)
      else none := by
  rw [plainBreaks_append (all_textCode_of_ne small other), resolved?_textCode small]

theorem resolved?_feed (s : List Char) :
    resolved? none ('\n' :: s) = (resolved? none s).map ('\n' :: ·) :=
  rfl

/-- What stands between tags is read with its line breaks made plain. -/
theorem resolved?_plainBreaks (row : List Nat) (small : ∀ code ∈ row, code < 0x110000) :
    resolved? none (plainBreaks (row.flatMap fun code => shownChars (textCode code))) =
      if row.all isLegal then some (plainBreaks (row.map Char.ofNat)) else none := by
  match row with
  | [] => rfl
  | code :: rest =>
      have first := small code List.mem_cons_self
      have others : ∀ other ∈ rest, other < 0x110000 := fun other among =>
        small other (List.mem_cons_of_mem _ among)
      by_cases back : Char.ofNat code = '\r'
      · obtain rfl := eq_of_ofNat_eq first (by decide) back
        cases rest with
        | nil => rfl
        | cons next more =>
            by_cases feed : Char.ofNat next = '\n'
            · obtain rfl := eq_of_ofNat_eq (others next List.mem_cons_self) (by decide) feed
              have later := resolved?_plainBreaks more fun other among =>
                others other (List.mem_cons_of_mem _ among)
              have written : plainBreaks (('\r'.toNat :: '\n'.toNat :: more).flatMap fun code =>
                  shownChars (textCode code)) =
                    '\n' :: plainBreaks (more.flatMap fun code => shownChars (textCode code)) := rfl
              have plain : plainBreaks (('\r'.toNat :: '\n'.toNat :: more).map Char.ofNat) =
                  '\n' :: plainBreaks (more.map Char.ofNat) := rfl
              rw [written, plain, resolved?_feed, later]
              exact map_guard true _ _ _
            · have later := resolved?_plainBreaks (next :: more) others
              have written : plainBreaks (('\r'.toNat :: next :: more).flatMap fun code =>
                  shownChars (textCode code)) = '\n' :: plainBreaks ((next :: more).flatMap
                    fun code => shownChars (textCode code)) :=
                plainBreaks_return (textCode_head? (others next List.mem_cons_self) feed _)
              have plain : plainBreaks (('\r'.toNat :: next :: more).map Char.ofNat) =
                  '\n' :: plainBreaks ((next :: more).map Char.ofNat) :=
                plainBreaks_return fun same => feed (Option.some.inj same)
              rw [written, plain, resolved?_feed, later]
              exact map_guard true _ _ _
      · rw [List.flatMap_cons, resolved?_plainBreaks_cons first back,
          resolved?_plainBreaks rest others, map_guard, List.all_cons, List.map_cons,
          plainBreaks_cons_of_ne back]
termination_by row.length

theorem mem_of_occursIn {needle s : List Char} {c : Char} (within : occursIn needle s = true)
    (among : c ∈ needle) : c ∈ s := by
  induction s with
  | nil =>
      have empty : needle = [] := by simpa [occursIn] using within
      rw [empty] at among
      cases among
  | cons d rest ih =>
      simp only [occursIn, Bool.or_eq_true] at within
      rcases within with first | later
      · exact (List.isPrefixOf_iff_prefix.mp first).subset among
      · exact List.mem_cons_of_mem d (ih later)

theorem occursIn_eq_false {needle s : List Char} {c : Char} (among : c ∈ needle) (missing : c ∉ s) :
    occursIn needle s = false := by
  rw [Bool.eq_false_iff]
  intro within
  exact missing (mem_of_occursIn within among)

theorem all_inText (s : List Char) : (inText s).all (fun c => c != '<' && c != '>') = true := by
  rw [inText, List.all_flatMap]
  exact List.all_eq_true.mpr fun code among => all_textCode (lt_of_mem_codesFrom among)

/-- A text is read between tags with its line breaks made plain, if all of its characters may stand
in a document. -/
theorem content?_inText (text : String) : content? (inText text.toList) =
    if isLegalText text then some (plainBreaks ((codes text.toList).map Char.ofNat)) else none := by
  have missing : '>' ∉ inText text.toList := fun among => by
    simpa using List.all_eq_true.mp (all_inText text.toList) '>' among
  have apart : occursIn "]]>".toList (inText text.toList) = false :=
    occursIn_eq_false (by decide) missing
  rw [content?, apart, if_neg (by decide)]
  exact resolved?_plainBreaks _ fun _ => lt_of_mem_codesFrom

end Walkthrough.Xml
