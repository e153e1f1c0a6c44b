import Mathlib.Data.Nat.Digits.Defs
import Walkthrough.Proofs.Prompt.Form

/-!
# Laws of step headers

A header is read from its line without the margins, its title has no margins and no line breaks
(`Walkthrough.Header.title_of_ofLine?`), and its number has few enough digits. Conversely a heading
with a number that is not too long and such a title is read as just that header
(`Walkthrough.Header.ofLine?_heading`). Which lines are read as headers, and as which, is said for
both forms at once by `Walkthrough.Header.ofLine?_forms`.
-/

namespace Walkthrough

open Text Text.Pattern

section Digits

variable {c : Char}

theorem toNat_of_isDigit (digit : c.isDigit = true) : 48 ≤ c.toNat ∧ c.toNat ≤ 57 := by
  simp only [Char.isDigit, Bool.and_eq_true, decide_eq_true_eq, UInt32.le_iff_toNat_le] at digit
  exact digit

theorem digit?_of_isDigit (digit : c.isDigit = true) : digit? c = some (c.toNat - '0'.toNat) := by
  have bounds := toNat_of_isDigit digit
  rw [digit?, if_pos (by omega), if_pos digit]

theorem isDigit_of_ascii (digit : c.isDigit = true) : isDigit c = true := by
  rw [isDigit, digit?_of_isDigit digit]
  rfl

theorem digit?_lt : (digit? c).getD 0 < 10 := by
  rw [digit?]
  split
  · split
    · next digit =>
        have bounds := toNat_of_isDigit digit
        have zero : '0'.toNat = 48 := rfl
        rw [Option.getD_some, zero]
        omega
    · simp
  · cases found : Table.zeros.find? fun start => start ≤ c.toNat && c.toNat < start + 10 with
    | none => simp
    | some start =>
        have within := List.find?_some found
        simp only [Bool.and_eq_true, decide_eq_true_eq] at within
        rw [Option.map_some, Option.getD_some]
        omega

end Digits

namespace Header

section Numbers

/-- Each further digit multiplies the bound of a number by ten. -/
theorem foldl_digits_lt (digits : List Char) (start : Nat) :
    digits.foldl (fun n c => 10 * n + (digit? c).getD 0) start <
      (start + 1) * Nat.pow 10 digits.length := by
  induction digits generalizing start with
  | nil => simp
  | cons c rest ih =>
      have digit := digit?_lt (c := c)
      calc
        (c :: rest).foldl (fun n c => 10 * n + (digit? c).getD 0) start
          < (10 * start + (digit? c).getD 0 + 1) * Nat.pow 10 rest.length := ih _
        _ ≤ ((start + 1) * 10) * Nat.pow 10 rest.length := Nat.mul_le_mul_right _ (by omega)
        _ = (start + 1) * Nat.pow 10 (c :: rest).length :=
          (Nat.mul_assoc _ _ _).trans (congrArg _ Nat.pow_succ'.symm)

/-- A number of few digits is small. -/
theorem valueOf_lt {digits : List Char} (limit : Nat) (short : digits.length ≤ limit) :
    valueOf digits < Nat.pow 10 limit := by
  have small := foldl_digits_lt digits 0
  rw [Nat.zero_add, Nat.one_mul] at small
  exact small.trans_le (Nat.pow_le_pow_right (by decide) short)

/-- A small number has few digits. -/
theorem length_toDigits_le {n limit : Nat} (positive : 0 < limit) (small : n < Nat.pow 10 limit) :
    (Nat.toDigits 10 n).length ≤ limit :=
  (Nat.length_toDigits_le_iff (by decide) positive).mpr small

theorem valueOf_toDigits (n : Nat) : valueOf (Nat.toDigits 10 n) = n := by
  have ascii : valueOf (Nat.toDigits 10 n) = Nat.ofDigitChars 10 (Nat.toDigits 10 n) 0 := by
    rw [valueOf, Nat.ofDigitChars_eq_foldl]
    refine List.foldl_ext _ _ _ fun sofar c member => ?_
    rw [digit?_of_isDigit (Nat.isDigit_of_mem_toDigits (by decide) (by decide) member),
      Option.getD_some]
  rw [ascii, Nat.ofDigitChars_ten_toDigits]

/-- The value of digits is that of their numbers, the last of which counts once. -/
theorem valueOf_eq {digits : List Char} (digit : ∀ c ∈ digits, isDigit c = true) :
    valueOf digits = Nat.ofDigits 10 (digits.filterMap digit?).reverse := by
  rw [Nat.ofDigits_eq_foldr, List.foldr_reverse, List.foldl_filterMap, valueOf]
  refine List.foldl_ext _ _ _ fun sofar c member => ?_
  obtain ⟨value, found⟩ := Option.isSome_iff_exists.mp (digit c member)
  rw [found, Option.getD_some, Nat.add_comm]
  rfl

end Numbers

section Reading

variable {s digits title : List Char}

theorem parts?_trim (s : List Char) : parts? (trim s) = parts? s := by
  rw [parts?, parts?, trim_trim]

/-- The title of a header has no margins, and what is in it is in the line. -/
theorem title_of_parts? (parts : parts? s = some (digits, title))
    (plain : ∀ c ∈ s, isLineBreak c = false) :
    IsTrim title ∧ ∀ c ∈ title, isLineBreak c = false := by
  have plainTrim : ∀ c ∈ trim s, isLineBreak c = false := fun c member =>
    plain c (mem_of_mem_trim member)
  obtain ⟨form, shows⟩ := (parts?_eq_some_iff (lineFeed_notMem plainTrim)).mp parts
  exact ⟨Form.isTrim_of_shows (isTrim_trim s) shows, fun c member =>
    plainTrim c (Form.mem_of_shows shows member)⟩

theorem ofLine?_trimmed (line : String) : ofLine? (trimmed line) = ofLine? line := by
  rw [ofLine?, ofLine?, trimmed, String.toList_ofList, parts?_trim]

theorem parts?_of_ofLine? {line : String} {header : Header}
    (opens : ofLine? line = .ok (some header)) :
    ∃ digits title, parts? line.toList = some (digits, title) ∧
      digits.length ≤ Decimal.maxDigits ∧ header = ⟨valueOf digits, String.ofList title⟩ := by
  unfold ofLine? at opens
  split at opens
  · cases opens
  · next digits title parts =>
      split at opens
      · cases opens
      · next short =>
          cases opens
          exact ⟨digits, title, parts, Nat.le_of_not_lt short, rfl⟩

theorem ordinal_lt {line : String} {header : Header} (opens : ofLine? line = .ok (some header)) :
    header.ordinal < Decimal.writtenLimit := by
  obtain ⟨digits, title, -, short, rfl⟩ := parts?_of_ofLine? opens
  unfold Decimal.writtenLimit
  exact valueOf_lt Decimal.maxDigits short

theorem title_of_ofLine? {line : String} {header : Header}
    (opens : ofLine? line = .ok (some header)) (plain : ∀ c ∈ line.toList, isLineBreak c = false) :
    IsTrim header.title.toList ∧ ∀ c ∈ header.title.toList, isLineBreak c = false := by
  obtain ⟨digits, title, parts, -, rfl⟩ := parts?_of_ofLine? opens
  rw [String.toList_ofList]
  exact title_of_parts? parts plain

end Reading

section Writing

/-- A header written as a heading. -/
def heading (header : Header) : String :=
  "### Step " ++ toString header.ordinal ++ ": " ++ header.title

/-- What stands in a heading before the title. -/
def mark (header : Header) : List Char :=
  '#' :: ('#' :: '#' :: ' ' :: 'S' :: 't' :: 'e' :: 'p' :: ' ' ::
    Nat.toDigits 10 header.ordinal ++ [':'])

variable {header : Header}

theorem heading_toList (header : Header) :
    header.heading.toList = header.mark ++ ' ' :: header.title.toList := by
  simp [heading, mark]

/-- A number that is written in digits ends where a sign stands. -/
theorem isNumber_toDigits (n : Nat) {sign : Char} (ended : isDigit sign = false)
    (tail : List Char) : IsNumber (Nat.toDigits 10 n) (sign :: tail) := by
  refine ⟨Nat.toDigits_ne_nil, fun c member => isDigit_of_ascii ?_, ?_⟩
  · exact Nat.isDigit_of_mem_toDigits (by decide) (by decide) member
  · rintro _ ⟨⟩
    exact ended

section Forms

variable {gap : List Char} {line : String} (bare : IsTrim header.title.toList)
  (inline : '\n' ∉ header.title.toList)
  (short : (Nat.toDigits 10 header.ordinal).length ≤ Decimal.maxDigits)
  (blank : ∀ c ∈ gap, isBlank c = true)

include bare inline short blank

/-- A header is read in any form that shows it, with whatever blanks before its title. -/
theorem ofLine?_of_form (form : Form) {before : List Char} {sign : Char}
    (shows : ∀ tail, form.Shows (before ++ (Nat.toDigits 10 header.ordinal ++ sign :: tail))
      (Nat.toDigits 10 header.ordinal) (trimStart tail))
    (solid : isBlank sign = false)
    (written : line.toList =
      before ++ (Nat.toDigits 10 header.ordinal ++ sign :: (gap ++ header.title.toList))) :
    ofLine? line = .ok (some header) := by
  have front : IsTrim (before ++ (Nat.toDigits 10 header.ordinal ++ [sign])) := by
    refine ⟨Form.solid_of_opens (Form.opens_of_shows (shows [])), fun c last => ?_⟩
    rw [← List.append_assoc, List.getLast?_concat] at last
    cases last
    exact solid
  obtain ⟨tail, trimmed, cut⟩ := exists_trim_append front (by simp) blank bare
  have whole : trim line.toList =
      before ++ (Nat.toDigits 10 header.ordinal ++ sign :: tail) := by
    rw [written]
    simpa using trimmed
  have shown := shows tail
  rw [cut, ← whole] at shown
  rw [ofLine?, parts?_of_inline shown inline]
  simp only [Nat.not_lt.mpr short, if_false, valueOf_toDigits, String.ofList_toList]

theorem ofLine?_of_heading {front : List Char} {sign : Char} (opens : IsFront front)
    (closes : sign = ':' ∨ sign = '.')
    (written : line.toList =
      front ++ (Nat.toDigits 10 header.ordinal ++ sign :: (gap ++ header.title.toList))) :
    ofLine? line = .ok (some header) := by
  have plain : isDigit sign = false ∧ isBlank sign = false := by
    rcases closes with rfl | rfl <;> decide
  obtain ⟨ended, solid⟩ := plain
  refine ofLine?_of_form bare inline short blank .heading (fun tail => ?_) solid written
  have shows := Form.Shows.heading opens (isNumber_toDigits header.ordinal ended tail)
  rcases closes with rfl | rfl <;> exact shows

theorem ofLine?_of_item
    (written : line.toList =
      Nat.toDigits 10 header.ordinal ++ '.' :: (gap ++ header.title.toList)) :
    ofLine? line = .ok (some header) := by
  refine @ofLine?_of_form _ _ _ bare inline short blank .item [] '.' (fun tail => ?_) ?_ written
  · exact .item (isNumber_toDigits header.ordinal (by decide) tail)
  · decide

end Forms

/-- **A heading is read as its header.** -/
theorem ofLine?_heading (bare : IsTrim header.title.toList)
    (plain : ∀ c ∈ header.title.toList, isLineBreak c = false)
    (short : header.ordinal < Decimal.writtenLimit) :
    ofLine? header.heading = .ok (some header) := by
  have blank : ∀ c ∈ [' '], isBlank c = true := List.forall_mem_singleton.mpr (by decide)
  have front : IsFront ['#', '#', '#', ' ', 'S', 't', 'e', 'p', ' '] :=
    @IsFront.intro 3 _ _ _ (by decide) (by decide) blank spelled_step blank
  have fits : (Nat.toDigits 10 header.ordinal).length ≤ Decimal.maxDigits := by
    unfold Decimal.writtenLimit at short
    exact length_toDigits_le (by decide) short
  refine ofLine?_of_heading bare (lineFeed_notMem plain) fits blank front (.inl rfl) ?_
  simp [heading_toList, mark]

/-- A heading is one line. -/
theorem isLineBreak_of_mem_heading (plain : ∀ c ∈ header.title.toList, isLineBreak c = false) :
    ∀ c ∈ header.heading.toList, isLineBreak c = false := by
  have digits : ∀ c ∈ Nat.toDigits 10 header.ordinal, isLineBreak c = false := by
    intro c member
    refine Bool.eq_false_iff.mpr fun breaks => ?_
    have ascii := Nat.isDigit_of_mem_toDigits (by decide) (by decide) member
    have blank := isBlank_of_isLineBreak breaks
    rw [isBlank_of_isDigit (isDigit_of_ascii ascii)] at blank
    cases blank
  have whole : header.heading.toList = ['#', '#', '#', ' ', 'S', 't', 'e', 'p', ' '] ++
      (Nat.toDigits 10 header.ordinal ++ ([':', ' '] ++ header.title.toList)) := by
    simp [heading_toList, mark]
  have marks : ['#', '#', '#', ' ', 'S', 't', 'e', 'p', ' '].any isLineBreak = false := by decide
  have colon : [':', ' '].any isLineBreak = false := by decide
  rw [List.any_eq_false] at marks colon
  rw [whole]
  simp only [List.forall_mem_append]
  exact ⟨fun c member => Bool.eq_false_iff.mpr (marks c member), digits,
    fun c member => Bool.eq_false_iff.mpr (colon c member), plain⟩

end Writing

section Lines

variable {line : String} {header : Header} {fault : LongOrdinal}

theorem ofLine?_eq_none_iff :
    ofLine? line = .ok none ↔ ∀ form : Form, ¬form.Opens (trim line.toList) := by
  rw [← parts?_eq_none_iff, ofLine?]
  cases parts? line.toList with
  | none => simp
  | some parts =>
      simp only [reduceCtorEq, iff_false]
      split <;> simp

theorem ofLine?_eq_header_iff (inline : '\n' ∉ trim line.toList) :
    ofLine? line = .ok (some header) ↔
      ∃ (form : Form) (digits : List Char),
        form.Shows (trim line.toList) digits header.title.toList ∧
          digits.length ≤ Decimal.maxDigits ∧ header.ordinal = valueOf digits := by
  constructor
  · intro opens
    obtain ⟨digits, title, parts, short, rfl⟩ := parts?_of_ofLine? opens
    obtain ⟨form, shows⟩ := (parts?_eq_some_iff inline).mp parts
    refine ⟨form, digits, ?_, short, rfl⟩
    rwa [String.toList_ofList]
  · rintro ⟨form, digits, shows, short, value⟩
    rw [ofLine?, (parts?_eq_some_iff inline).mpr ⟨form, shows⟩]
    simp only [Nat.not_lt.mpr short, if_false, ← value, String.ofList_toList]

theorem ofLine?_eq_error_iff (inline : '\n' ∉ trim line.toList) :
    ofLine? line = .error fault ↔
      ∃ (form : Form) (digits title : List Char), form.Shows (trim line.toList) digits title ∧
        Decimal.maxDigits < digits.length ∧ fault.digits = digits.length := by
  constructor
  · intro refused
    unfold ofLine? at refused
    split at refused
    · cases refused
    · next digits title parts =>
        obtain ⟨form, shows⟩ := (parts?_eq_some_iff inline).mp parts
        split at refused
        · next long =>
            cases refused
            exact ⟨form, digits, title, shows, long, rfl⟩
        · cases refused
  · rintro ⟨form, digits, title, shows, long, counted⟩
    rw [ofLine?, (parts?_eq_some_iff inline).mpr ⟨form, shows⟩]
    exact (if_pos long).trans (by rw [← counted])

/-- **A header is read by the form of its line.** A line that has no line feed between its margins
is read as a header, or refused for its number, exactly if it begins like a heading or like an item
of a list. What is read of it is the value of all the digits of the number, of which there may be
4300, and the title behind the sign and the blanks, which has no margins. Conversely a header is
read from each heading and each item that is written for it. No text has both forms. -/
theorem ofLine?_forms :
    (∀ line : String, '\n' ∉ trim line.toList →
      (ofLine? line ≠ .ok none ↔ ∃ form : Form, form.Opens (trim line.toList)) ∧
      (∀ header, ofLine? line = .ok (some header) ↔
        ∃ (form : Form) (digits : List Char),
          form.Shows (trim line.toList) digits header.title.toList ∧ digits.length ≤ 4300 ∧
            header.ordinal = Nat.ofDigits 10 (digits.filterMap digit?).reverse) ∧
      (∀ fault, ofLine? line = .error fault ↔
        ∃ (form : Form) (digits title : List Char),
          form.Shows (trim line.toList) digits title ∧ 4300 < digits.length ∧
            fault.digits = digits.length) ∧
      ∀ header, ofLine? line = .ok (some header) → IsTrim header.title.toList) ∧
    (∀ (header : Header) (gap : String), IsTrim header.title.toList →
      '\n' ∉ header.title.toList → (toString header.ordinal).length ≤ 4300 →
      (∀ c ∈ gap.toList, isBlank c = true) →
        (∀ front sign : String, IsFront front.toList → sign = ":" ∨ sign = "." →
          ofLine? (front ++ toString header.ordinal ++ sign ++ gap ++ header.title) =
            .ok (some header)) ∧
        ofLine? (toString header.ordinal ++ "." ++ gap ++ header.title) = .ok (some header)) ∧
    ∀ (form other : Form) (s : List Char), (form.pattern.front? s).isSome = true →
      (other.pattern.front? s).isSome = true → form = other := by
  refine ⟨fun line inline => ⟨?_, fun header => ?_, fun fault => ofLine?_eq_error_iff inline,
    fun header opens => ?_⟩, fun header gap bare inline short blank => ?_, ?_⟩
  · rw [ne_eq, ofLine?_eq_none_iff, not_forall]
    simp only [not_not]
  · rw [ofLine?_eq_header_iff inline]
    refine exists_congr fun form => exists_congr fun digits => and_congr_right fun shows => ?_
    rw [valueOf_eq (Form.isDigit_of_shows shows)]
    exact Iff.rfl
  · obtain ⟨form, digits, shows, -⟩ := (ofLine?_eq_header_iff inline).mp opens
    exact Form.isTrim_of_shows (isTrim_trim _) shows
  · have written : (toString header.ordinal).toList = Nat.toDigits 10 header.ordinal := by simp
    rw [← String.length_toList, written] at short
    constructor
    · intro front sign opens closes
      rcases closes with rfl | rfl
      · exact ofLine?_of_heading bare inline short blank opens (.inl rfl) (by simp)
      · exact ofLine?_of_heading bare inline short blank opens (.inr rfl) (by simp)
    · exact ofLine?_of_item bare inline short blank (by simp)
  · intro form other s matched another
    exact Form.eq_of_opens (Form.front?_isSome_iff.mp matched) (Form.front?_isSome_iff.mp another)

/-- The word may have a long s, and the digits of a number may be of several scripts. -/
theorem ofLine?_forms_scripts :
    '\n' ∉ trim "\t ##ſTEP 1٢.: Log in ".toList ∧
      ofLine? "\t ##ſTEP 1٢.: Log in " = .ok (some ⟨12, ": Log in"⟩) ∧
      ofLine? ("#Step" ++ toString 7 ++ "." ++ " " ++ "2. Click") = .ok (some ⟨7, "2. Click"⟩) := by
  have blank : ∀ c ∈ [' '], isBlank c = true := List.forall_mem_singleton.mpr (by decide)
  have line : trim "\t ##ſTEP 1٢.: Log in ".toList =
      ['#', '#', 'ſ', 'T', 'E', 'P', ' ', '1', '٢', '.', ':', ' ', 'L', 'o', 'g', ' ', 'i', 'n'] := by
    decide
  have inline : '\n' ∉ trim "\t ##ſTEP 1٢.: Log in ".toList := by
    rw [line]
    decide
  have spelled : List.Forall₂ (· ∈ ·) ['ſ', 'T', 'E', 'P'] wordForms := by decide
  have number : IsNumber ['1', '٢'] ['.', ':', ' ', 'L', 'o', 'g', ' ', 'i', 'n'] := by
    refine ⟨by decide, ?_, ?_⟩
    · exact List.forall_mem_cons.mpr ⟨by decide, List.forall_mem_singleton.mpr (by decide)⟩
    · rintro _ ⟨⟩
      decide
  have shows : Form.heading.Shows (trim "\t ##ſTEP 1٢.: Log in ".toList) ['1', '٢']
      ": Log in".toList := by
    rw [line]
    exact .heading (@IsFront.intro 2 [] _ _ (by decide) (by decide) (by simp) spelled blank) number
  refine ⟨inline, ((ofLine?_forms.1 _ inline).2.1 _).mpr ⟨.heading, _, shows, ?_, ?_⟩, ?_⟩
  · decide
  · decide
  · have front : IsFront "#Step".toList :=
      @IsFront.intro 1 [] _ [] (by decide) (by decide) (by simp) spelled_step (by simp)
    have bare : IsTrim "2. Click".toList := by
      have same : trim "2. Click".toList = "2. Click".toList := by decide
      rw [← same]
      exact isTrim_trim _
    exact (ofLine?_forms.2.1 ⟨7, "2. Click"⟩ " " bare (by decide) (by decide) blank).1 "#Step" "."
      front (.inr rfl)

end Lines

end Header

end Walkthrough
