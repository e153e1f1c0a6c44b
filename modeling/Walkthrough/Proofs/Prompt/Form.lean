import Walkthrough.Proofs.Text.Finding
import Walkthrough.Proofs.Text.Letters
import Walkthrough.Prompt.Header

/-!
# The two forms of a header

A line is a heading if it begins with one to three marks, the word and a digit, and an item of a
list if it begins with digits and a point (`Walkthrough.Header.Form.Opens`). What such a line shows
as its number and its title is said without the patterns (`Walkthrough.Header.Form.Shows`). The
patterns match just these lines and keep just that, so a line is read by the one form that it has,
if it has one (`Walkthrough.Header.parts?_eq_some_iff`, `Walkthrough.Header.parts?_eq_none_iff`).
-/

namespace Walkthrough

open Text Text.Pattern

theorem Text.isBlank_of_isDigit {c : Char} (digit : isDigit c = true) : isBlank c = false :=
  liesIn_eq_false (by decide +kernel) (liesIn_of_isDigit digit)

namespace Header

section Grammar

/-- The letters that the word of a heading is spelled with. Either case will do, and the long s is
an s. -/
def wordForms : List (List Char) :=
  [['S', 's', 'ſ'], ['T', 't'], ['E', 'e'], ['P', 'p']]

/-- What a heading has before its number: one to three marks and the word, either of them with or
without blanks behind it. -/
inductive IsFront : List Char → Prop
  | intro {count : Nat} {gap word space : List Char} :
      1 ≤ count → count ≤ 3 → (∀ c ∈ gap, isBlank c = true) →
      List.Forall₂ (· ∈ ·) word wordForms → (∀ c ∈ space, isBlank c = true) →
      IsFront (List.replicate count '#' ++ (gap ++ (word ++ space)))

/-- All the digits that a text begins with, if it begins with any, and the rest of it. -/
structure IsNumber (digits rest : List Char) : Prop where
  nonempty : digits ≠ []
  digit : ∀ c ∈ digits, isDigit c = true
  ended : ∀ c ∈ rest.head?, isDigit c = false

/-- A text without the colon or the point that it may begin with. -/
def pastSign : List Char → List Char
  | [] => []
  | c :: rest => if c == ':' || c == '.' then rest else c :: rest

/-- The ways to write a header: `### Step 3: Title` and `3. Title`. -/
inductive Form where
  | heading
  | item

namespace Form

/-- The pattern of a form. -/
def pattern : Form → Pattern
  | heading => headingPattern
  | item => numberedPattern

/-- A text begins like a header of a form. -/
inductive Opens : Form → List Char → Prop
  | heading {front rest : List Char} {digit : Char} :
      IsFront front → isDigit digit = true → Opens heading (front ++ digit :: rest)
  | item {digits rest : List Char} :
      digits ≠ [] → (∀ c ∈ digits, isDigit c = true) → Opens item (digits ++ '.' :: rest)

/-- A header of a form shows the digits of its number, and the rest of the text as its title. -/
inductive Shows : Form → (s digits title : List Char) → Prop
  | heading {front digits rest : List Char} :
      IsFront front → IsNumber digits rest →
        Shows heading (front ++ (digits ++ rest)) digits (trimStart (pastSign rest))
  | item {digits rest : List Char} :
      IsNumber digits ('.' :: rest) → Shows item (digits ++ '.' :: rest) digits (trimStart rest)

end Form

end Grammar

section Word

variable {s : List Char}

theorem sameLetters_step : SameLetters "Step".toList s ↔ List.Forall₂ (· ∈ ·) s wordForms := by
  refine sameLetters_iff_of_forms (.cons ?_ (.cons ?_ (.cons ?_ (.cons ?_ .nil))))
  · exact fun c => sameLetter_iff_mem ['s', 'ſ'] (by decide)
  · exact fun c => sameLetter_iff_mem ['t'] (by decide)
  · exact fun c => sameLetter_iff_mem ['e'] (by decide)
  · exact fun c => sameLetter_iff_mem ['p'] (by decide)

theorem spelled_step : List.Forall₂ (· ∈ ·) "Step".toList wordForms :=
  sameLetters_step.mp (List.forall₂_same.mpr fun c _ => sameLetter_refl c)

theorem mem_flatten_of_forall₂ {forms : List (List Char)}
    (spelled : List.Forall₂ (· ∈ ·) s forms) : ∀ c ∈ s, c ∈ forms.flatten := by
  induction spelled with
  | nil => simp
  | cons form _ ih =>
      rw [List.flatten_cons]
      exact List.forall_mem_cons.mpr ⟨List.mem_append_left _ form,
        fun c member => List.mem_append_right _ (ih c member)⟩

/-- The word has neither marks nor blanks in it. -/
theorem plain_of_word (spelled : List.Forall₂ (· ∈ ·) s wordForms) :
    ∀ c ∈ s, c ≠ '#' ∧ isBlank c = false := by
  have plain : wordForms.flatten.all (fun c => c != '#' && !isBlank c) = true := by decide
  intro c member
  simpa using List.all_eq_true.mp plain c (mem_flatten_of_forall₂ spelled c member)

end Word

section Patterns

/-- The marks that a heading begins with. -/
def marksPatterns : List Pattern :=
  [one (· == '#'), optional (one (· == '#')), optional (one (· == '#'))]

/-- The word of a heading and its number. -/
def numberPatterns : List Pattern :=
  [many isBlank, word "Step", many isBlank, keep (oneOrMore isDigit)]

/-- Both kinds of header end with a title after blanks. -/
def titlePatterns : List Pattern :=
  [many isBlank, keep (many (· != '\n'))]

/-- In a heading a sign may stand before the title. -/
def signedTitlePatterns : List Pattern :=
  optional (one fun c => c == ':' || c == '.') :: titlePatterns

theorem headingPattern_eq :
    headingPattern = all (marksPatterns ++ numberPatterns ++ signedTitlePatterns) :=
  rfl

theorem numberedPattern_eq :
    numberedPattern = all ([keep (oneOrMore isDigit), one (· == '.')] ++ titlePatterns) :=
  rfl

variable {front digits rest s t : List Char} {later : List Pattern} {kept : List (List Char)}

theorem run_titlePatterns (kept : List (List Char)) (s : List Char) :
    (all titlePatterns).run (fun kept rest => some (kept, rest)) kept s =
      some (kept ++ [(trimStart s).takeWhile (· != '\n')], (trimStart s).dropWhile (· != '\n')) := by
  have inner (t : List Char) :
      (all [keep (many (· != '\n'))]).run (fun kept rest => some (kept, rest)) kept t =
        some (kept ++ [t.takeWhile (· != '\n')], t.dropWhile (· != '\n')) := by
    simp only [all, List.foldr_cons, List.foldr_nil, run]
    rw [runMany_of_total fun _ => rfl]
    have split := List.takeWhile_append_dropWhile (p := (· != '\n')) (l := t)
    generalize t.takeWhile (· != '\n') = front, t.dropWhile (· != '\n') = back at split ⊢
    subst split
    simp
  have total (t : List Char) : ((all [keep (many (· != '\n'))]).run
      (fun kept rest => some (kept, rest)) kept t).isSome = true := by
    rw [inner]
    rfl
  rw [titlePatterns, all, List.foldr_cons, run, run]
  exact (runMany_of_total total s).trans (inner _)

theorem run_signedTitlePatterns (kept : List (List Char)) (s : List Char) :
    (all signedTitlePatterns).run (fun kept rest => some (kept, rest)) kept s =
      some (kept ++ [(trimStart (pastSign s)).takeWhile (· != '\n')],
        (trimStart (pastSign s)).dropWhile (· != '\n')) := by
  rw [signedTitlePatterns, all, List.foldr_cons, ← all, run, Pattern.optional, run]
  cases s with
  | nil => rw [run, run, run_titlePatterns, pastSign]
  | cons c rest =>
      cases sign : c == ':' || c == '.' with
      | true => simp only [run, sign, if_true, run_titlePatterns, pastSign]
      | false => simp only [run, sign, if_neg Bool.false_ne_true, run_titlePatterns, pastSign]

theorem preferred_marks {count : Nat} (some : 1 ≤ count) (few : count ≤ 3)
    (others : Preferred (all later) t rest kept) (behind : ∀ c ∈ (t ++ rest).head?, c ≠ '#') :
    Preferred (all (marksPatterns ++ later)) (List.replicate count '#' ++ t) rest kept := by
  have none : Preferred (optional (one (· == '#'))) [] (t ++ rest) [] :=
    .right (refuses_one fun c first => beq_eq_false_iff_ne.mpr (behind c first)) .empty
  have mark {rest : List Char} : Preferred (optional (one (· == '#'))) ['#'] rest [] :=
    .left (.one rfl)
  have marked {second third : List Char}
      (takeSecond : Preferred (optional (one (· == '#'))) second (third ++ t ++ rest) [])
      (takeThird : Preferred (optional (one (· == '#'))) third (t ++ rest) []) :
      Preferred (all (marksPatterns ++ later)) (['#'] ++ (second ++ (third ++ t))) rest kept :=
    .skip (.one rfl) (.skip takeSecond (.skip takeThird others))
  -- As no mark stands behind them, the options that are left over match nothing.
  obtain rfl | rfl | rfl : count = 1 ∨ count = 2 ∨ count = 3 := by omega
  · exact marked none none
  · exact marked mark none
  · exact marked mark mark

/-- The front of a heading and its number are taken as they are. -/
theorem preferred_front (opens : IsFront front) (number : IsNumber digits rest) :
    Preferred (all (marksPatterns ++ numberPatterns)) (front ++ (digits ++ [])) rest [digits] := by
  obtain @⟨count, gap, word, space, some, few, blankGap, spelled, blankSpace⟩ := opens
  obtain ⟨letter, letters, rfl⟩ : ∃ letter letters, word = letter :: letters := by
    cases spelled
    exact ⟨_, _, rfl⟩
  -- Each run of blanks, and the marks, end where the next part begins.
  obtain ⟨noMark, solid⟩ := plain_of_word spelled letter List.mem_cons_self
  have digit : ∀ c ∈ (digits ++ [] ++ rest).head?, isBlank c = false := by
    obtain ⟨d, more, rfl⟩ := List.exists_cons_of_ne_nil number.nonempty
    rintro _ ⟨⟩
    exact isBlank_of_isDigit (number.digit d List.mem_cons_self)
  have worded : Preferred (all numberPatterns)
      (gap ++ ((letter :: letters) ++ (space ++ (digits ++ [])))) rest [digits] := by
    refine .skip (.many blankGap ?_) (.skip (preferred_spelled (sameLetters_step.mpr spelled) _)
      (.skip (.many blankSpace digit) (.take ?_ .done)))
    · rintro _ ⟨⟩
      exact solid
    · exact preferred_oneOrMore number.nonempty number.digit number.ended
  have marked := preferred_marks some few worded ?_
  · simpa using marked
  · intro c first
    cases gap with
    | nil =>
        cases first
        exact noMark
    | cons blank more =>
        cases first
        rintro rfl
        exact absurd (blankGap '#' List.mem_cons_self) (by decide)

theorem front?_headingPattern (opens : IsFront front) (number : IsNumber digits rest) :
    headingPattern.front? (front ++ (digits ++ rest)) =
      some ([digits, (trimStart (pastSign rest)).takeWhile (· != '\n')],
        (trimStart (pastSign rest)).dropWhile (· != '\n')) := by
  have taken := run_of_preferred (preferred_front opens number)
    (run_signedTitlePatterns ([] ++ [digits]) rest)
  rw [front?, headingPattern_eq, run_all_append]
  simpa using taken

theorem front?_numberedPattern (number : IsNumber digits ('.' :: rest)) :
    numberedPattern.front? (digits ++ '.' :: rest) =
      some ([digits, (trimStart rest).takeWhile (· != '\n')],
        (trimStart rest).dropWhile (· != '\n')) := by
  have front : Preferred (all [keep (oneOrMore isDigit), one (· == '.')])
      (digits ++ (['.'] ++ [])) rest [digits] :=
    .take (preferred_oneOrMore number.nonempty number.digit number.ended) (.skip (.one rfl) .done)
  have taken := run_of_preferred front (run_titlePatterns ([] ++ [digits]) rest)
  rw [front?, numberedPattern_eq, run_all_append]
  simpa using taken

theorem exists_of_marks (fits : (all (marksPatterns ++ later)).Matches s kept) :
    ∃ count back, 1 ≤ count ∧ count ≤ 3 ∧ s = List.replicate count '#' ++ back ∧
      (all later).Matches back kept := by
  simp only [marksPatterns, all, List.cons_append, List.nil_append, List.foldr_cons,
    matches_seq_of_silent (fun _ _ => matches_one),
    matches_seq_of_silent (fun _ _ => matches_optional), beq_iff_eq, exists_eq_left] at fits
  obtain ⟨_, _, rfl, rfl, second, _, rfl, takeSecond, third, back, rfl, takeThird, fitsBack⟩ := fits
  rcases takeSecond with rfl | rfl <;> rcases takeThird with rfl | rfl
  · exact ⟨1, back, by decide, by decide, rfl, fitsBack⟩
  · exact ⟨2, back, by decide, by decide, rfl, fitsBack⟩
  · exact ⟨2, back, by decide, by decide, rfl, fitsBack⟩
  · exact ⟨3, back, by decide, by decide, rfl, fitsBack⟩

end Patterns

namespace Form

variable {form other : Form} {s digits title : List Char}

theorem front?_of_shows (shows : form.Shows s digits title) :
    form.pattern.front? s =
      some ([digits, title.takeWhile (· != '\n')], title.dropWhile (· != '\n')) := by
  cases shows with
  | heading opens number => exact front?_headingPattern opens number
  | item number => exact front?_numberedPattern number

theorem opens_of_front? {found : List (List Char) × List Char}
    (front : form.pattern.front? s = some found) : form.Opens s := by
  cases form with
  | heading =>
      rw [pattern, front?, headingPattern_eq, run_all_append] at front
      obtain ⟨taken, rest, kept, rfl, fits, -⟩ := matches_of_run front
      obtain ⟨count, back, some, few, rfl, fitsNumber⟩ := exists_of_marks fits
      simp only [numberPatterns, all, List.foldr_cons, List.foldr_nil, word,
        matches_seq_of_silent (fun _ _ => matches_many),
        matches_seq_of_silent (fun _ _ => matches_letters), sameLetters_step,
        matches_keep_of_silent (fun _ _ => matches_oneOrMore_silent), matches_empty] at fitsNumber
      obtain ⟨gap, _, rfl, blankGap, word, _, rfl, spelled, space, _, rfl, blankSpace, digits, _, _,
        rfl, -, ⟨nonempty, digit⟩, rfl, -⟩ := fitsNumber
      obtain ⟨d, more, rfl⟩ := List.exists_cons_of_ne_nil nonempty
      have opens := @Opens.heading _ (more ++ rest) d
        (.intro some few blankGap spelled blankSpace) (digit d List.mem_cons_self)
      simpa using opens
  | item =>
      rw [pattern, front?, numberedPattern_eq, run_all_append] at front
      obtain ⟨taken, rest, kept, rfl, fits, -⟩ := matches_of_run front
      simp only [all, List.foldr_cons, List.foldr_nil,
        matches_keep_of_silent (fun _ _ => matches_oneOrMore_silent),
        matches_seq_of_silent (fun _ _ => matches_one), matches_empty, beq_iff_eq,
        exists_eq_left] at fits
      obtain ⟨digits, _, _, rfl, -, ⟨nonempty, digit⟩, _, _, rfl, rfl, rfl, -⟩ := fits
      have opens := @Opens.item digits rest nonempty digit
      simpa using opens

theorem opens_of_shows (shows : form.Shows s digits title) : form.Opens s :=
  opens_of_front? (front?_of_shows shows)

/-- What begins like a header shows a number and a title. -/
theorem exists_shows (opens : form.Opens s) : ∃ digits title, form.Shows s digits title := by
  cases opens with
  | @heading front rest d opens digit =>
      -- The digit that opens the line may have more behind it, all of which count.
      have number : IsNumber ((d :: rest).takeWhile isDigit) ((d :: rest).dropWhile isDigit) :=
        ⟨by simp [digit], fun _ member => List.mem_takeWhile_imp member, head?_dropWhile⟩
      have shows := Shows.heading opens number
      rw [List.takeWhile_append_dropWhile] at shows
      exact ⟨_, _, shows⟩
  | @item digits rest nonempty digit =>
      have ended : ∀ c ∈ ('.' :: rest).head?, isDigit c = false := by
        rintro _ ⟨⟩
        decide
      exact ⟨digits, _, .item ⟨nonempty, digit, ended⟩⟩

theorem front?_isSome_iff : (form.pattern.front? s).isSome = true ↔ form.Opens s := by
  constructor
  · intro finds
    obtain ⟨found, front⟩ := Option.isSome_iff_exists.mp finds
    exact opens_of_front? front
  · intro opens
    obtain ⟨digits, title, shows⟩ := exists_shows opens
    rw [front?_of_shows shows]
    rfl

/-- A heading begins with a mark. -/
theorem head?_of_heading (opens : heading.Opens s) : s.head? = some '#' := by
  obtain @⟨_, _, _, @⟨count, _, _, _, some, _, _, _, _⟩, _⟩ := opens
  obtain ⟨more, rfl⟩ := Nat.exists_eq_add_of_le' some
  rfl

/-- An item of a list begins with a digit. -/
theorem head?_of_item (opens : item.Opens s) : ∃ c ∈ s.head?, isDigit c = true := by
  obtain _ | ⟨nonempty, digit⟩ := opens
  obtain ⟨d, more, rfl⟩ := List.exists_cons_of_ne_nil nonempty
  exact ⟨d, rfl, digit d List.mem_cons_self⟩

/-- No header begins with a blank. -/
theorem solid_of_opens (opens : form.Opens s) : ∀ c ∈ s.head?, isBlank c = false := by
  intro c first
  cases form with
  | heading =>
      rw [head?_of_heading opens] at first
      cases first
      decide
  | item =>
      obtain ⟨d, another, digit⟩ := head?_of_item opens
      rw [Option.mem_unique first another]
      exact isBlank_of_isDigit digit

theorem not_opens_both (opens : heading.Opens s) : ¬item.Opens s := by
  intro another
  obtain ⟨c, first, digit⟩ := head?_of_item another
  rw [head?_of_heading opens] at first
  cases first
  exact absurd digit (by decide)

/-- No text has both forms. -/
theorem eq_of_opens (opens : form.Opens s) (another : other.Opens s) : form = other := by
  cases form <;> cases other
  · rfl
  · exact absurd another (not_opens_both opens)
  · exact absurd opens (not_opens_both another)
  · rfl

theorem pastSign_suffix (s : List Char) : pastSign s <:+ s := by
  cases s with
  | nil => exact List.suffix_rfl
  | cons c rest =>
      rw [pastSign]
      split
      · exact List.suffix_cons c rest
      · exact List.suffix_rfl

/-- The title is what the text ends with, without the blanks before it. -/
theorem exists_suffix_of_shows (shows : form.Shows s digits title) :
    ∃ late, late <:+ s ∧ title = trimStart late := by
  cases shows with
  | @heading front digits rest _ _ =>
      have late := (pastSign_suffix rest).trans (List.suffix_append digits rest)
      exact ⟨pastSign rest, late.trans (List.suffix_append front _), rfl⟩
  | @item digits rest _ =>
      exact ⟨rest, (List.suffix_cons '.' rest).trans (List.suffix_append digits _), rfl⟩

theorem isTrim_of_shows (bare : IsTrim s) (shows : form.Shows s digits title) : IsTrim title := by
  obtain ⟨late, suffix, rfl⟩ := exists_suffix_of_shows shows
  exact bare.trimStart_of_suffix suffix

theorem mem_of_shows (shows : form.Shows s digits title) {c : Char} (member : c ∈ title) :
    c ∈ s := by
  obtain ⟨late, suffix, rfl⟩ := exists_suffix_of_shows shows
  exact suffix.subset ((List.dropWhile_sublist _).subset member)

theorem isDigit_of_shows (shows : form.Shows s digits title) : ∀ c ∈ digits, isDigit c = true := by
  cases shows with
  | heading _ number => exact number.digit
  | item number => exact number.digit

end Form

section Reading

variable {form : Form} {s digits title : List Char}

/-- A line shows its number and its title, up to a line feed, in the form that it has. -/
theorem parts?_of_shows (shows : form.Shows (trim s) digits title) :
    parts? s = some (digits, title.takeWhile (· != '\n')) := by
  have front := Form.front?_of_shows shows
  cases form with
  | heading =>
      rw [Form.pattern] at front
      rw [parts?, front, Option.some_or]
  | item =>
      -- The pattern of headings goes first, but a line of this form is no heading.
      have none : headingPattern.front? (trim s) = none := by
        refine Option.eq_none_iff_forall_ne_some.mpr fun found heading => ?_
        exact Form.not_opens_both (@Form.opens_of_front? .heading _ _ heading)
          (Form.opens_of_shows shows)
      rw [Form.pattern] at front
      rw [parts?, none, Option.none_or, front]

theorem parts?_eq_none_iff : parts? s = none ↔ ∀ form : Form, ¬form.Opens (trim s) := by
  constructor
  · intro none form opens
    obtain ⟨digits, title, shows⟩ := Form.exists_shows opens
    rw [parts?_of_shows shows] at none
    cases none
  · intro closed
    have unmatched (form : Form) : form.pattern.front? (trim s) = none :=
      Option.eq_none_iff_forall_ne_some.mpr fun _ front => closed form (Form.opens_of_front? front)
    rw [parts?, show headingPattern.front? (trim s) = none from unmatched .heading,
      show numberedPattern.front? (trim s) = none from unmatched .item, Option.or_none]

theorem parts?_of_inline (shows : form.Shows (trim s) digits title) (inline : '\n' ∉ title) :
    parts? s = some (digits, title) := by
  have whole : title.takeWhile (· != '\n') = title := by
    refine List.takeWhile_eq_self_iff.mpr fun c member => bne_iff_ne.mpr ?_
    rintro rfl
    exact inline member
  rw [parts?_of_shows shows, whole]

/-- What is read of a line that has no line feed between its margins is what it shows. -/
theorem parts?_eq_some_iff (inline : '\n' ∉ trim s) :
    parts? s = some (digits, title) ↔ ∃ form : Form, form.Shows (trim s) digits title := by
  have reads {form : Form} {digits title : List Char} (shows : form.Shows (trim s) digits title) :
      parts? s = some (digits, title) :=
    parts?_of_inline shows fun member => inline (Form.mem_of_shows shows member)
  constructor
  · intro parts
    have opens : ∃ form : Form, form.Opens (trim s) := by
      by_contra closed
      rw [parts?_eq_none_iff.mpr (not_exists.mp closed)] at parts
      cases parts
    obtain ⟨form, opens⟩ := opens
    obtain ⟨shownDigits, shownTitle, shows⟩ := Form.exists_shows opens
    rw [reads shows] at parts
    cases parts
    exact ⟨form, shows⟩
  · intro shown
    obtain ⟨form, shows⟩ := shown
    exact reads shows

end Reading

end Header

end Walkthrough
