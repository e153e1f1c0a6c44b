import Walkthrough.Proofs.Prompt.Detection

/-!
# Prompts with carriage returns

A prompt without carriage returns is read the same once each of its line feeds has one before it.
Its lines are the same, since the two are one line break. The directive is read from the text as a
whole and across blanks; a carriage return is a blank like the line feed behind it, so it hides no
directive and parts no word of one (`Walkthrough.Document.ofText_returned`).
-/

namespace Walkthrough

namespace Text

/-- A text with a carriage return before each line feed. -/
def withReturns (s : List Char) : List Char :=
  s.flatMap fun c => if c = '\n' then ['\r', '\n'] else [c]

variable {c : Char} {s t word rest : List Char}

@[simp] theorem withReturns_nil : withReturns [] = [] := rfl

@[simp] theorem withReturns_lineFeed (s : List Char) :
    withReturns ('\n' :: s) = '\r' :: '\n' :: withReturns s := rfl

@[simp] theorem withReturns_append (s t : List Char) :
    withReturns (s ++ t) = withReturns s ++ withReturns t :=
  List.flatMap_append

theorem withReturns_cons_of_ne (other : c ≠ '\n') (s : List Char) :
    withReturns (c :: s) = c :: withReturns s := by
  rw [withReturns, List.flatMap_cons, if_neg other]
  rfl

/-- A text without line feeds stays as it is. -/
theorem withReturns_eq_self (inline : '\n' ∉ s) : withReturns s = s := by
  induction s with
  | nil => rfl
  | cons c rest ih =>
      obtain ⟨other, inlineRest⟩ := List.ne_and_not_mem_of_not_mem_cons inline
      rw [withReturns_cons_of_ne (Ne.symm other), ih inlineRest]

/-- A carriage return and its line feed are one break, so the lines are the same. -/
theorem lines_withReturns (bare : '\r' ∉ s) : lines (withReturns s) = lines s := by
  induction s with
  | nil => rfl
  | cons c rest ih =>
      obtain ⟨single, bareRest⟩ := List.ne_and_not_mem_of_not_mem_cons bare
      by_cases feed : c = '\n'
      · subst feed
        rw [withReturns_lineFeed, lines, ih bareRest, lines_cons_lineFeed]
      · rw [withReturns_cons_of_ne feed]
        have apart {behind : List Char} : c = '\r' → ∀ more, behind ≠ '\n' :: more :=
          fun same => absurd same (Ne.symm single)
        by_cases breaks : isLineBreak c = true
        · rw [lines_cons_of_break breaks apart, lines_cons_of_break breaks apart, ih bareRest]
        · have plain : isLineBreak c = false := Bool.eq_false_iff.mpr breaks
          rw [lines_cons_of_plain plain, lines_cons_of_plain plain, ih bareRest]

/-- Both are blank, so the same is left behind the blanks at the front. -/
theorem dropWhile_withReturns (s : List Char) :
    (withReturns s).dropWhile isBlank = withReturns (s.dropWhile isBlank) := by
  induction s with
  | nil => rfl
  | cons c rest ih =>
      by_cases feed : c = '\n'
      · subst feed
        have blankReturn : isBlank '\r' = true := by decide
        have blankFeed : isBlank '\n' = true := by decide
        rw [withReturns_lineFeed, List.dropWhile_cons_of_pos blankReturn,
          List.dropWhile_cons_of_pos blankFeed, List.dropWhile_cons_of_pos blankFeed, ih]
      · rw [withReturns_cons_of_ne feed]
        by_cases blank : isBlank c = true
        · rw [List.dropWhile_cons_of_pos blank, List.dropWhile_cons_of_pos blank, ih]
        · rw [List.dropWhile_cons_of_neg blank, List.dropWhile_cons_of_neg blank,
            withReturns_cons_of_ne feed]

/-- A word without blanks is spelled the same, and the same stands behind it. -/
theorem spelled?_withReturns (blankless : isBlankless word = true) (s : List Char) :
    spelled? word (withReturns s) = (spelled? word s).map withReturns := by
  induction word generalizing s with
  | nil => rfl
  | cons letter more ih =>
      have later := ih (Bool.and_eq_true_iff.mp (List.all_cons.symm.trans blankless)).2
      cases s with
      | nil => rfl
      | cons c rest =>
          by_cases feed : c = '\n'
          · subst feed
            rw [withReturns_lineFeed, spelled?_cons_of_blank blankless (by decide),
              spelled?_cons_of_blank blankless (by decide)]
            rfl
          · rw [withReturns_cons_of_ne feed, spelled?, spelled?, later]
            by_cases same : sameLetter letter c = true
            · rw [if_pos same, if_pos same]
            · rw [if_neg same, if_neg same]
              rfl

/-- What is spelled like a word without blanks is not changed itself. -/
theorem take_withReturns_of_spelled? (blankless : isBlankless word = true)
    (found : spelled? word s = some rest) :
    (withReturns s).take ((withReturns s).length - (withReturns rest).length) =
      s.take (s.length - rest.length) := by
  obtain ⟨taken, spelled, rfl⟩ := exists_sameLetters_of_spelled? found
  have inline : '\n' ∉ taken := by
    intro member
    have solid := isBlank_of_sameLetters blankless spelled '\n' member
    exact absurd solid (by decide)
  rw [withReturns_append, withReturns_eq_self inline, List.length_append, List.length_append,
    Nat.add_sub_cancel, Nat.add_sub_cancel, List.take_left, List.take_left]

end Text

open Text

/-- A text with a carriage return before each line feed. -/
def returned (text : String) : String :=
  String.ofList (withReturns text.toList)

theorem linesOf_returned {text : String} (bare : '\r' ∉ text.toList) :
    linesOf (returned text) = linesOf text := by
  rw [linesOf, returned, String.toList_ofList, lines_withReturns bare, linesOf]

namespace Directive

variable {s : List Char}

theorem unmark_withReturns (s : List Char) : unmark (withReturns s) = withReturns (unmark s) := by
  cases s with
  | nil => rfl
  | cons c rest =>
      by_cases feed : c = '\n'
      · subst feed
        rfl
      · rw [withReturns_cons_of_ne feed, unmark, unmark]
        by_cases mark : (c == '#') = true
        · rw [if_pos mark, if_pos mark]
        · rw [if_neg mark, if_neg mark, withReturns_cons_of_ne feed]

theorem named?_withReturns (s : List Char) :
    named? (withReturns s) = (named? s).map withReturns := by
  rw [named?, unmark_withReturns, dropWhile_withReturns, spelled?_withReturns isBlankless_name,
    named?]

theorem answer?_withReturns (s : List Char) : answer? (withReturns s) = answer? s := by
  have spoken : spoken? (withReturns s) = spoken? s := by
    have yes : isBlankless "YES".toList = true := by decide
    have no : isBlankless "NO".toList = true := by decide
    rw [spoken?, spoken?, spelled?_withReturns yes, spelled?_withReturns no]
    cases affirmed : spelled? "YES".toList s with
    | some rest => exact congrArg some (take_withReturns_of_spelled? yes affirmed)
    | none =>
        cases denied : spelled? "NO".toList s with
        | some rest => exact congrArg some (take_withReturns_of_spelled? no denied)
        | none => rfl
  rw [answer?, spoken, answer?]

/-- A directive at the start of a text is read the same. -/
theorem front?_withReturns (s : List Char) : front? (withReturns s) = front? s := by
  rw [front?_eq, front?_eq, named?_withReturns]
  cases named? s with
  | none => rfl
  | some rest =>
      rw [Option.map_some, Option.bind_some, Option.bind_some, dropWhile_withReturns,
        answer?_withReturns]

/-- The rows of a text begin behind the same line feeds. -/
theorem below?_withReturns (s : List Char) : below? (withReturns s) = below? s := by
  induction s with
  | nil => rfl
  | cons c rest ih =>
      by_cases feed : c = '\n'
      · subst feed
        have passed : below? ('\r' :: '\n' :: withReturns rest) =
            below? ('\n' :: withReturns rest) := rfl
        rw [withReturns_lineFeed, passed, below?, below?, front?_withReturns, ih]
      · have passed (behind : List Char) : below? (c :: behind) = below? behind := by
          rw [below?, if_neg (by simpa using feed)]
        rw [withReturns_cons_of_ne feed, passed, passed, ih]

theorem ofText?_returned (text : String) : ofText? (returned text) = ofText? text := by
  rw [ofText?, returned, String.toList_ofList, front?_withReturns, below?_withReturns, ofText?]

end Directive

namespace Document

/-- **Carriage returns change nothing.** A prompt without carriage returns is the same document once
each line feed has one before it: the same steps with the same blocks and fields, the same misses on
lines of the same numbers, and the same answer about self-healing. If it has a number that is too
long to be read, it is refused in the same way. -/
theorem ofText_returned {text : String} (bare : '\r' ∉ text.toList) :
    ofText (returned text) = ofText text := by
  rw [ofText, linesOf_returned bare, Directive.ofText?_returned, ofText]

/-- A line outside of the steps, a directive over three lines, and a block of two. -/
theorem ofText_returned_torn :
    let text := "Intro\n#\nSelf-Healing:\nYes\n1. Login via API\nHTTP\nMethod: get\n"
    '\r' ∉ text.toList ∧
      ofText (returned text) = .ok {
        steps := [⟨1, "Login via API", .apiLogin,
          { method := some "GET", rawText := "HTTP\nMethod: get" }⟩]
        misses := [⟨1, "Intro"⟩, ⟨3, "Self-Healing:"⟩, ⟨4, "Yes"⟩]
        selfHealing := some true } := by
  intro text
  have bare : '\r' ∉ text.toList := by decide
  exact ⟨bare, (ofText_returned bare).trans (by decide +kernel)⟩

end Document

end Walkthrough
