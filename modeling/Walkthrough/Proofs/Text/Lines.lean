import Mathlib.Data.List.Basic
import Mathlib.Data.List.DropRight
import Mathlib.Data.List.TakeWhile
import Walkthrough.Text.Lines

/-!
# Laws of lines and margins

A text is cut where a line break ends, whatever follows (`Walkthrough.Text.lines_append`), and lines
that are joined by line feeds are found again
(`Walkthrough.Text.lines_intercalate`). A text without margins is one that neither begins nor ends
with a blank; trimming makes such a text and leaves it alone (`Walkthrough.Text.trim_eq_self`).
-/

namespace Walkthrough.Text

section Lines

variable {c : Char} {s line : List Char}

theorem isLineBreak_lineFeed : isLineBreak '\n' = true := by decide

/-- A text without line breaks has no line feeds. -/
theorem lineFeed_notMem (plain : ∀ c ∈ s, isLineBreak c = false) : '\n' ∉ s := by
  intro member
  have breaks := plain '\n' member
  rw [isLineBreak_lineFeed] at breaks
  cases breaks

/-- A line break ends a line by itself, but for a carriage return with a line feed after it. -/
theorem lines_cons_of_break (breaks : isLineBreak c = true)
    (single : c = '\r' → ∀ rest, s ≠ '\n' :: rest) : lines (c :: s) = [] :: lines s := by
  rw [lines]
  · rw [if_pos breaks]
  · rintro rest rfl rfl
    exact single rfl rest rfl

theorem lines_cons_lineFeed (s : List Char) : lines ('\n' :: s) = [] :: lines s :=
  lines_cons_of_break isLineBreak_lineFeed fun same => by simp at same

/-- Any other character begins the line that follows. -/
theorem lines_cons_of_plain (plain : isLineBreak c = false) (s : List Char) :
    lines (c :: s) = (c :: (lines s).headD []) :: (lines s).tail := by
  rw [lines]
  · rw [if_neg (by simp [plain])]
    cases lines s with
    | nil => rfl
    | cons first more => rfl
  · rintro rest rfl
    have breaks : isLineBreak '\r' = true := by decide
    rw [plain] at breaks
    cases breaks

theorem lines_ne_nil (some : s ≠ []) : lines s ≠ [] := by
  fun_cases lines s with
  | case1 => exact absurd rfl some
  | case2 => simp
  | case3 => simp
  | case4 => simp
  | case5 => simp

/-- A text begins with its first line, and goes on with a line break if it goes on at all. -/
theorem exists_of_lines_cons {more : List (List Char)} (cut : lines s = line :: more) :
    ∃ back, s = line ++ back ∧ ∀ c ∈ back.head?, isLineBreak c = true := by
  fun_induction lines s generalizing line more with
  | case1 => cases cut
  | case2 rest ih =>
      cases cut
      refine ⟨_, rfl, ?_⟩
      rintro _ ⟨⟩
      decide
  | case3 c rest _ breaks ih =>
      cases cut
      refine ⟨_, rfl, ?_⟩
      rintro _ ⟨⟩
      exact breaks
  | case4 c rest _ _ none ih =>
      cases cut
      have gone : rest = [] := by
        by_contra nonempty
        exact lines_ne_nil nonempty none
      exact ⟨[], by rw [gone]; rfl, by simp⟩
  | case5 c rest _ _ first others found ih =>
      cases cut
      obtain ⟨back, rfl, closes⟩ := ih found
      exact ⟨back, rfl, closes⟩

theorem isPrefix_of_lines {more : List (List Char)} (cut : lines s = line :: more) :
    line <+: s := by
  obtain ⟨back, rfl, -⟩ := exists_of_lines_cons cut
  exact List.prefix_append line back

/-- No line holds a line break. -/
theorem isLineBreak_of_mem_lines (member : line ∈ lines s) :
    ∀ c ∈ line, isLineBreak c = false := by
  fun_induction lines s generalizing line with
  | case1 => cases member
  | case2 rest ih | case3 c rest _ _ ih =>
      rcases List.mem_cons.mp member with rfl | later
      · simp
      · exact ih later
  | case4 c rest _ plain _ _ =>
      obtain rfl := List.mem_singleton.mp member
      simpa using plain
  | case5 c rest _ plain first more cut ih =>
      rw [cut] at ih
      rcases List.mem_cons.mp member with rfl | later
      · have inFirst := ih List.mem_cons_self
        exact List.forall_mem_cons.mpr ⟨by simpa using plain, inFirst⟩
      · exact ih (List.mem_cons_of_mem _ later)

/-- A text is cut where a line break ends, if that is not between a carriage return and its line
feed. -/
theorem lines_append {s t : List Char} (ends : ∀ c ∈ s.getLast?, isLineBreak c = true)
    (apart : s.getLast? = some '\r' → ∀ rest, t ≠ '\n' :: rest) :
    lines (s ++ t) = lines s ++ lines t := by
  fun_induction lines s with
  | case1 => rfl
  | case2 rest ih =>
      simp only [List.cons_append, lines]
      have later {d : Char} (last : d ∈ rest.getLast?) : d ∈ ('\r' :: '\n' :: rest).getLast? :=
        List.mem_getLast?_cons (List.mem_getLast?_cons last)
      rw [ih (fun d last => ends d (later last)) fun last => apart (later last)]
  | case3 c rest single breaks ih =>
      have joined (same : c = '\r') (more : List Char) : rest ++ t ≠ '\n' :: more := by
        cases rest with
        | nil => exact apart (by rw [same]; rfl) more
        | cons d rest =>
            intro joined
            obtain ⟨rfl, -⟩ := List.cons.inj joined
            exact single rest same rfl
      rw [List.cons_append, lines_cons_of_break breaks joined,
        ih (fun d last => ends d (List.mem_getLast?_cons last))
          fun last => apart (List.mem_getLast?_cons last)]
      rfl
  | case4 c rest _ plain none _ =>
      -- A text without lines is empty, so the one character is the last one.
      have gone : rest = [] := by
        by_contra some
        exact lines_ne_nil some none
      rw [gone] at ends
      exact absurd (ends c rfl) plain
  | case5 c rest _ plain first more cut ih =>
      rw [List.cons_append, lines_cons_of_plain (by simpa using plain),
        ih (fun d last => ends d (List.mem_getLast?_cons last))
          fun last => apart (List.mem_getLast?_cons last), cut]
      rfl

/-- A line feed ends a line whatever follows. -/
theorem lines_append_lineFeed (s t : List Char) :
    lines (s ++ '\n' :: t) = lines (s ++ ['\n']) ++ lines t := by
  rw [← List.singleton_append, ← List.append_assoc, lines_append]
  · rw [List.getLast?_append_of_ne_nil _ (by simp)]
    rintro _ ⟨⟩
    exact isLineBreak_lineFeed
  · rw [List.getLast?_append_of_ne_nil _ (by simp)]
    intro last
    simp at last

/-- A text without line breaks is the first line of what it begins. -/
theorem lines_append_of_plain (plain : ∀ c ∈ line, isLineBreak c = false) (s : List Char) :
    lines (line ++ '\n' :: s) = line :: lines s := by
  induction line with
  | nil => exact lines_cons_lineFeed s
  | cons c rest ih =>
      obtain ⟨first, others⟩ := List.forall_mem_cons.mp plain
      rw [List.cons_append, lines_cons_of_plain first, ih others]
      rfl

/-- A stretch without line breaks is the first line of a text that goes on with a line break, or
ends there. -/
theorem lines_append_of_closes {back : List Char} (nonempty : line ≠ [])
    (plain : ∀ c ∈ line, isLineBreak c = false) (closes : ∀ c ∈ back.head?, isLineBreak c = true) :
    lines (line ++ back) = line :: (lines back).tail := by
  have bare : (lines back).headD [] = [] := by
    fun_cases lines back with
    | case1 => rfl
    | case2 => rfl
    | case3 => rfl
    | case4 c rest _ breaks => exact absurd (closes c rfl) breaks
    | case5 c rest _ breaks => exact absurd (closes c rfl) breaks
  induction line with
  | nil => exact absurd rfl nonempty
  | cons c rest ih =>
      obtain ⟨first, others⟩ := List.forall_mem_cons.mp plain
      rw [List.cons_append, lines_cons_of_plain first]
      cases rest with
      | nil => rw [List.nil_append, bare]
      | cons d more =>
          rw [ih (by simp) others]
          rfl

theorem lines_of_plain (nonempty : line ≠ []) (plain : ∀ c ∈ line, isLineBreak c = false) :
    lines line = [line] := by
  have whole := @lines_append_of_closes line [] nonempty plain (by simp)
  rwa [List.append_nil] at whole

/-- Lines that hold something are found again when they are joined. -/
theorem lines_intercalate {all : List (List Char)}
    (plain : ∀ line ∈ all, line ≠ [] ∧ ∀ c ∈ line, isLineBreak c = false) :
    lines (['\n'].intercalate all) = all := by
  induction all with
  | nil => rfl
  | cons line rest ih =>
      obtain ⟨⟨some, first⟩, others⟩ := List.forall_mem_cons.mp plain
      cases rest with
      | nil =>
          rw [List.intercalate_singleton]
          exact lines_of_plain some first
      | cons next more =>
          rw [List.intercalate_cons_cons, List.append_assoc, List.singleton_append,
            lines_append_of_plain first, ih others]

/-- Lines with a line feed after each are the first lines of a text. -/
theorem lines_flatMap_append {all : List (List Char)}
    (plain : ∀ line ∈ all, ∀ c ∈ line, isLineBreak c = false) (s : List Char) :
    lines (all.flatMap (· ++ ['\n']) ++ s) = all ++ lines s := by
  induction all with
  | nil => rfl
  | cons line rest ih =>
      obtain ⟨first, others⟩ := List.forall_mem_cons.mp plain
      rw [List.flatMap_cons, List.append_assoc, List.append_assoc, List.singleton_append,
        lines_append_of_plain first, ih others]
      rfl

end Lines

section Words

/-- No word holds a blank. -/
theorem isBlank_of_mem_words {s word : List Char} (member : word ∈ words s) :
    ∀ c ∈ word, isBlank c = false := by
  fun_induction words s generalizing word with
  | case1 => cases member
  | case2 => cases member
  | case3 c solid =>
      obtain rfl := List.mem_singleton.mp member
      simpa using solid
  | case4 c d rest _ ih => exact ih member
  | case5 c d rest solid _ ih =>
      rcases List.mem_cons.mp member with rfl | later
      · simpa using solid
      · exact ih later
  | case6 c d rest solid _ _ _ =>
      obtain rfl := List.mem_singleton.mp member
      simpa using solid
  | case7 c d rest solid _ first more cut ih =>
      rw [cut] at ih
      rcases List.mem_cons.mp member with rfl | later
      · exact List.forall_mem_cons.mpr ⟨by simpa using solid, ih List.mem_cons_self⟩
      · exact ih (List.mem_cons_of_mem _ later)

end Words

section Margins

/-- A text that neither begins nor ends with a blank. -/
structure IsTrim (s : List Char) : Prop where
  front : ∀ c ∈ s.head?, isBlank c = false
  back : ∀ c ∈ s.getLast?, isBlank c = false

variable {s t : List Char}

theorem dropWhile_eq_self {p : Char → Bool} (front : ∀ c ∈ s.head?, p c = false) :
    s.dropWhile p = s := by
  cases s with
  | nil => rfl
  | cons c rest => rw [List.dropWhile_cons_of_neg (by simp [front c rfl])]

theorem head?_dropWhile {p : Char → Bool} : ∀ c ∈ (s.dropWhile p).head?, p c = false := by
  intro c first
  have := List.head?_dropWhile_not p s
  rw [Option.mem_def.mp first] at this
  exact this

theorem getLast?_rdropWhile {p : Char → Bool} : ∀ c ∈ (s.rdropWhile p).getLast?, p c = false := by
  intro c last
  rw [List.rdropWhile, List.getLast?_reverse] at last
  exact head?_dropWhile c last

theorem trim_eq_self (trimmed : IsTrim s) : trim s = s := by
  have back : s.reverse.dropWhile isBlank = s.reverse :=
    dropWhile_eq_self (by simpa using trimmed.back)
  rw [trim, trimEnd, trimStart, dropWhile_eq_self trimmed.front, back, List.reverse_reverse]

/-- Trimming the end, too, takes away a margin of blanks. -/
theorem trimStart_eq (s : List Char) :
    ∃ margin, trimStart s = trim s ++ margin ∧ ∀ c ∈ margin, isBlank c = true :=
  ⟨(trimStart s).rtakeWhile isBlank, (List.rdropWhile_append_rtakeWhile ..).symm,
    fun _ => List.mem_rtakeWhile_imp⟩

/-- What is left after trimming the end, too, begins in the same way. -/
theorem mem_head?_trimStart {c : Char} (first : c ∈ (trim s).head?) :
    c ∈ (trimStart s).head? := by
  obtain ⟨margin, whole, -⟩ := trimStart_eq s
  obtain ⟨rest, same⟩ := List.head?_eq_some_iff.mp first
  rw [whole, same]
  rfl

theorem isTrim_trim (s : List Char) : IsTrim (trim s) := by
  refine ⟨?_, ?_⟩
  · intro c first
    exact head?_dropWhile c (mem_head?_trimStart first)
  · rw [trim, trimEnd, List.getLast?_reverse]
    exact head?_dropWhile

/-- What such a text ends with has no margins but the blanks that it may begin with. -/
theorem IsTrim.trimStart_of_suffix (bare : IsTrim s) (late : t <:+ s) : IsTrim (trimStart t) := by
  refine ⟨head?_dropWhile, fun c last => bare.back c ?_⟩
  obtain ⟨front, rest⟩ := (List.dropWhile_suffix isBlank).trans late
  rw [← rest]
  exact List.mem_getLast?_append_of_mem_getLast? last

theorem trim_trim (s : List Char) : trim (trim s) = trim s :=
  trim_eq_self (isTrim_trim s)

/-- A text from a character that is not blank up to one that is not. -/
theorem IsTrim.of_ends {c : Char} (first : isBlank c = false) (some : t ≠ [])
    (last : ∀ d ∈ t.getLast?, isBlank d = false) (s : List Char) : IsTrim (c :: (s ++ t)) := by
  refine ⟨?_, ?_⟩
  · rintro _ ⟨⟩
    exact first
  · intro d back
    refine last d ?_
    rwa [← List.cons_append, List.getLast?_append_of_ne_nil _ some] at back

/-- Blanks at the start do not count. -/
theorem trim_blanks_append {blanks : List Char} (blank : ∀ c ∈ blanks, isBlank c = true)
    (s : List Char) : trim (blanks ++ s) = trim s := by
  rw [trim, trimStart, List.dropWhile_append_of_pos blank, ← trimStart, ← trim]

/-- Neither do blanks at the end. -/
theorem trim_append_blanks {blanks : List Char} (blank : ∀ c ∈ blanks, isBlank c = true)
    (s : List Char) : trim (s ++ blanks) = trim s := by
  have none : blanks.dropWhile isBlank = [] := List.dropWhile_eq_nil_iff.mpr blank
  rw [trim, trim, trimEnd, trimEnd, trimStart, trimStart, List.dropWhile_append]
  split
  · next gone => rw [none, List.isEmpty_iff.mp gone]
  · rw [List.reverse_append, List.dropWhile_append_of_pos]
    intro c member
    exact blank c (List.mem_reverse.mp member)

/-- Between two texts without margins, blanks are kept unless nothing comes after them. -/
theorem exists_trim_append {blanks : List Char} (bare : IsTrim s) (nonempty : s ≠ [])
    (blank : ∀ c ∈ blanks, isBlank c = true) (bareEnd : IsTrim t) :
    ∃ tail, trim (s ++ (blanks ++ t)) = s ++ tail ∧ trimStart tail = t := by
  by_cases empty : t = []
  · subst empty
    refine ⟨[], ?_, rfl⟩
    rw [List.append_nil, List.append_nil, trim_append_blanks blank, trim_eq_self bare]
  · obtain ⟨c, rest, rfl⟩ := List.exists_cons_of_ne_nil nonempty
    refine ⟨blanks ++ t, trim_eq_self ?_, ?_⟩
    · have ends := IsTrim.of_ends (bare.front c rfl) empty bareEnd.back (rest ++ blanks)
      rwa [List.append_assoc] at ends
    · rw [trimStart, List.dropWhile_append_of_pos blank, dropWhile_eq_self bareEnd.front]

theorem mem_of_mem_trim {c : Char} (member : c ∈ trim s) : c ∈ s := by
  rw [trim, trimEnd, List.mem_reverse] at member
  have inside := (List.dropWhile_sublist isBlank).subset member
  exact (List.dropWhile_sublist isBlank).subset (List.mem_reverse.mp inside)

/-- Trimming takes away nothing but blanks. -/
theorem mem_trim_of_solid {c : Char} (member : c ∈ s) (solid : isBlank c = false) :
    c ∈ trim s := by
  have left {s : List Char} (member : c ∈ s) : c ∈ s.dropWhile isBlank := by
    rw [← List.takeWhile_append_dropWhile (p := isBlank) (l := s), List.mem_append] at member
    rcases member with blank | inside
    · rw [List.mem_takeWhile_imp blank] at solid
      cases solid
    · exact inside
  rw [trim, trimEnd, trimStart, List.mem_reverse]
  exact left (List.mem_reverse.mpr (left member))

end Margins

end Walkthrough.Text
