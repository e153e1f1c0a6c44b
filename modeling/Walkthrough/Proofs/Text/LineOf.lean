import Walkthrough.Proofs.Text.Lines

/-!
# Lines where they stand

A line of a text together with what stands before and behind it (`Walkthrough.Text.LineOf`). The
first line of which something holds is the first among the lines of the text
(`Walkthrough.Text.findSome?_lines_iff`).
-/

namespace Walkthrough.Text

/-- A stretch without line breaks, between line breaks or the ends of the text. -/
structure LineOf (text : List Char) where
  front : List Char
  line : List Char
  back : List Char
  split : text = front ++ (line ++ back)
  opens : ∀ c ∈ front.getLast?, isLineBreak c = true
  plain : ∀ c ∈ line, isLineBreak c = false
  closes : ∀ c ∈ back.head?, isLineBreak c = true

/-- The first of the lines that yield something yields the answer. -/
def IsFirst {β : Type} {text : List Char} (yields : LineOf text → Option β) (answer : β) : Prop :=
  ∃ place, yields place = some answer ∧
    ∀ other : LineOf text, other.front.length < place.front.length → yields other = none

namespace LineOf

variable {text rest : List Char}

/-- A line that holds something comes after the lines of what stands before it. -/
theorem lines_eq (place : LineOf text) (nonempty : place.line ≠ []) :
    lines text = lines place.front ++ place.line :: (lines place.back).tail := by
  have apart (_ : place.front.getLast? = some '\r') (rest : List Char) :
      place.line ++ place.back ≠ '\n' :: rest := by
    obtain ⟨c, more, same⟩ := List.exists_cons_of_ne_nil nonempty
    rw [same]
    intro joined
    obtain ⟨rfl, -⟩ := List.cons.inj joined
    exact lineFeed_notMem place.plain (by rw [same]; exact List.mem_cons_self)
  refine (congrArg lines place.split).trans ?_
  rw [lines_append place.opens apart, lines_append_of_closes nonempty place.plain place.closes]

/-- The line as it stands behind one more character. -/
def push (place : LineOf rest) (c : Char) (opens : place.front = [] → isLineBreak c = true) :
    LineOf (c :: rest) where
  front := c :: place.front
  line := place.line
  back := place.back
  split := congrArg (c :: ·) place.split
  opens := by
    intro d last
    cases before : place.front with
    | nil =>
        rw [before] at last
        cases last
        exact opens before
    | cons e more =>
        rw [before, List.getLast?_cons_cons, ← before] at last
        exact place.opens d last
  plain := place.plain
  closes := place.closes

/-- Every line that holds something stands somewhere in the text. -/
theorem exists_of_lines {early later : List (List Char)} {line : List Char}
    (cut : lines text = early ++ line :: later) (nonempty : line ≠ []) :
    ∃ place : LineOf text, place.line = line ∧ lines place.front = early := by
  have plain : ∀ c ∈ line, isLineBreak c = false :=
    isLineBreak_of_mem_lines (cut ▸ List.mem_append_right early List.mem_cons_self)
  have atFront {text : List Char} {more : List (List Char)} (cut : lines text = line :: more) :
      ∃ place : LineOf text, place.line = line ∧ lines place.front = [] := by
    obtain ⟨back, split, closes⟩ := exists_of_lines_cons cut
    exact ⟨⟨[], line, back, split, by simp, plain, closes⟩, rfl, rfl⟩
  fun_induction lines text generalizing early later with
  | case1 => simp at cut
  | case2 rest ih =>
      cases early with
      | nil => exact absurd (List.cons.inj cut).1.symm nonempty
      | cons first early =>
          obtain ⟨rfl, tail⟩ := List.cons.inj cut
          obtain ⟨place, same, rfl⟩ := ih tail
          let below := place.push '\n' fun _ => isLineBreak_lineFeed
          exact ⟨below.push '\r' (by rintro ⟨⟩), same, rfl⟩
  | case3 c rest single breaks ih =>
      cases early with
      | nil => exact absurd (List.cons.inj cut).1.symm nonempty
      | cons first early =>
          obtain ⟨rfl, tail⟩ := List.cons.inj cut
          obtain ⟨place, same, rfl⟩ := ih tail
          refine ⟨place.push c fun _ => breaks, same, lines_cons_of_break breaks ?_⟩
          intro same more before
          refine single (more ++ (place.line ++ place.back)) same ?_
          rw [← List.cons_append, ← before]
          exact place.split
  | case4 c rest _ solid none _ =>
      have whole : lines (c :: rest) = [[c]] := by
        rw [lines_cons_of_plain (by simpa using solid), none]
        rfl
      obtain ⟨rfl, same⟩ | ⟨_, rfl, gone⟩ := List.cons_eq_append_iff.mp cut
      · obtain ⟨rfl, rfl⟩ := List.cons.inj same
        exact atFront whole
      · simp at gone
  | case5 c rest _ solid first more found ih =>
      have whole : lines (c :: rest) = (c :: first) :: more := by
        rw [lines_cons_of_plain (by simpa using solid), found]
        rfl
      cases early with
      | nil =>
          rw [List.nil_append] at cut
          exact atFront (whole.trans cut)
      | cons other early =>
          obtain ⟨rfl, tail⟩ := List.cons.inj cut
          obtain ⟨place, same, front⟩ := ih
            (show lines rest = (first :: early) ++ line :: later by rw [found, tail]; rfl)
          refine ⟨place.push c fun before => ?_, same, ?_⟩
          · rw [before] at front
            cases front
          · exact (lines_cons_of_plain (by simpa using solid) _).trans (by rw [front]; rfl)

/-- A line before another one stands in what stands before that one. -/
theorem exists_within (place other : LineOf text)
    (early : other.front.length < place.front.length) :
    ∃ inner : LineOf place.front, inner.front = other.front ∧ inner.line = other.line := by
  have joined := place.split.symm.trans other.split
  obtain ⟨between, before, after⟩ : ∃ between, place.front = other.front ++ between ∧
      other.line ++ other.back = between ++ (place.line ++ place.back) := by
    rcases List.append_eq_append_iff.mp joined with ⟨more, longer, -⟩ | ⟨more, longer, same⟩
    · rw [longer, List.length_append] at early
      omega
    · exact ⟨more, longer, same⟩
  have nonempty : between ≠ [] := by
    rintro rfl
    rw [before, List.append_nil] at early
    exact lt_irrefl _ early
  obtain ⟨c, last⟩ : ∃ c, c ∈ between.getLast? :=
    ⟨_, List.getLast?_eq_some_getLast nonempty⟩
  have breaks : isLineBreak c = true := by
    refine place.opens c ?_
    rw [before, List.getLast?_append_of_ne_nil _ nonempty]
    exact last
  -- The line ends before the break in front of the other line.
  have outside : c ∉ other.line := fun inside => by
    rw [other.plain c inside] at breaks
    cases breaks
  rcases List.append_eq_append_iff.mp after with ⟨mid, same, rest⟩ | ⟨more, same, -⟩
  · have some : mid ≠ [] := by
      rintro rfl
      rw [same, List.append_nil] at last
      exact outside (List.mem_of_getLast? last)
    refine ⟨⟨other.front, other.line, mid, by rw [before, same], other.opens, other.plain, ?_⟩,
      rfl, rfl⟩
    intro d first
    refine other.closes d ?_
    rw [rest, List.head?_append_of_ne_nil _ some]
    exact first
  · exact absurd (by rw [same]; exact List.mem_append_left _ (List.mem_of_getLast? last)) outside

/-- A line in what stands before another one is a line of the whole text. -/
theorem exists_outside (place : LineOf text) (inner : LineOf place.front)
    (nonempty : inner.line ≠ []) :
    ∃ outer : LineOf text, outer.line = inner.line ∧
      outer.front.length < place.front.length := by
  refine ⟨⟨inner.front, inner.line, inner.back ++ (place.line ++ place.back), ?_, inner.opens,
    inner.plain, ?_⟩, rfl, ?_⟩
  · rw [← List.append_assoc, ← List.append_assoc, List.append_assoc inner.front, ← inner.split]
    exact place.split
  · cases rest : inner.back with
    | cons c more =>
        rintro _ ⟨⟩
        exact inner.closes c (by rw [rest]; rfl)
    | nil =>
        -- The line would end with the break in front of the other one.
        have last := List.getLast?_eq_some_getLast nonempty
        have breaks := place.opens _ <| by
          rw [inner.split, rest, List.append_nil, List.getLast?_append_of_ne_nil _ nonempty]
          exact last
        rw [inner.plain _ (List.getLast_mem nonempty)] at breaks
        cases breaks
  · have length := congrArg List.length inner.split
    have positive := List.length_pos_of_ne_nil nonempty
    simp only [List.length_append] at length ⊢
    omega

/-- Only one line stands behind a stretch of the text. -/
theorem eq_of_length (place other : LineOf text)
    (same : place.front.length = other.front.length) : place = other := by
  obtain ⟨front, line, back, split, _, plain, closes⟩ := place
  obtain ⟨otherFront, otherLine, otherBack, otherSplit, _, otherPlain, otherCloses⟩ := other
  obtain ⟨rfl, joined⟩ := List.append_inj (split.symm.trans otherSplit) same
  -- What one line had more than the other would begin with a line break.
  have equal {first second more back : List Char} (longer : first = second ++ more)
      (plain : ∀ c ∈ first, isLineBreak c = false)
      (closes : ∀ c ∈ (more ++ back).head?, isLineBreak c = true) : more = [] := by
    cases more with
    | nil => rfl
    | cons c rest =>
        have breaks := closes c rfl
        rw [plain c (by rw [longer]; simp)] at breaks
        cases breaks
  rcases List.append_eq_append_iff.mp joined with ⟨more, longer, rfl⟩ | ⟨more, longer, rfl⟩
  · obtain rfl := equal longer otherPlain closes
    rw [List.append_nil] at longer
    subst longer
    rfl
  · obtain rfl := equal longer plain otherCloses
    rw [List.append_nil] at longer
    subst longer
    rfl

end LineOf

section First

variable {β : Type} {text : List Char} {answer other : β} {yields : LineOf text → Option β}

/-- There is one first answer at most. -/
theorem IsFirst.unique (first : IsFirst yields answer) (second : IsFirst yields other) :
    answer = other := by
  obtain ⟨place, found, before⟩ := first
  obtain ⟨otherPlace, otherFound, otherBefore⟩ := second
  rcases Nat.lt_trichotomy place.front.length otherPlace.front.length with early | same | late
  · rw [otherBefore place early] at found
    cases found
  · rw [place.eq_of_length otherPlace same, otherFound] at found
    exact (Option.some.inj found).symm
  · rw [before otherPlace late] at otherFound
    cases otherFound

/-- Where a line yields something, there is a first one. -/
theorem exists_isFirst (place : LineOf text) (found : (yields place).isSome = true) :
    ∃ answer, IsFirst yields answer := by
  induction length : place.front.length using Nat.strong_induction_on generalizing place with
  | _ n ih =>
      by_cases sooner : ∃ other : LineOf text, other.front.length < n ∧ (yields other).isSome = true
      · obtain ⟨other, early, found⟩ := sooner
        exact ih _ early other found rfl
      · obtain ⟨answer, found⟩ := Option.isSome_iff_exists.mp found
        refine ⟨answer, place, found, fun other early => ?_⟩
        rw [← Option.not_isSome_iff_eq_none]
        exact fun some => sooner ⟨other, length ▸ early, some⟩

/-- **The first of the lines that something is found in is the first one where it stands.** -/
theorem findSome?_lines_iff {f : List Char → Option β} (empty : f [] = none) :
    (lines text).findSome? f = some answer ↔
      IsFirst (fun place : LineOf text => f place.line) answer := by
  have nonempty {line : List Char} (found : f line ≠ none) : line ≠ [] := by
    rintro rfl
    exact found empty
  rw [List.findSome?_eq_some_iff]
  constructor
  · rintro ⟨early, line, later, cut, found, before⟩
    obtain ⟨place, rfl, rfl⟩ := LineOf.exists_of_lines cut (nonempty (by simp [found]))
    refine ⟨place, found, fun other sooner => ?_⟩
    by_contra stated
    obtain ⟨inner, -, same⟩ := place.exists_within other sooner
    change f other.line ≠ none at stated
    rw [← same] at stated
    refine stated (before inner.line ?_)
    rw [inner.lines_eq (nonempty stated)]
    exact List.mem_append_right _ List.mem_cons_self
  · rintro ⟨place, found, before⟩
    refine ⟨_, _, _, place.lines_eq (nonempty (by simp [found])), found, fun line member => ?_⟩
    by_contra stated
    obtain ⟨early, later, cut⟩ := List.append_of_mem member
    obtain ⟨inner, rfl, -⟩ := LineOf.exists_of_lines cut (nonempty stated)
    obtain ⟨outer, same, sooner⟩ := place.exists_outside inner (nonempty stated)
    exact stated (same ▸ before outer sooner)

end First

end Walkthrough.Text
