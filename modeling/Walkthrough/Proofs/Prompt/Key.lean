import Mathlib.Data.List.Infix
import Walkthrough.Proofs.Text.Reading

/-!
# Keys and the values behind them

A key such as `HTTP Method:` has a word or several, with blanks between them and in front of the
value. Blanks reach across lines, so a text that ends with a key, or with a part of it, takes the
value from the text that follows. A text that does not end with a blank yields, in front of another
one, what it states itself, or what it carries over, or else what the other one yields
(`Walkthrough.Key.leftmost_append`).
-/

namespace Walkthrough

open Text Text.Pattern

/-- What is read behind a word of a key: its other words with blanks before them, and the value
behind blanks. -/
def valueAfter? (accepts : Char → Bool) : List (List Char) → List Char → Option (List Char)
  | [], s => stretch? accepts (s.dropWhile isBlank)
  | word :: more, s =>
    if s.head?.any isBlank then
      (spelled? word (s.dropWhile isBlank)).bind (valueAfter? accepts more)
    else none

/-- The words of a key that are left where a text is over behind one of them. -/
def pending? : List (List Char) → List Char → Option (List (List Char))
  | more, [] => some more
  | [], _ :: _ => none
  | word :: more, c :: rest =>
    if isBlank c then (spelled? word (rest.dropWhile isBlank)).bind (pending? more) else none

/-- One way to spell a key: its first word, and the other ones. -/
structure Key.Spelling where
  first : List Char
  more : List (List Char)
  deriving DecidableEq

namespace Key.Spelling

/-- The value of a text that begins with the key. -/
def value? (spelling : Key.Spelling) (accepts : Char → Bool) (s : List Char) : Option (List Char) :=
  (spelled? spelling.first s).bind (valueAfter? accepts spelling.more)

/-- The words that are left where a text is nothing but the key, or a part of it from its front. -/
def left? (spelling : Key.Spelling) (s : List Char) : Option (List (List Char)) :=
  (spelled? spelling.first s).bind (pending? spelling.more)

end Key.Spelling

/-- A key, by all ways to spell it, and the characters of its value. -/
structure Key where
  spellings : List Key.Spelling
  accepts : Char → Bool
  solid : ∀ c, accepts c = true → isBlank c = false
  firsts : ∀ spelling ∈ spellings, spelling.first ≠ [] ∧ isBlankless spelling.first = true
  words : ∀ spelling ∈ spellings, ∀ word ∈ spelling.more, word ≠ [] ∧ isBlankless word = true
  /-- No key begins inside of another one. -/
  apart : ∀ spelling ∈ spellings, ∀ other ∈ spellings,
    (∀ part ∈ spelling.first.tails, spelled? other.first part = none ∨
      part = spelling.first ∧ other = spelling) ∧
    ∀ word ∈ spelling.more, ∀ part ∈ word.tails, spelled? other.first part = none

section Ends

variable {accepts : Char → Bool} {s t rest : List Char} {more left : List (List Char)}

/-- Behind a word, a value is read in the first text, or in the other one if the first is over in
the middle of the key. -/
theorem valueAfter?_append (refused : accepts '\n' = false)
    (blankless : ∀ word ∈ more, isBlankless word = true) (ends : EndsSolid s) (t : List Char) :
    valueAfter? accepts more (s ++ '\n' :: t) =
      (valueAfter? accepts more s).or
        ((pending? more s).bind fun left => valueAfter? accepts left ('\n' :: t)) := by
  induction more generalizing s with
  | nil =>
      cases s with
      | nil => rfl
      | cons c rest =>
          rw [valueAfter?, ends.dropWhile_append (List.cons_ne_nil c rest),
            stretch?_append_cons refused, valueAfter?, pending?, Option.bind_none, Option.or_none]
  | cons word more ih =>
      cases s with
      | nil => rfl
      | cons c rest =>
          rw [valueAfter?, valueAfter?, pending?, List.cons_append, List.head?_cons,
            Option.any_some, List.head?_cons, Option.any_some]
          split
          · next blank =>
              obtain ⟨here, others⟩ := List.forall_mem_cons.mp blankless
              rw [← List.cons_append, ends.dropWhile_append (List.cons_ne_nil c rest),
                spelled?_append_cons here (by decide), List.dropWhile_cons_of_pos blank]
              cases found : spelled? word (rest.dropWhile isBlank) with
              | none => rfl
              | some after =>
                  have late : after <:+ c :: rest :=
                    (isSuffix_of_spelled? found).trans
                      ((List.dropWhile_suffix isBlank).trans (List.suffix_cons c rest))
                  exact ih others (ends.of_suffix late)
          · rfl

/-- A text that is over in the middle of a key holds no value behind it. -/
theorem valueAfter?_of_pending? (ended : pending? more s = some left) :
    valueAfter? accepts more s = none := by
  induction more generalizing s with
  | nil =>
      cases s with
      | nil => rfl
      | cons c rest => cases ended
  | cons word more ih =>
      cases s with
      | nil => rfl
      | cons c rest =>
          rw [pending?] at ended
          rw [valueAfter?, List.head?_cons, Option.any_some]
          split at ended
          · next blank =>
              obtain ⟨after, found, ended⟩ := Option.bind_eq_some_iff.mp ended
              rw [if_pos blank, List.dropWhile_cons_of_pos blank, found, Option.bind_some, ih ended]
          · cases ended

/-- Such a text begins with a blank, if it holds anything. -/
theorem isBlank_of_pending? (ended : pending? more s = some left) :
    ∀ c ∈ s.head?, isBlank c = true := by
  rintro c first
  obtain ⟨rest, rfl⟩ := List.head?_eq_some_iff.mp first
  cases more with
  | nil => cases ended
  | cons word more =>
      rw [pending?] at ended
      split at ended
      · assumption
      · cases ended

end Ends

namespace Key

variable {key : Key} {spelling other : Key.Spelling} {s t rest : List Char}
  {more left : List (List Char)}

/-- The value of a text that begins with the key. -/
def read? (key : Key) (s : List Char) : Option (List Char) :=
  key.spellings.findSome? (·.value? key.accepts s)

/-- The value that a text which is the key, or a part of it, takes from the text that follows. -/
def carry? (key : Key) (later s : List Char) : Option (List Char) :=
  key.spellings.findSome? fun spelling =>
    (spelling.left? s).bind fun left => valueAfter? key.accepts left ('
' :: later)

theorem refuses_of_isBlank (key : Key) {c : Char} (blank : isBlank c = true) :
    key.accepts c = false :=
  Bool.eq_false_iff.mpr fun accepted => by
    rw [key.solid c accepted] at blank
    cases blank

/-- A key does not begin with a blank, and not where nothing is left. -/
theorem spelled?_first (among : spelling ∈ key.spellings)
    (blank : ∀ c ∈ s.head?, isBlank c = true) : spelled? spelling.first s = none := by
  obtain ⟨some, blankless⟩ := key.firsts spelling among
  obtain ⟨letter, word, same⟩ := List.exists_cons_of_ne_nil some
  rw [same] at blankless ⊢
  cases s with
  | nil => rfl
  | cons c rest => exact spelled?_cons_of_blank blankless (blank c rfl) rest

theorem read?_eq_none (blank : ∀ c ∈ s.head?, isBlank c = true) : key.read? s = none :=
  List.findSome?_eq_none_iff.mpr fun _ among => by
    rw [Spelling.value?, spelled?_first among blank, Option.bind_none]

theorem carry?_nil (key : Key) (later : List Char) : key.carry? later [] = none :=
  List.findSome?_eq_none_iff.mpr fun _ among => by
    rw [Spelling.left?, spelled?_first among (by simp), Option.bind_none, Option.bind_none]

section Inside

/-- Behind the first word of a key, another one does not begin as long as the key lasts. -/
theorem spelled?_of_pending? (among : other ∈ key.spellings)
    (words : ∀ word ∈ more, isBlankless word = true ∧
      ∀ part ∈ word.tails, spelled? other.first part = none)
    (ended : pending? more s = some left) (late : t <:+ s) : spelled? other.first t = none := by
  induction more generalizing s t with
  | nil =>
      cases s with
      | nil =>
          obtain rfl := List.suffix_nil.mp late
          exact spelled?_first among (by simp)
      | cons c rest => cases ended
  | cons word more ih =>
      cases s with
      | nil =>
          obtain rfl := List.suffix_nil.mp late
          exact spelled?_first among (by simp)
      | cons c rest =>
          obtain ⟨⟨blankless, apart⟩, others⟩ := List.forall_mem_cons.mp words
          rw [pending?] at ended
          split at ended
          · next blank =>
              obtain ⟨after, found, ended⟩ := Option.bind_eq_some_iff.mp ended
              rcases head?_or_suffix_dropWhile isBlank late with ⟨d, first, blank⟩ | behind
              · refine spelled?_first among fun e same => ?_
                rwa [Option.mem_unique same first]
              · rw [List.dropWhile_cons_of_pos blank] at behind
                rcases suffix_cases_of_spelled? found behind with behind | ⟨part, inside, spelled⟩
                · exact ih others ended behind
                · exact spelled?_eq_none_of_spelled? (apart part ((List.mem_tails ..).mpr inside))
                    (key.firsts other among).2 spelled (isBlank_of_pending? ended)
          · cases ended

/-- Where a text is a key or a part of it, no value is read in it. -/
theorem read?_of_left? (among : spelling ∈ key.spellings) (ended : spelling.left? s = some left)
    (late : t <:+ s) : key.read? t = none := by
  obtain ⟨rest, found, ended⟩ := Option.bind_eq_some_iff.mp ended
  refine List.findSome?_eq_none_iff.mpr fun other amongOther => ?_
  obtain ⟨first, words⟩ := key.apart spelling among other amongOther
  rw [Spelling.value?]
  rcases suffix_cases_of_spelled? found late with behind | ⟨part, inside, spelled⟩
  · have blankless (word) (member : word ∈ spelling.more) :=
      (key.words spelling among word member).2
    rw [spelled?_of_pending? amongOther
      (fun word member => ⟨blankless word member, words word member⟩) ended behind,
      Option.bind_none]
  · rcases first part ((List.mem_tails ..).mpr inside) with apart | ⟨rfl, rfl⟩
    · rw [spelled?_eq_none_of_spelled? apart (key.firsts other amongOther).2 spelled
        (isBlank_of_pending? ended), Option.bind_none]
    · rw [spelled, Option.bind_some, valueAfter?_of_pending? ended]

end Inside

section Append

/-- A text before a line feed yields what it says, or what it takes from behind the line feed. -/
theorem value?_append (among : spelling ∈ key.spellings) (ends : EndsSolid s) (t : List Char) :
    spelling.value? key.accepts (s ++ '
' :: t) = (spelling.value? key.accepts s).or
      ((spelling.left? s).bind fun left => valueAfter? key.accepts left ('
' :: t)) := by
  rw [Spelling.value?, spelled?_append_cons (key.firsts spelling among).2 (by decide),
    Spelling.value?, Spelling.left?]
  cases found : spelled? spelling.first s with
  | none => rfl
  | some rest =>
      exact valueAfter?_append (key.refuses_of_isBlank (by decide))
        (fun word member => (key.words spelling among word member).2)
        (ends.of_suffix (isSuffix_of_spelled? found)) t

/-- **A field of two texts is that of the first one, or else what the first one carries over, or
else that of the second.** -/
theorem leftmost_append (ends : EndsSolid s) (t : List Char) :
    leftmost key.read? (s ++ '
' :: t) =
      (leftmost key.read? s).or ((leftmost (key.carry? t) s).or (leftmost key.read? t)) := by
  induction s with
  | nil =>
      have lineFeed : key.read? ('
' :: t) = none := read?_eq_none (by rintro _ ⟨⟩; decide)
      have nothing : key.read? [] = none := read?_eq_none (by simp)
      simp only [List.nil_append, leftmost, lineFeed, nothing, carry?_nil, Option.none_or]
  | cons c rest ih =>
      have late : rest <:+ c :: rest := List.suffix_cons c rest
      rw [List.cons_append, leftmost, ← List.cons_append, ih (ends.of_suffix late)]
      by_cases whole : ∀ spelling ∈ key.spellings, spelling.left? (c :: rest) = none
      · have same : key.read? (c :: rest ++ '
' :: t) = key.read? (c :: rest) :=
          findSome?_congr fun spelling among => by
            rw [value?_append among ends, whole spelling among, Option.bind_none, Option.or_none]
        have nothing : key.carry? t (c :: rest) = none :=
          List.findSome?_eq_none_iff.mpr fun spelling among => by
            rw [whole spelling among, Option.bind_none]
        rw [same, leftmost, leftmost, nothing, Option.none_or, Option.or_assoc]
      · -- Where the text is the key or a part of it, nothing in it yields the field.
        simp only [not_forall] at whole
        obtain ⟨spelling, among, some⟩ := whole
        obtain ⟨left, ended⟩ := Option.ne_none_iff_exists'.mp some
        have silent {t : List Char} (late : t <:+ c :: rest) : key.read? t = none :=
          read?_of_left? among ended late
        have same : key.read? (c :: rest ++ '
' :: t) = key.carry? t (c :: rest) :=
          findSome?_congr fun spelling among => by
            have nothing := List.findSome?_eq_none_iff.mp (silent (List.suffix_refl _))
            rw [value?_append among ends, nothing spelling among, Option.none_or]
        rw [same, leftmost_eq_none fun _ => silent,
          leftmost_eq_none fun _ inside => silent (inside.trans late), Option.none_or,
          Option.none_or, leftmost, Option.or_assoc]

end Append

section Patterns

variable {accepts : Char → Bool} {pattern : Pattern}

/-- The patterns for what stands behind a word of a key. -/
def patternsAfter (accepts : Char → Bool) (more : List (List Char)) : List Pattern :=
  more.flatMap (fun word => [oneOrMore isBlank, letters word]) ++
    [many isBlank, keep (oneOrMore accepts)]

/-- What is kept behind a word of a key is what is read there. -/
theorem run_patternsAfter (solid : ∀ c, accepts c = true → isBlank c = false)
    (words : ∀ word ∈ more, word ≠ [] ∧ isBlankless word = true) (kept : List (List Char))
    (s : List Char) :
    (all (patternsAfter accepts more)).run (fun kept _ => some kept) kept s =
      (valueAfter? accepts more s).map fun value => kept ++ [value] := by
  induction more generalizing s with
  | nil =>
      have refuses (c : Char) (rest : List Char) (blank : isBlank c = true) :
          Refuses (all [keep (oneOrMore accepts)]) (c :: rest) := by
        have refused : accepts c = false := Bool.eq_false_iff.mpr fun accepted => by
          rw [solid c accepted] at blank
          cases blank
        have first : Refuses (oneOrMore accepts) (c :: rest) :=
          refuses_seq (refuses_one (by rintro _ ⟨⟩; exact refused)) _
        intro β next kept
        exact first _ kept
      rw [valueAfter?, ← run_stretch]
      exact run_blanks refuses _ _ _
  | cons word more ih =>
      obtain ⟨⟨some, blankless⟩, others⟩ := List.forall_mem_cons.mp words
      have refuses (c : Char) (rest : List Char) (blank : isBlank c = true) :
          Refuses (seq (letters word) (all (patternsAfter accepts more))) (c :: rest) := by
        obtain ⟨letter, others, rfl⟩ := List.exists_cons_of_ne_nil some
        refine refuses_seq (fun next kept => ?_) _
        rw [run_letters, spelled?_cons_of_blank blankless blank, Option.bind_none]
      change (seq (oneOrMore isBlank) (seq (letters word) (all (patternsAfter accepts more)))).run
        _ _ _ = _
      rw [run_gap refuses, run, run_letters, valueAfter?]
      split
      · rw [Option.map_bind]
        congr 1
        funext rest
        exact ih others rest
      · rfl

theorem run_spelling (among : spelling ∈ key.spellings) (kept : List (List Char)) (s : List Char) :
    (all (letters spelling.first :: patternsAfter key.accepts spelling.more)).run
        (fun kept _ => some kept) kept s =
      (spelling.value? key.accepts s).map fun value => kept ++ [value] := by
  change (letters spelling.first).run _ kept s = _
  rw [run_letters, Spelling.value?, Option.map_bind]
  congr 1
  funext rest
  exact run_patternsAfter key.solid (key.words spelling among) kept rest

/-- A pattern that keeps what a key reads. -/
structure IsRead (key : Key) (pattern : Pattern) : Prop where
  run : ∀ s, pattern.run (fun kept _ => some kept) [] s = (key.read? s).map fun value => [value]

/-- A key with one spelling. -/
theorem isRead_of_spelling (key : Key) (spelling : Key.Spelling)
    (only : key.spellings = [spelling]) :
    key.IsRead (all (letters spelling.first :: patternsAfter key.accepts spelling.more)) := by
  constructor
  intro s
  rw [run_spelling (by simp [only]), read?, only, List.findSome?_cons, List.findSome?_nil]
  cases spelling.value? key.accepts s with
  | none => rfl
  | some value => rfl

/-- A key with two spellings, of which the first is preferred. -/
theorem isRead_of_spellings (key : Key) (spelling other : Key.Spelling)
    (both : key.spellings = [spelling, other]) :
    key.IsRead (either (all (letters spelling.first :: patternsAfter key.accepts spelling.more))
      (all (letters other.first :: patternsAfter key.accepts other.more))) := by
  constructor
  intro s
  rw [Pattern.run, run_spelling (by simp [both]), run_spelling (by simp [both]), read?, both,
    List.findSome?_cons, List.findSome?_cons, List.findSome?_nil]
  cases spelling.value? key.accepts s with
  | some value => rfl
  | none =>
      cases other.value? key.accepts s with
      | some value => rfl
      | none => rfl

theorem IsRead.keep? (reads : key.IsRead pattern) (text : String) :
    pattern.keep? text = (leftmost key.read? text.toList).map String.ofList := by
  rw [Pattern.keep?, search_eq_leftmost, funext reads.run, ← map_leftmost, Option.bind_map]
  cases leftmost key.read? text.toList with
  | none => rfl
  | some value => rfl

end Patterns

end Key

end Walkthrough
