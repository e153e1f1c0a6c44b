import Walkthrough.Text.Letters

/-!
# Patterns

A small language of text patterns with an order of preference among the ways to match: an option is
taken before it is left out, a greedy run is tried from its longest, a lazy run from its shortest,
and of two alternatives the first goes first. `Pattern.run` finds the preferred way that the rest of
the match agrees to; `Pattern.search` finds the leftmost place that has one.
-/

namespace Walkthrough.Text

/-- What a stretch of text may look like. -/
inductive Pattern where
  /-- Nothing at all. -/
  | empty
  /-- One character of a class. -/
  | one (accepts : Char → Bool)
  /-- Any number of characters of a class, as many as possible. -/
  | many (accepts : Char → Bool)
  /-- Any number of characters of a class, as few as possible. -/
  | few (accepts : Char → Bool)
  /-- One pattern after the other. -/
  | seq (first second : Pattern)
  /-- Either pattern, preferably the first. -/
  | either (first second : Pattern)
  /-- A pattern whose text is kept. -/
  | keep (inner : Pattern)

namespace Pattern

/-- The pattern or nothing, preferably the pattern. -/
def optional (pattern : Pattern) : Pattern :=
  either pattern empty

/-- One or more characters of a class, as many as possible. -/
def oneOrMore (accepts : Char → Bool) : Pattern :=
  seq (one accepts) (many accepts)

/-- Exactly the characters of `text`. -/
def exactly (text : List Char) : Pattern :=
  text.foldr (fun c rest => seq (one (· == c)) rest) empty

/-- The characters of `text`, letters in either case. -/
def letters (text : List Char) : Pattern :=
  text.foldr (fun c rest => seq (one (sameLetter c)) rest) empty

/-- A word of the language of prompts, letters in either case. -/
def word (text : String) : Pattern :=
  letters text.toList

/-- The patterns one after the other. -/
def all (patterns : List Pattern) : Pattern :=
  patterns.foldr seq empty

/-- The first of the patterns that matches. -/
def anyOf : List Pattern → Pattern
  | [] => one fun _ => false
  | [pattern] => pattern
  | pattern :: more => either pattern (anyOf more)

variable {β : Type}

/-- Takes as many characters of a class as `next` agrees to. -/
def runMany (accepts : Char → Bool) (next : List Char → Option β) : List Char → Option β
  | [] => next []
  | c :: rest =>
    if accepts c then
      match runMany accepts next rest with
      | some found => some found
      | none => next (c :: rest)
    else next (c :: rest)

/-- Takes as few characters of a class as `next` agrees to. -/
def runFew (accepts : Char → Bool) (next : List Char → Option β) : List Char → Option β
  | [] => next []
  | c :: rest =>
    match next (c :: rest) with
    | some found => some found
    | none => if accepts c then runFew accepts next rest else none

/-- Matches at the start of `s` in the preferred way for which `next` has a result; `next` is given
the kept texts so far and the rest of the text. -/
def run : Pattern → (List (List Char) → List Char → Option β) →
    List (List Char) → List Char → Option β
  | empty, next, kept, s => next kept s
  | one accepts, next, kept, s =>
    match s with
    | [] => none
    | c :: rest => if accepts c then next kept rest else none
  | many accepts, next, kept, s => runMany accepts (next kept) s
  | few accepts, next, kept, s => runFew accepts (next kept) s
  | seq first second, next, kept, s => first.run (second.run next) kept s
  | either first second, next, kept, s =>
    match first.run next kept s with
    | some found => some found
    | none => second.run next kept s
  | keep inner, next, kept, s =>
    inner.run (fun more rest => next (more ++ [s.take (s.length - rest.length)]) rest) kept s

/-- The kept texts and the rest after the preferred match at the start of `s`. -/
def front? (pattern : Pattern) (s : List Char) : Option (List (List Char) × List Char) :=
  pattern.run (fun kept rest => some (kept, rest)) [] s

/-- The kept texts of the leftmost match in `s`. -/
def search (pattern : Pattern) : List Char → Option (List (List Char))
  | [] => (pattern.front? []).map (·.1)
  | c :: rest =>
    match pattern.front? (c :: rest) with
    | some (kept, _) => some kept
    | none => pattern.search rest

/-- A text cut at its matches: characters between them, and the kept texts of each match. -/
inductive Piece where
  | char (c : Char)
  | found (kept : List (List Char))

/-- Cuts `s` at its leftmost matches that do not overlap, after passing over `skipped` characters
that belong to the match before. A match of no characters is passed over. -/
def cut (pattern : Pattern) : List Char → Nat → List Piece
  | [], _ => []
  | _ :: rest, skipped + 1 => pattern.cut rest skipped
  | c :: rest, 0 =>
    match pattern.front? (c :: rest) with
    | some (kept, after) =>
      if after.length ≤ rest.length then
        .found kept :: pattern.cut rest (rest.length - after.length)
      else .char c :: pattern.cut rest 0
    | none => .char c :: pattern.cut rest 0

/-- The pieces of `s`. -/
def pieces (pattern : Pattern) (s : List Char) : List Piece :=
  pattern.cut s 0

/-- The kept texts of the matches in `s`, from left to right. -/
def findAll (pattern : Pattern) (s : List Char) : List (List (List Char)) :=
  (pattern.pieces s).filterMap fun
    | .char _ => none
    | .found kept => some kept

/-- `s` with every match replaced by `replacement`. -/
def replaceAll (pattern : Pattern) (replacement : List Char) (s : List Char) : List Char :=
  (pattern.pieces s).flatMap fun
    | .char c => [c]
    | .found _ => replacement

/-- The first kept text of the leftmost match in `text`. -/
def keep? (pattern : Pattern) (text : String) : Option String :=
  (pattern.search text.toList).bind fun kept => kept.head?.map String.ofList

/-- Whether `text` has a match. -/
def occursIn (pattern : Pattern) (text : String) : Bool :=
  (pattern.search text.toList).isSome

end Pattern

end Walkthrough.Text
