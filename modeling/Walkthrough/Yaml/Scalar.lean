import Walkthrough.Yaml.Cursor

/-!
# The text of scalars

A scalar is written plainly, in quotes, or as a block of lines. However it is written, its text is
what remains after lines are folded: one line break becomes a blank, and each further one a break.
-/

namespace Walkthrough.Yaml

/-- The text for a line break followed by `more` breaks. -/
def foldLines (first : Char) (more : List Char) : List Char :=
  if breakChar first != '\n' then first :: more
  else if more.isEmpty then [' '] else more

/-! ### Plain scalars -/

/-- Whether a plain scalar goes on with `c` before `next`. -/
def goesOn (inFlow : Bool) (c : Char) (next : Option Char) : Bool :=
  !isGap (some c) &&
    !(c == ':' && (isGap next || (inFlow && next.any isFlowMark))) &&
    !(inFlow && (c == '?' || isFlowMark c))

/-- The part of a plain scalar up to a gap or a mark, and the rest. -/
def plainWord (inFlow : Bool) : List Char → List Char × List Char
  | [] => ([], [])
  | c :: rest =>
    if goesOn inFlow c rest.head? then
      let (word, after) := plainWord inFlow rest
      (c :: word, after)
    else ([], c :: rest)

/-- The breaks from the start of a line on, blanks between them passed over, and how many characters
that are; there are no breaks if a document starts or ends there. -/
def plainBreaks : List Char → Option (List Char) × Nat
  | [] => (some [], 0)
  | c :: rest =>
    if c == ' ' then
      let (more, length) := plainBreaks rest
      (more, length + 1)
    else if isBreak c then
      if startsDocument rest then (none, 1)
      else
        let (more, length) := plainBreaks rest
        (more.map (breakChar c :: ·), length + 1)
    else (some [], 0)

/-- What follows a word of a plain scalar. -/
structure PlainGap where
  /-- The text that stands for the gap, if the scalar may go on. -/
  text : Option (List Char)
  /-- Whether a line ends in the gap. -/
  breaks : Bool
  /-- The count of characters in the gap. -/
  length : Nat

/-- The gap at the start of a text. -/
def plainGap (s : List Char) : PlainGap :=
  let blanks := s.takeWhile (· == ' ')
  match s.drop blanks.length with
  | c :: rest =>
    if isBreak c then
      if startsDocument rest then ⟨none, true, blanks.length + 1⟩
      else
        let (more, length) := plainBreaks rest
        ⟨more.map (foldLines c), true, blanks.length + 1 + length⟩
    else ⟨if blanks.isEmpty then none else some blanks, false, blanks.length⟩
  | [] => ⟨if blanks.isEmpty then none else some blanks, false, blanks.length⟩

/-- The rest of a plain scalar after its first words and the gap behind them: its text, where it
ends, and whether a line ends just before. -/
def plainFrom (inFlow : Bool) (indent : Int) :
    (fuel : Nat) → (text gap : List Char) → (broken : Bool) → Cursor → List Char × Cursor × Bool
  | 0, text, _, broken, cursor => (text, cursor, broken)
  | fuel + 1, text, gap, broken, cursor =>
    let (word, after) := plainWord inFlow cursor.rest
    if word.isEmpty || cursor.next? == some '#' then (text, cursor, broken)
    else
      let text := text ++ gap ++ word
      let behind := plainGap after
      let cursor := cursor.skip (word.length + behind.length)
      match behind.text with
      | none => (text, cursor, behind.breaks)
      | some gap =>
        if !inFlow && (cursor.column : Int) < indent then (text, cursor, behind.breaks)
        else plainFrom inFlow indent fuel text gap behind.breaks cursor

/-- The plain scalar at a place; `fuel` bounds the count of its words. -/
def scanPlain (inFlow : Bool) (indent : Int) (fuel : Nat) (cursor : Cursor) :
    List Char × Cursor × Bool :=
  plainFrom inFlow indent fuel [] [] false cursor

/-! ### Scalars in quotes -/

/-- The characters that an escape of one letter stands for. -/
def escapes : List (Char × Char) :=
  [('0', '\x00'), ('a', '\x07'), ('b', '\x08'), ('t', '\t'), ('\t', '\t'), ('n', '\n'),
    ('v', '\x0b'), ('f', '\x0c'), ('r', '\r'), ('e', '\x1b'), (' ', ' '), ('"', '"'),
    ('\\', '\\'), ('/', '/'), ('N', '\x85'), ('_', '\xa0'), ('L', '\u2028'), ('P', '\u2029')]

/-- How many hexadecimal digits follow the letter of an escape. -/
def hexLength? (c : Char) : Option Nat :=
  if c == 'x' then some 2 else if c == 'u' then some 4 else if c == 'U' then some 8 else none

/-- The value of a hexadecimal digit. -/
def hexValue? (c : Char) : Option Nat :=
  if c.isDigit then some (c.toNat - '0'.toNat)
  else if 'a' ≤ c && c ≤ 'f' then some (c.toNat - 'a'.toNat + 10)
  else if 'A' ≤ c && c ≤ 'F' then some (c.toNat - 'A'.toNat + 10)
  else none

/-- The value of hexadecimal digits. -/
def hexNumber? (digits : List Char) : Option Nat :=
  digits.foldlM (fun n c => (hexValue? c).map (16 * n + ·)) 0

/-- The code of an escape with so many digits; one of half a character is not joined with a half
behind it. -/
def hexEscape (length : Nat) (s : List Char) : Except YamlFault Nat :=
  let digits := s.take length
  match hexNumber? digits with
  | none => .error .malformed
  | some code =>
    if digits.length < length then .error .cutOff
    else if 0x80000000 ≤ code then .error .noCode
    else if 0x110000 ≤ code then .error .noCharacter
    else .ok code

/-- The breaks in a quoted scalar, blanks between them passed over, and how many characters that
are. No document may start or end there. -/
def quotedBreaks (atStart : Bool) : List Char → Except YamlFault (List Char × Nat)
  | [] => .ok ([], 0)
  | c :: rest =>
    if atStart && startsDocument (c :: rest) then .error .malformed
    else if c == ' ' || c == '\t' then
      (quotedBreaks false rest).map fun (more, length) => (more, length + 1)
    else if isBreak c then
      (quotedBreaks true rest).map fun (more, length) => (breakChar c :: more, length + 1)
    else .ok ([], 0)

/-- The codes of a quoted scalar up to its closing quote, and how many characters it takes;
`before`, the latest first, and `used` are those so far. -/
def quotedFrom (quote : Char) : (fuel : Nat) → (before : List Nat) → (used : Nat) → List Char →
    Except YamlFault (List Nat × Nat)
  | 0, _, _, _ => .error .malformed
  | _, _, _, [] => .error .cutOff
  | fuel + 1, before, used, c :: rest =>
    if c == quote then
      if quote == '\'' && rest.head? == some '\'' then
        quotedFrom quote fuel (after before ['\'']) (used + 2) (rest.drop 1)
      else .ok (before.reverse, used + 1)
    else if c == '\\' && quote == '"' then
      match rest with
      | [] => .error .cutOff
      | e :: behind =>
        match escapes.lookup e, hexLength? e with
        | some c, _ => quotedFrom quote fuel (after before [c]) (used + 2) behind
        | none, some length => do
          let code ← hexEscape length behind
          quotedFrom quote fuel (code :: before) (used + 2 + length) (behind.drop length)
        | none, none => do
          if !isBreak e then throw .malformed
          let (more, length) ← quotedBreaks true behind
          quotedFrom quote fuel (after before more) (used + 2 + length) (behind.drop length)
    else if c == ' ' || c == '\t' || isBreak c then
      let blanks := (c :: rest).takeWhile fun c => c == ' ' || c == '\t'
      match (c :: rest).drop blanks.length with
      | [] => .error .cutOff
      | d :: behind =>
        if isBreak d then do
          let (more, length) ← quotedBreaks true behind
          quotedFrom quote fuel (after before (foldLines d more))
            (used + blanks.length + 1 + length) (behind.drop length)
        else
          quotedFrom quote fuel (after before blanks) (used + blanks.length) (d :: behind)
    else quotedFrom quote fuel (after before [c]) (used + 1) rest
where
  /-- The codes before, and those of further characters. -/
  after (before : List Nat) (chars : List Char) : List Nat :=
    (chars.map Char.toNat).reverse ++ before

/-- The codes of a quoted scalar after its opening quote, and how many characters it takes from
there; `fuel` bounds them. -/
def scanQuoted (quote : Char) (fuel : Nat) (s : List Char) : Except YamlFault (List Nat × Nat) :=
  quotedFrom quote fuel [] 0 s

/-! ### Blocks of lines -/

/-- How a block ends: with one break, with none, or with all that there are. -/
inductive Chomping where
  | clip
  | strip
  | keep
  deriving DecidableEq

/-- The chomping that a sign asks for. -/
def chomping? (c : Char) : Option Chomping :=
  if c == '+' then some .keep else if c == '-' then some .strip else none

/-- The indentation that a digit asks for, which is not zero. -/
def indentDigit? (next : Option Char) : Except YamlFault (Option Nat) :=
  match next with
  | some c =>
    if c == '0' then .error .malformed
    else if c.isDigit then .ok (some (c.toNat - '0'.toNat)) else .ok none
  | none => .ok none

/-- The chomping and the indentation in the head of a block, in either order, and the place
behind. -/
def blockHead (cursor : Cursor) : Except YamlFault (Chomping × Option Nat × Cursor) := do
  match cursor.next?.bind chomping? with
  | some chomping =>
    let cursor := cursor.step
    match ← indentDigit? cursor.next? with
    | some indent => return (chomping, some indent, cursor.step)
    | none => return (chomping, none, cursor)
  | none =>
    match ← indentDigit? cursor.next? with
    | some indent =>
      let cursor := cursor.step
      match cursor.next?.bind chomping? with
      | some chomping => return (chomping, some indent, cursor.step)
      | none => return (.clip, some indent, cursor)
    | none => return (.clip, none, cursor)

/-- The place after a line break, if there is one. -/
def passBreak (cursor : Cursor) : List Char × Cursor :=
  match cursor.next? with
  | some c => if isBreak c then ([breakChar c], cursor.step) else ([], cursor)
  | none => ([], cursor)

/-- The place after what is left of the line of a block's head: blanks and a comment. -/
def passHeadLine (cursor : Cursor) : Except YamlFault Cursor :=
  if !isLineEnd cursor.next? && cursor.next? != some ' ' then .error .malformed
  else
    let cursor := cursor.skipWhile (· == ' ')
    let cursor := if cursor.next? == some '#' then cursor.skipWhile fun c => !isBreak c else cursor
    if isLineEnd cursor.next? then .ok (passBreak cursor).2 else .error .malformed

/-- Empty lines at the start of a block: their breaks, the greatest column reached, and the place
behind. -/
def leadingBreaks : (fuel : Nat) → (greatest : Nat) → Cursor → List Char × Nat × Cursor
  | 0, greatest, cursor => ([], greatest, cursor)
  | fuel + 1, greatest, cursor =>
    match cursor.next? with
    | some c =>
      if c == ' ' then leadingBreaks fuel (max greatest cursor.step.column) cursor.step
      else if isBreak c then
        let (more, greatest, after) := leadingBreaks fuel greatest cursor.step
        (breakChar c :: more, greatest, after)
      else ([], greatest, cursor)
    | none => ([], greatest, cursor)

/-- The place after blanks up to a column. -/
def passIndent (indent : Nat) (cursor : Cursor) : Cursor :=
  cursor.skip (min (indent - cursor.column) (cursor.rest.takeWhile (· == ' ')).length)

/-- Empty lines in a block: their breaks, and the place behind. -/
def blockBreaks (indent : Nat) : (fuel : Nat) → Cursor → List Char × Cursor
  | 0, cursor => ([], cursor)
  | fuel + 1, cursor =>
    let cursor := passIndent indent cursor
    match passBreak cursor with
    | ([], cursor) => ([], cursor)
    | (first, cursor) =>
      let (more, after) := blockBreaks indent fuel cursor
      (first ++ more, after)

/-- The lines of a block: its text but for the end, the last break with those after it, and the
place behind. -/
def blockLines (folded : Bool) (indent : Nat) :
    (fuel : Nat) → (text before : List Char) → Cursor → List Char × List Char × List Char × Cursor
  | 0, text, before, cursor => (text, [], before, cursor)
  | fuel + 1, text, before, cursor =>
    if cursor.column != indent || cursor.rest.isEmpty then (text, [], before, cursor)
    else
      let isPlain := fun (next : Option Char) => next != some ' ' && next != some '\t'
      let leading := isPlain cursor.next?
      let line := cursor.rest.takeWhile fun c => !isBreak c
      let (last, cursor) := passBreak (cursor.skip line.length)
      let text := text ++ before ++ line
      let (breaks, cursor) := blockBreaks indent cursor.rest.length.succ cursor
      if cursor.column != indent || cursor.rest.isEmpty then (text, last, breaks, cursor)
      else if folded && last == ['\n'] && leading && isPlain cursor.next? then
        blockLines folded indent fuel (text ++ if breaks.isEmpty then [' '] else []) breaks cursor
      else blockLines folded indent fuel (text ++ last) breaks cursor

/-- The block of lines after its sign, in a collection that is indented so far. -/
def scanBlock (folded : Bool) (outer : Int) (cursor : Cursor) :
    Except YamlFault (List Char × Cursor) := do
  let (chomping, asked, cursor) ← blockHead cursor
  let cursor ← passHeadLine cursor
  let least := (max (outer + 1) 1).toNat
  let fuel := cursor.rest.length + 1
  let (indent, breaks, cursor) := match asked with
    | some count =>
      let indent := least + count - 1
      let (breaks, cursor) := blockBreaks indent fuel cursor
      (indent, breaks, cursor)
    | none =>
      let (breaks, greatest, cursor) := leadingBreaks fuel 0 cursor
      (max least greatest, breaks, cursor)
  let (text, last, more, cursor) := blockLines folded indent fuel [] breaks cursor
  return match chomping with
    | .strip => (text, cursor)
    | .clip => (text ++ last, cursor)
    | .keep => (text ++ last ++ more, cursor)

end Walkthrough.Yaml
