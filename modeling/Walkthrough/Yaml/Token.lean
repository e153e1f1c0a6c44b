import Walkthrough.Text.Code
import Walkthrough.Yaml.Scalar
import Walkthrough.Yaml.Source

/-!
# YAML tokens

A text is cut into tokens: marks, scalars, and the starts and ends of block collections, which
follow from indentation. What may turn out to be a key is remembered; when its colon comes, the
token for a key is put in before it. Tags and directives are refused. Where a text cannot be cut
further, the tokens before that place stand.
-/

namespace Walkthrough.Yaml

/-- A token of a YAML text. -/
inductive Token where
  | documentStart
  | documentEnd
  | blockSequence
  | blockMapping
  | blockEnd
  | flowSequence
  | flowSequenceEnd
  | flowMapping
  | flowMappingEnd
  | entry
  | comma
  | key
  | value
  | alias (name : String)
  | anchor (name : String)
  /-- A scalar, and whether it is written plainly. -/
  | scalar (text : String) (plain : Bool)
  | finish
  deriving DecidableEq

/-- The scalar of codes. -/
def Token.ofCodes (codes : List Nat) (plain : Bool) : Token :=
  .scalar (String.ofList (Text.ofCodes codes)) plain

/-- The scalar of characters. -/
def Token.ofChars (chars : List Char) (plain : Bool) : Token :=
  .ofCodes (chars.map Char.toNat) plain

/-- A place that may turn out to be the start of a key. -/
structure KeyPlace where
  /-- The count of tokens before it. -/
  before : Nat
  /-- Whether it has to be a key, because a block mapping is as far indented. -/
  required : Bool
  index : Nat
  line : Nat
  column : Nat

/-- How far a text is cut into tokens. -/
structure Scanner where
  cursor : Cursor
  /-- More than the length of the text, which bounds all that is done at one place. -/
  fuel : Nat
  /-- The tokens so far, the latest first. -/
  tokens : List Token := []
  /-- The count of tokens so far. -/
  count : Nat := 0
  /-- The place of a possible key in each flow collection around, the innermost first, and in the
  block collection around them. -/
  keys : List (Option KeyPlace) := [none]
  /-- The columns of the block collections around, the innermost first. -/
  indents : List Int := []
  /-- Whether a key may start here. -/
  mayKey : Bool := true

namespace Scanner

/-- Whether the place lies in a flow collection. -/
def inFlow (scanner : Scanner) : Bool :=
  1 < scanner.keys.length

/-- The column of the innermost block collection. -/
def indent (scanner : Scanner) : Int :=
  scanner.indents.headD (-1)

/-- The column of the place. -/
def column (scanner : Scanner) : Int :=
  scanner.cursor.column

/-- Adds a token. -/
def add (token : Token) (scanner : Scanner) : Scanner :=
  { scanner with tokens := token :: scanner.tokens, count := scanner.count + 1 }

/-- Puts tokens in where there were `before` tokens; they are given the latest first. -/
def insert (before : Nat) (tokens : List Token) (scanner : Scanner) : Scanner :=
  let later := scanner.count - before
  { scanner with
    tokens := scanner.tokens.take later ++ tokens ++ scanner.tokens.drop later
    count := scanner.count + tokens.length }

/-- Goes so many characters further. -/
def skip (count : Nat) (scanner : Scanner) : Scanner :=
  { scanner with cursor := scanner.cursor.skip count }

/-- Lets a key start here, or not. -/
def allowKey (allowed : Bool) (scanner : Scanner) : Scanner :=
  { scanner with mayKey := allowed }

/-- Ends the block collections that are further indented than a column. -/
def unwindTo (column : Int) (scanner : Scanner) : Scanner :=
  let ended := scanner.indents.takeWhile (column < ·)
  { scanner with
    indents := scanner.indents.drop ended.length
    tokens := List.replicate ended.length .blockEnd ++ scanner.tokens
    count := scanner.count + ended.length }

/-- Gives up the possible key of the innermost collection, which must not be a required one. -/
def dropKey (scanner : Scanner) : Except YamlFault Scanner :=
  match scanner.keys with
  | some place :: outer =>
    if place.required then .error .malformed else .ok { scanner with keys := none :: outer }
  | _ => .ok scanner

/-- Remembers the place as the start of a possible key. -/
def saveKey (scanner : Scanner) : Except YamlFault Scanner := do
  if !scanner.mayKey then return scanner
  let scanner ← scanner.dropKey
  let place : KeyPlace := {
    before := scanner.count
    required := !scanner.inFlow && scanner.indent = scanner.column
    index := scanner.cursor.index
    line := scanner.cursor.line
    column := scanner.cursor.column }
  return { scanner with keys := some place :: scanner.keys.drop 1 }

/-- A possible key, unless it lies on an earlier line or too far back; a required one must not. -/
def freshKey (cursor : Cursor) : Option KeyPlace → Except YamlFault (Option KeyPlace)
  | none => .ok none
  | some place =>
    if place.line != cursor.line || place.index + 1024 < cursor.index then
      if place.required then .error .malformed else .ok none
    else .ok (some place)

/-- Gives up the possible keys that lie too far back. -/
def dropStale (scanner : Scanner) : Except YamlFault Scanner := do
  let keys ← scanner.keys.mapM (freshKey scanner.cursor)
  return { scanner with keys }

/-- Starts a block collection at a column if it is further indented than the one around. -/
def openBlock (token : Token) (column : Int) (scanner : Scanner) : Scanner :=
  if scanner.indent < column then
    { scanner with indents := column :: scanner.indents }.add token
  else scanner

/-- Passes over blanks, comments and line breaks; on a new line of a block a key may start. -/
def passBlanks : (fuel : Nat) → Scanner → Scanner
  | 0, scanner => scanner
  | fuel + 1, scanner =>
    let cursor := scanner.cursor.skipWhile (· == ' ')
    let cursor := if cursor.next? == some '#' then cursor.skipWhile fun c => !isBreak c else cursor
    match cursor.next? with
    | some c =>
      if isBreak c then
        passBlanks fuel { scanner with
          cursor := cursor.step
          mayKey := scanner.mayKey || !scanner.inFlow }
      else { scanner with cursor }
    | none => { scanner with cursor }

/-- Takes the mark of a document's start or end. -/
def documentMark (token : Token) (scanner : Scanner) : Except YamlFault Scanner := do
  let scanner ← (scanner.unwindTo (-1)).dropKey
  return ((scanner.allowKey false).skip 3).add token

/-- Takes the opening bracket of a flow collection. -/
def openFlow (token : Token) (scanner : Scanner) : Except YamlFault Scanner := do
  let scanner ← scanner.saveKey
  return (({ scanner with keys := none :: scanner.keys }.allowKey true).skip 1).add token

/-- Takes the closing bracket of a flow collection. -/
def closeFlow (token : Token) (scanner : Scanner) : Except YamlFault Scanner := do
  if !scanner.inFlow then throw .malformed
  let scanner ← scanner.dropKey
  return (({ scanner with keys := scanner.keys.drop 1 }.allowKey false).skip 1).add token

/-- Takes a comma of a flow collection. -/
def takeComma (scanner : Scanner) : Except YamlFault Scanner := do
  let scanner ← scanner.dropKey
  return ((scanner.allowKey true).skip 1).add .comma

/-- Takes the dash of an entry. -/
def takeEntry (scanner : Scanner) : Except YamlFault Scanner := do
  if !scanner.inFlow && !scanner.mayKey then throw .malformed
  let scanner := if scanner.inFlow then scanner
    else scanner.openBlock .blockSequence scanner.column
  let scanner ← scanner.dropKey
  return ((scanner.allowKey true).skip 1).add .entry

/-- Takes the question mark of a key. -/
def takeKey (scanner : Scanner) : Except YamlFault Scanner := do
  if !scanner.inFlow && !scanner.mayKey then throw .malformed
  let scanner := if scanner.inFlow then scanner
    else scanner.openBlock .blockMapping scanner.column
  let scanner ← scanner.dropKey
  return ((scanner.allowKey !scanner.inFlow).skip 1).add .key

/-- Takes the colon of a value, after a key without a question mark if there is a place for one. -/
def takeValue (scanner : Scanner) : Except YamlFault Scanner := do
  match scanner.keys with
  | some place :: outer =>
    let scanner := { scanner with keys := none :: outer }
    let opens := !scanner.inFlow && scanner.indent < (place.column : Int)
    let indents := if opens then (place.column : Int) :: scanner.indents else scanner.indents
    let tokens := if opens then [Token.key, .blockMapping] else [Token.key]
    let scanner := { scanner.insert place.before tokens with indents }
    return ((scanner.allowKey false).skip 1).add .value
  | _ =>
    if !scanner.inFlow && !scanner.mayKey then throw .malformed
    let scanner := if scanner.inFlow then scanner
      else scanner.openBlock .blockMapping scanner.column
    let scanner ← scanner.dropKey
    return ((scanner.allowKey !scanner.inFlow).skip 1).add .value

/-- Whether a character may stand in the name of an anchor. -/
def isNameChar (c : Char) : Bool :=
  c.isAlphanum || c == '-' || c == '_'

/-- Whether the name of an anchor may end before `next`. -/
def endsName (next : Option Char) : Bool :=
  isGap next || next.any fun c =>
    c == '?' || c == ':' || c == ',' || c == ']' || c == '\x7d' || c == '%' || c == '@' ||
      c == '\x60'

/-- Takes the name of an anchor, or of an alias for one. -/
def takeName (token : String → Token) (scanner : Scanner) : Except YamlFault Scanner := do
  let scanner ← scanner.saveKey
  let cursor := scanner.cursor.step
  let name := cursor.rest.takeWhile isNameChar
  let cursor := cursor.skip name.length
  if name.isEmpty && cursor.rest.isEmpty then throw .cutOff
  if name.isEmpty || !endsName cursor.next? then throw .malformed
  return ({ scanner with cursor }.allowKey false).add (token (String.ofList name))

/-- Takes a scalar in quotes. -/
def takeQuoted (quote : Char) (scanner : Scanner) : Except YamlFault Scanner := do
  let scanner ← scanner.saveKey
  let (codes, length) ← scanQuoted quote scanner.fuel (scanner.cursor.rest.drop 1)
  return ((scanner.skip (length + 1)).allowKey false).add (.ofCodes codes false)

/-- Takes a block of lines. -/
def takeBlock (folded : Bool) (scanner : Scanner) : Except YamlFault Scanner := do
  let scanner ← scanner.dropKey
  let (text, cursor) ← scanBlock folded scanner.indent scanner.cursor.step
  return ({ scanner with cursor }.allowKey true).add (.ofChars text false)

/-- Takes a plain scalar. -/
def takePlain (scanner : Scanner) : Except YamlFault Scanner := do
  let scanner ← scanner.saveKey
  let (text, cursor, broken) :=
    scanPlain scanner.inFlow (scanner.indent + 1) scanner.fuel scanner.cursor
  return ({ scanner with cursor }.allowKey broken).add (.ofChars text true)

/-- Whether a plain scalar may start with `c` before `next`. -/
def startsPlain (inFlow : Bool) (c : Char) (next : Option Char) : Bool :=
  let marks := ['-', '?', ':', ',', '[', ']', '\x7b', '\x7d', '#', '&', '*', '!', '|', '>', '\'',
    '"', '%', '@', '\x60']
  (!isGap (some c) && !marks.contains c) ||
    (!isGap next && (c == '-' || (!inFlow && (c == '?' || c == ':'))))

/-- Takes the token that starts with `c`. -/
def takeToken (c : Char) (scanner : Scanner) : Except YamlFault Scanner :=
  let next := scanner.cursor.at? 1
  let marksDocument := scanner.cursor.column = 0 && startsDocument scanner.cursor.rest
  if c == '%' && scanner.cursor.column = 0 then .error .malformed
  else if c == '-' && marksDocument then scanner.documentMark .documentStart
  else if c == '.' && marksDocument then scanner.documentMark .documentEnd
  else if c == '[' then scanner.openFlow .flowSequence
  else if c == '\x7b' then scanner.openFlow .flowMapping
  else if c == ']' then scanner.closeFlow .flowSequenceEnd
  else if c == '\x7d' then scanner.closeFlow .flowMappingEnd
  else if c == ',' then scanner.takeComma
  else if c == '-' && isGap next then scanner.takeEntry
  else if c == '?' && (scanner.inFlow || isGap next) then scanner.takeKey
  else if c == ':' && (scanner.inFlow || isGap next) then scanner.takeValue
  else if c == '*' then scanner.takeName .alias
  else if c == '&' then scanner.takeName .anchor
  else if c == '|' && !scanner.inFlow then scanner.takeBlock false
  else if c == '>' && !scanner.inFlow then scanner.takeBlock true
  else if c == '\'' || c == '"' then scanner.takeQuoted c
  else if startsPlain scanner.inFlow c next then scanner.takePlain
  else .error .malformed

/-- How many tokens are settled: those before the first that may turn out to start a key. -/
def settled (scanner : Scanner) : Nat :=
  (scanner.keys.filterMap id).foldl (fun count place => min count place.before) scanner.count

/-- Refuses to go on at the end of a text that has no end, since it is not read further. -/
def needMore (stop : Option YamlFault) (scanner : Scanner) : Except YamlFault Unit :=
  match stop with
  | some fault => if scanner.cursor.rest.isEmpty then .error fault else .ok ()
  | none => .ok ()

/-- Takes the next token, or ends the text; whether it has ended. -/
def advance (stop : Option YamlFault) (scanner : Scanner) : Except YamlFault (Scanner × Bool) := do
  let scanner := scanner.passBlanks scanner.fuel
  scanner.needMore stop
  let scanner ← scanner.dropStale
  let scanner := if scanner.inFlow then scanner else scanner.unwindTo scanner.column
  match scanner.cursor.next? with
  | none =>
    let scanner ← (scanner.unwindTo (-1)).dropKey
    return (scanner.add .finish, true)
  | some c =>
    let scanner ← (scanner.takeToken c).mapError fun fault =>
      if fault = .cutOff then stop.getD .malformed else fault
    scanner.needMore stop
    return (scanner, false)

end Scanner

/-- The tokens of a text as far as they can be told apart, and why there are no more, unless the
last is the end. -/
structure Tokens where
  tokens : List Token
  stop : Option YamlFault := none

namespace Scanner

/-- The tokens that are settled at a fault. -/
def stopped (scanner : Scanner) (fault : YamlFault) : Tokens :=
  ⟨scanner.tokens.reverse.take scanner.settled, some fault⟩

/-- All tokens, with those that are left. -/
def run (stop : Option YamlFault) : (fuel : Nat) → Scanner → Tokens
  | 0, scanner => scanner.stopped .malformed
  | fuel + 1, scanner =>
    match scanner.dropStale with
    | .error fault => scanner.stopped fault
    | .ok scanner =>
      match scanner.advance stop with
      | .error fault => scanner.stopped fault
      | .ok (scanner, true) => ⟨scanner.tokens.reverse, none⟩
      | .ok (scanner, false) => run stop fuel scanner

end Scanner

/-- The tokens of a source; a mark of the order of octets at its start means nothing. -/
def tokens (source : Source) : Tokens :=
  let start : Cursor := ⟨source.chars, 0, 0, 0⟩
  let start := if start.next? == some '\ufeff' then start.step else start
  let fuel := source.chars.length + 2
  Scanner.run source.stop fuel { cursor := start, fuel }

end Walkthrough.Yaml
