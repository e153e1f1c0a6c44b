import Walkthrough.Decimal.Length
import Walkthrough.Json.Basic
import Walkthrough.Text.Code

/-!
# Reading JSON

A lenient reader: `NaN` and the two infinities are numbers, a fraction beyond the largest double is
infinite, and the last of two members of one name wins. The length of whole numbers is limited, and
control characters do not stand bare in a string. Collections lie in each other only so deep; one
that lies deeper is told of as such, whatever follows it.
-/

namespace Walkthrough.Json

/-- The white space of the format. -/
def isSpace (c : Char) : Bool :=
  c == ' ' || c == '\t' || c == '\n' || c == '\r'

/-- `s` after its white space. -/
def skipSpace (s : List Char) : List Char :=
  s.dropWhile isSpace

/-- The value of a hexadecimal digit. -/
def hexValue? (c : Char) : Option Nat :=
  if '0' ≤ c && c ≤ '9' then some (c.toNat - '0'.toNat)
  else if 'a' ≤ c && c ≤ 'f' then some (c.toNat - 'a'.toNat + 10)
  else if 'A' ≤ c && c ≤ 'F' then some (c.toNat - 'A'.toNat + 10)
  else none

/-- The number of four hexadecimal digits at the start of `s`, and the rest. -/
def readUnit (s : List Char) : Option (Nat × List Char) :=
  match s with
  | a :: b :: c :: d :: rest => do
    let a ← hexValue? a
    let b ← hexValue? b
    let c ← hexValue? c
    let d ← hexValue? d
    return (((a * 16 + b) * 16 + c) * 16 + d, rest)
  | _ => none

/-- The code that a unit starts and the rest of the text: a first half with the second right behind
it is one character. -/
def joinUnits (unit : Nat) (rest : List Char) : Nat × List Char :=
  let alone := (unit, rest)
  if 0xD800 ≤ unit && unit < 0xDC00 then
    match rest with
    | '\\' :: 'u' :: after =>
      match readUnit after with
      | some (low, more) =>
        if 0xDC00 ≤ low && low < 0xE000 then
          (0x10000 + (unit - 0xD800) * 0x400 + (low - 0xDC00), more)
        else alone
      | none => alone
    | _ => alone
  else alone

/-- The character of a simple escape. -/
def unescape? (c : Char) : Option Char :=
  match c with
  | '"' => some '"'
  | '\\' => some '\\'
  | '/' => some '/'
  | 'b' => some '\x08'
  | 'f' => some '\x0c'
  | 'n' => some '\n'
  | 'r' => some '\r'
  | 't' => some '\t'
  | _ => none

/-- The text up to the closing quote, and what follows it. -/
def readText : (fuel : Nat) → List Char → List Char → Option (String × List Char)
  | 0, _, _ => none
  | fuel + 1, read, s =>
    match s with
    | [] => none
    | '"' :: rest => some (String.ofList read.reverse, rest)
    | '\\' :: 'u' :: rest => do
      let (unit, rest) ← readUnit rest
      let (code, rest) := joinUnits unit rest
      readText fuel ((Text.kept code).reverse ++ read) rest
    | '\\' :: c :: rest => do
      let c ← unescape? c
      readText fuel (c :: read) rest
    | c :: rest => if c.toNat < 0x20 then none else readText fuel (c :: read) rest

/-- The fraction after a point, and the rest. -/
def readFraction (s : List Char) : Option (List Char) × List Char :=
  match s with
  | '.' :: rest =>
    let digits := rest.takeWhile Char.isDigit
    if digits.isEmpty then (none, s) else (some digits, rest.dropWhile Char.isDigit)
  | _ => (none, s)

/-- The power of ten after an `e`, and the rest. -/
def readExponent (s : List Char) : Option Int × List Char :=
  match s with
  | c :: rest =>
    if c == 'e' || c == 'E' then
      let (negative, rest) := match rest with
        | '-' :: more => (true, more)
        | '+' :: more => (false, more)
        | _ => (false, rest)
      let digits := rest.takeWhile Char.isDigit
      if digits.isEmpty then (none, s)
      else
        let size : Int := Decimal.digitsValue digits
        (some (if negative then -size else size), rest.dropWhile Char.isDigit)
    else (none, s)
  | [] => (none, s)

/-- The number at the start of `s`, and the rest. -/
def readNumber (s : List Char) : Option (Number × List Char) :=
  let (negative, unsigned) := match s with
    | '-' :: rest => (true, rest)
    | _ => (false, s)
  let whole := match unsigned with
    | '0' :: _ => ['0']
    | _ => unsigned.takeWhile Char.isDigit
  if whole.isEmpty then none
  else
    let (fraction, rest) := readFraction (unsigned.drop whole.length)
    let (exponent, rest) := readExponent rest
    match fraction, exponent with
    | none, none =>
      if Decimal.maxDigits < whole.length then none
      else
        let size : Int := Decimal.digitsValue whole
        some (.int (if negative then -size else size), rest)
    | _, _ =>
      let places := fraction.getD []
      let size := Decimal.ofDigits whole places (exponent.getD 0)
      some (.float (if negative then -size else size), rest)

/-- The named value at the start of `s`, and the rest. -/
def readName (s : List Char) : Option (Json × List Char) :=
  let names : List (List Char × Json) :=
    [("null".toList, .null), ("true".toList, .bool true), ("false".toList, .bool false),
      ("NaN".toList, .float (0.0 / 0.0)), ("Infinity".toList, .float (1.0 / 0.0)),
      ("-Infinity".toList, .float (-1.0 / 0.0))]
  names.findSome? fun (name, value) =>
    if name.isPrefixOf s then some (value, s.drop name.length) else none

/-- The two kinds of collections. -/
inductive Collection where
  | list
  | object
  deriving DecidableEq

/-- What is said of a collection that lies too deep. -/
def Collection.tooDeepMessage (collection : Collection) : String :=
  let name := match collection with
    | list => "array"
    | object => "object"
  s!"maximum recursion depth exceeded while decoding a JSON {name} from a unicode string"

/-- Why a text gives no value. -/
inductive ReadFault where
  /-- It is none. -/
  | malformed
  /-- A collection in it lies in too many others. -/
  | tooDeep (collection : Collection)
  deriving DecidableEq

/-- How many collections may lie around each other. -/
def maxDepth : Nat := 985

/-- What was read, if it was. -/
def wellFormed {α : Type} (found : Option α) : Except ReadFault α :=
  match found with
  | some value => .ok value
  | none => .error .malformed

mutual

/-- The value at the start of `s`, and the rest; `room` is how many collections may lie around each
other in it. -/
def readValue : (fuel room : Nat) → List Char → Except ReadFault (Json × List Char)
  | 0, _, _ => .error .malformed
  | fuel + 1, room, s =>
    match s with
    | '"' :: rest =>
      wellFormed ((readText (rest.length + 1) [] rest).map fun (content, rest) =>
        (.text content, rest))
    | '{' :: rest =>
      match room with
      | 0 => .error (.tooDeep .object)
      | room + 1 =>
        match skipSpace rest with
        | '}' :: rest => .ok (.object [], rest)
        | rest => readFields fuel room [] rest
    | '[' :: rest =>
      match room with
      | 0 => .error (.tooDeep .list)
      | room + 1 =>
        match skipSpace rest with
        | ']' :: rest => .ok (.list [], rest)
        | rest => readItems fuel room [] rest
    | _ =>
      match readName s with
      | some found => .ok found
      | none => wellFormed ((readNumber s).map fun (numeral, rest) => (.number numeral, rest))

/-- The items from here to the closing bracket. -/
def readItems : (fuel room : Nat) → List Json → List Char → Except ReadFault (Json × List Char)
  | 0, _, _, _ => .error .malformed
  | fuel + 1, room, items, s =>
    match readValue fuel room s with
    | .error fault => .error fault
    | .ok (item, rest) =>
      match skipSpace rest with
      | ',' :: rest => readItems fuel room (item :: items) (skipSpace rest)
      | ']' :: rest => .ok (.list (item :: items).reverse, rest)
      | _ => .error .malformed

/-- The members from here to the closing brace. -/
def readFields : (fuel room : Nat) → List (String × Json) → List Char →
    Except ReadFault (Json × List Char)
  | 0, _, _, _ => .error .malformed
  | fuel + 1, room, fields, s =>
    match s with
    | '"' :: rest =>
      match readText (rest.length + 1) [] rest with
      | none => .error .malformed
      | some (name, rest) =>
        match skipSpace rest with
        | ':' :: rest =>
          match readValue fuel room (skipSpace rest) with
          | .error fault => .error fault
          | .ok (value, rest) =>
            let fields := Fields.put name value fields
            match skipSpace rest with
            | ',' :: rest => readFields fuel room fields (skipSpace rest)
            | '}' :: rest => .ok (.object fields, rest)
            | _ => .error .malformed
        | _ => .error .malformed
    | _ => .error .malformed

end

/-- The value that a text stands for. -/
def read (text : String) : Except ReadFault Json := do
  let s := text.toList
  let (value, rest) ← readValue (s.length + 1) maxDepth (skipSpace s)
  if (skipSpace rest).isEmpty then return value else throw .malformed

end Walkthrough.Json
