import Walkthrough.Decimal.Length
import Walkthrough.Decimal.Reading
import Walkthrough.Disk.Path
import Walkthrough.Text.Lines
import Walkthrough.Yaml.Value

/-!
# Values for settings

What a value is taken for where a setting is a text, a number, a path or a group of entries.
Texts are read as numbers; digits may be those of any script, with single low lines between them.
-/

namespace Walkthrough

/-- Why a value cannot be taken for what a setting needs. -/
inductive CoercionFault where
  /-- A text is no whole number. -/
  | notWhole (text : String)
  /-- A whole number has more digits than are read. -/
  | longWhole (digits : Nat)
  /-- A value of a kind cannot be a whole number. -/
  | noWhole (kind : String)
  /-- An infinity is no whole number. -/
  | infinite
  /-- What is not a number is no whole number. -/
  | notANumber
  /-- A text is no number. -/
  | notReal (text : String)
  /-- A value of a kind cannot be a number. -/
  | noReal (kind : String)
  /-- A whole number lies beyond the largest double. -/
  | tooLarge
  /-- A whole number is too long to be written. -/
  | tooLong
  /-- A value of a kind holds no entries. -/
  | noEntries (kind : String)
  /-- An item holds no key and value. -/
  | noPair (index : Nat)
  /-- An item is not as long as a key and a value. -/
  | pairLength (index length : Nat)
  /-- A value of a kind cannot be a key. -/
  | noKey (kind : String)
  /-- A value of a kind cannot be a path. -/
  | noPath (kind : String)
  deriving DecidableEq

/-- What a fault says. -/
def CoercionFault.message : CoercionFault → String
  | notWhole text =>
    let shown := String.ofList ((quoted text).toList.take 200)
    s!"invalid literal for int() with base 10: {shown}"
  | longWhole digits => Decimal.lengthMessage digits
  | noWhole kind =>
    "int() argument must be a string, a bytes-like object or a real number, " ++ s!"not '{kind}'"
  | infinite => "cannot convert float infinity to integer"
  | notANumber => "cannot convert float NaN to integer"
  | notReal text => s!"could not convert string to float: {quoted text}"
  | noReal kind => "float() argument must be a string or a real number, " ++ s!"not '{kind}'"
  | tooLarge => Decimal.tooLargeMessage
  | tooLong => Decimal.writtenLengthMessage
  | noEntries kind => s!"'{kind}' object is not iterable"
  | noPair index => s!"cannot convert dictionary update sequence element #{index} to a sequence"
  | pairLength index length =>
    s!"dictionary update sequence element #{index} has length {length}; 2 is required"
  | noKey kind => s!"unhashable type: '{kind}'"
  | noPath kind => s!"unsupported operand type(s) for /: 'PosixPath' and '{kind}'"

namespace Coercion

open Text

/-- A value as a text. -/
def text (value : Yaml) : Except CoercionFault String :=
  if value.isWritable then .ok value.display else .error .tooLong

/-- The blanks that may stand around a number: of those in ASCII, only the usual six. -/
def isMargin (c : Char) : Bool :=
  if c.toNat < 0x80 then c == ' ' || ('\t' ≤ c && c ≤ '\r') else isBlank c

/-- A text without the blanks around it, and with ASCII digits for those of any script. -/
def plainDigits (text : String) : List Char :=
  let inner := ((text.toList.dropWhile isMargin).reverse.dropWhile isMargin).reverse
  inner.map fun c => match digit? c with
    | some value => Char.ofNat ('0'.toNat + value)
    | none => c

/-- Whether a text is negated, and the rest behind its sign. -/
def signed (s : List Char) : Bool × List Char :=
  match s with
  | '-' :: rest => (true, rest)
  | '+' :: rest => (false, rest)
  | _ => (false, s)

/-- The digits at the start of a text, single low lines between them left out, and the rest; none if
a low line has no digit on one of its sides. -/
def digitRun : (afterDigit : Bool) → List Char → Option (List Char × List Char)
  | _, [] => some ([], [])
  | afterDigit, c :: rest =>
    if c.isDigit then (digitRun true rest).map fun (digits, after) => (c :: digits, after)
    else if c == '_' then
      if afterDigit && (rest.head?.any Char.isDigit) then digitRun false rest else none
    else some ([], c :: rest)

/-- A text as a whole number. -/
def wholeOfText (text : String) : Except CoercionFault Int :=
  let (negative, body) := signed (plainDigits text)
  match digitRun false body with
  | none => .error (.notWhole text)
  | some (digits, rest) =>
    if Decimal.maxDigits < digits.length then .error (.longWhole digits.length)
    else if digits.isEmpty || !rest.isEmpty then .error (.notWhole text)
    else
      let size : Int := Decimal.digitsValue digits
      .ok (if negative then -size else size)

/-- A value as a whole number; a double loses its fraction. -/
def whole : Yaml → Except CoercionFault Int
  | .number (.int value) => .ok value
  | .number (.float value) =>
    match Decimal.Kind.ofFloat value with
    | .finite value => .ok value.truncate
    | .infinite _ => .error .infinite
    | .notANumber => .error .notANumber
  | .bool value => .ok (if value then 1 else 0)
  | .text value => wholeOfText value
  | other => .error (.noWhole other.kind)

/-- The exponent that makes up a text, if there is one. -/
def exponent? : List Char → Option Int
  | [] => some 0
  | e :: rest =>
    let (negative, body) := signed rest
    match digitRun false body with
    | some (digit :: digits, []) =>
      if e == 'e' || e == 'E' then
        let size : Int := Decimal.digitsValue (digit :: digits)
        some (if negative then -size else size)
      else none
    | _ => none

/-- The double without sign that a text is. -/
def size? (s : List Char) : Option Float :=
  let word := String.ofList (s.map Char.toLower)
  if word = "inf" || word = "infinity" then some (1.0 / 0.0)
  else if word = "nan" then some (0.0 / 0.0)
  else do
    let (whole, rest) ← digitRun false s
    let (places, rest) ← match rest with
      | '.' :: more => digitRun false more
      | _ => some ([], rest)
    if whole.isEmpty && places.isEmpty then none
    else return Decimal.ofDigits whole places (← exponent? rest)

/-- A text as a double. -/
def realOfText (text : String) : Except CoercionFault Float :=
  let (negative, body) := signed (plainDigits text)
  match size? body with
  | some size => .ok (if negative then -size else size)
  | none => .error (.notReal text)

/-- A value as a double. -/
def real : Yaml → Except CoercionFault Float
  | .number (.float value) => .ok value
  | .number (.int value) =>
    let value := Decimal.ofInt value
    if value.isInf then .error .tooLarge else .ok value
  | .bool value => .ok (if value then 1.0 else 0.0)
  | .text value => realOfText value
  | other => .error (.noReal other.kind)

/-- The parts of a value that has parts: items, keys, or the characters of a text. -/
def parts? : Yaml → Option (List Yaml)
  | .list items => some items
  | .mapping entries => some (entries.map (·.1))
  | .text value => some ((Text.codes value.toList).map fun code =>
    .text (String.ofList (Text.kept code)))
  | _ => none

/-- Whether a value can be a key. -/
def isKey : Yaml → Bool
  | .list _ | .mapping _ => false
  | _ => true

/-- The key and the value that an item consists of. -/
def pair (index : Nat) (item : Yaml) : Except CoercionFault (Yaml × Yaml) :=
  match parts? item with
  | none => .error (.noPair index)
  | some [key, value] => if isKey key then .ok (key, value) else .error (.noKey key.kind)
  | some parts => .error (.pairLength index parts.length)

/-- Entries with those that items consist of put in, the items numbered from `index` on. -/
def pairsFrom (index : Nat) (entries : List (Yaml × Yaml)) :
    List Yaml → Except CoercionFault (List (Yaml × Yaml))
  | [] => .ok entries
  | item :: rest => do
    let (key, value) ← pair index item
    pairsFrom (index + 1) (Yaml.putEntry key value entries) rest

/-- A value as a group of entries; one that counts as no has none. -/
def entries (value : Yaml) : Except CoercionFault (List (Yaml × Yaml)) :=
  if !value.isTruthy then .ok []
  else match value with
    | .mapping entries => .ok entries
    | other => match parts? other with
      | some items => pairsFrom 0 [] items
      | none => .error (.noEntries other.kind)

/-- A value as a path seen from another. -/
def below (directory : Path) : Yaml → Except CoercionFault Path
  | .text value => .ok (directory.child value)
  | other => .error (.noPath other.kind)

end Coercion

end Walkthrough
