import Walkthrough.Json.Reading

/-!
# The JSON standard

What a text stands for by the grammar of the standard, which is stricter than the reader of answers:
the only names are `null`, `true` and `false`, so that no number is infinite or none at all unless
it is beyond the largest double. It sets no limit to the length of numbers or to the depth of
collections. Whole numbers are read exactly, numbers with a fraction or an exponent as the nearest
double, and of two members of one name the last one counts.
-/

namespace Walkthrough.Json.Standard

/-- The whole part at the start of a number without its sign: a zero, or digits that do not start
with one. -/
def wholePart (s : List Char) : List Char :=
  match s with
  | '0' :: _ => ['0']
  | _ => s.takeWhile Char.isDigit

/-- A number without its sign at the start of `s`, and the rest. -/
def readSize (negative : Bool) (s : List Char) : Option (Number × List Char) :=
  let whole := wholePart s
  if whole.isEmpty then none
  else
    let (fraction, rest) := readFraction (s.drop whole.length)
    let (exponent, rest) := readExponent rest
    match fraction, exponent with
    | none, none =>
      let size : Int := Decimal.digitsValue whole
      some (.int (if negative then -size else size), rest)
    | _, _ =>
      let size := Decimal.ofDigits whole (fraction.getD []) (exponent.getD 0)
      some (.float (if negative then -size else size), rest)

/-- The number at the start of `s`, and the rest. -/
def readNumber (s : List Char) : Option (Number × List Char) :=
  match s with
  | '-' :: rest => readSize true rest
  | _ => readSize false s

/-- The named value at the start of `s`, and the rest. -/
def readName (s : List Char) : Option (Json × List Char) :=
  let names : List (List Char × Json) :=
    [("null".toList, .null), ("true".toList, .bool true), ("false".toList, .bool false)]
  names.findSome? fun (name, value) =>
    if name.isPrefixOf s then some (value, s.drop name.length) else none

/-- The string behind an opening quote, and the rest. -/
def readString (s : List Char) : Option (String × List Char) :=
  readText (s.length + 1) [] s

mutual

/-- The value at the start of `s`, and the rest. -/
def readValue : (fuel : Nat) → List Char → Option (Json × List Char)
  | 0, _ => none
  | fuel + 1, s =>
    match s with
    | '"' :: rest => (readString rest).map fun (content, rest) => (.text content, rest)
    | '{' :: rest =>
      match skipSpace rest with
      | '}' :: rest => some (.object [], rest)
      | rest => readFields fuel [] rest
    | '[' :: rest =>
      match skipSpace rest with
      | ']' :: rest => some (.list [], rest)
      | rest => readItems fuel [] rest
    | _ => (readName s).or ((readNumber s).map fun (numeral, rest) => (.number numeral, rest))

/-- The items from here to the closing bracket, after those that were read. -/
def readItems : (fuel : Nat) → List Json → List Char → Option (Json × List Char)
  | 0, _, _ => none
  | fuel + 1, items, s =>
    match readValue fuel s with
    | none => none
    | some (item, rest) =>
      match skipSpace rest with
      | ',' :: rest => readItems fuel (items ++ [item]) (skipSpace rest)
      | ']' :: rest => some (.list (items ++ [item]), rest)
      | _ => none

/-- The members from here to the closing brace, after those that were read. -/
def readFields : (fuel : Nat) → List (String × Json) → List Char → Option (Json × List Char)
  | 0, _, _ => none
  | fuel + 1, fields, s =>
    match s with
    | '"' :: rest =>
      match readString rest with
      | none => none
      | some (name, rest) =>
        match skipSpace rest with
        | ':' :: rest =>
          match readValue fuel (skipSpace rest) with
          | none => none
          | some (value, rest) =>
            let fields := Fields.put name value fields
            match skipSpace rest with
            | ',' :: rest => readFields fuel fields (skipSpace rest)
            | '}' :: rest => some (.object fields, rest)
            | _ => none
        | _ => none
    | _ => none

end

/-- The value that a document stands for, if the text is one: a single value with white space
around it. -/
def decode? (text : String) : Option Json :=
  let s := text.toList
  match readValue (s.length + 1) (skipSpace s) with
  | some (value, rest) => if (skipSpace rest).isEmpty then some value else none
  | none => none

end Walkthrough.Json.Standard
