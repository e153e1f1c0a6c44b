import Walkthrough.Yaml.Cursor
import Walkthrough.Yaml.Value

/-!
# What plain scalars mean

A plain scalar is a truth value, nothing, a number, a date, or a moment if it has the form of one,
and else a text. Numbers may be written to the bases 2, 8, 10, 16 and 60, with low lines between
digits.
-/

namespace Walkthrough.Yaml.Plain

/-- The words for truth values. -/
def truth? (text : String) : Option Bool :=
  if ["yes", "Yes", "YES", "true", "True", "TRUE", "on", "On", "ON"].contains text then some true
  else if ["no", "No", "NO", "false", "False", "FALSE", "off", "Off", "OFF"].contains text then
    some false
  else none

/-- Whether a text is a word for nothing. -/
def isNothing (text : String) : Bool :=
  ["", "~", "null", "Null", "NULL"].contains text

/-- Whether a text is negated, and the rest behind its sign. -/
def signed (s : List Char) : Bool × List Char :=
  match s with
  | '-' :: rest => (true, rest)
  | '+' :: rest => (false, rest)
  | _ => (false, s)

/-- A text without its low lines. -/
def withoutLines (s : List Char) : List Char :=
  s.filter (· != '_')

/-- The pieces of a text between colons. -/
def splitColons : List Char → List (List Char)
  | [] => [[]]
  | c :: rest =>
    if c == ':' then [] :: splitColons rest
    else match splitColons rest with
      | [] => [[c]]
      | piece :: more => (c :: piece) :: more

/-- Whether a text is a number below sixty. -/
def isSixtieth (s : List Char) : Bool :=
  match s with
  | [a] => a.isDigit
  | [a, b] => '0' ≤ a && a ≤ '5' && b.isDigit
  | _ => false

/-- The value of digits to a base. -/
def ofBase (base : Nat) (digits : List Char) : Except YamlFault Int :=
  if digits.isEmpty then .error (.noDigits base)
  else .ok (digits.foldl (fun n c => base * n + (hexDigit c)) 0 : Nat)
where
  /-- The value of a digit of any base. -/
  hexDigit (c : Char) : Nat :=
    if c.isDigit then c.toNat - '0'.toNat else c.toLower.toNat - 'a'.toNat + 10

/-- The value of decimal digits, of which there must not be too many. -/
def ofDecimal (digits : List Char) : Except YamlFault Int :=
  if Decimal.maxDigits < digits.length then .error (.longNumber digits.length)
  else .ok (Decimal.digitsValue digits)

/-- The value of pieces to the base 60. -/
def ofSixties (pieces : List (List Char)) : Except YamlFault Int := do
  let values ← pieces.mapM ofDecimal
  return values.foldl (fun n value => 60 * n + value) 0

/-- The whole number without sign that a text has the form of. -/
def whole? (s : List Char) : Option (Except YamlFault Int) :=
  match s with
  | ['0'] => some (.ok 0)
  | '0' :: rest =>
    let marked := rest.drop 1
    if rest.head? == some 'b' && !marked.isEmpty &&
        marked.all (fun c => c == '0' || c == '1' || c == '_') then
      some (ofBase 2 (withoutLines marked))
    else if rest.head? == some 'x' && !marked.isEmpty &&
        marked.all (fun c => c.isDigit || ('a' ≤ c && c ≤ 'f') || ('A' ≤ c && c ≤ 'F') || c == '_')
        then
      some (ofBase 16 (withoutLines marked))
    else if rest.all fun c => ('0' ≤ c && c ≤ '7') || c == '_' then
      some (ofBase 8 (withoutLines s))
    else none
  | c :: _ =>
    if !c.isDigit then none
    else
      match splitColons s with
      | [] => none
      | first :: more =>
        if first.all (fun c => c.isDigit || c == '_') && more.all isSixtieth then
          some (ofSixties (withoutLines first :: more))
        else none
  | [] => none

/-- The whole number that a text has the form of. -/
def int? (s : List Char) : Option (Except YamlFault Int) :=
  let (negative, body) := signed s
  (whole? body).map fun size => size.map fun size => if negative then -size else size

/-- Digits and low lines up to something else, and the rest. -/
def digitRun (s : List Char) : List Char × List Char :=
  s.span fun c => c.isDigit || c == '_'

/-- The exponent that makes up a text, which may be missing; its sign may not. -/
def exponent? (s : List Char) : Option Int :=
  match s with
  | [] => some 0
  | e :: sign :: digits =>
    if (e == 'e' || e == 'E') && (sign == '+' || sign == '-') && !digits.isEmpty &&
        digits.all Char.isDigit then
      let size : Int := Decimal.digitsValue digits
      some (if sign == '-' then -size else size)
    else none
  | _ => none

/-- The double of a text to the base 60, whose last piece has a point. -/
def sixtiesFloat? (s : List Char) : Option (Except YamlFault Float) :=
  match splitColons s with
  | first :: second :: more =>
    let pieces := second :: more
    let last := pieces.getLast?.getD []
    let (units, rest) := last.span Char.isDigit
    let starts := match first with
      | c :: _ => c.isDigit && first.all fun c => c.isDigit || c == '_'
      | [] => false
    match rest with
    | '.' :: places =>
      if starts && pieces.dropLast.all isSixtieth && isSixtieth units &&
          places.all (fun c => c.isDigit || c == '_') then
        let sizes := ((withoutLines first :: pieces.dropLast).map fun piece =>
          Decimal.ofDigits piece [] 0) ++ [Decimal.ofDigits units (withoutLines places) 0]
        some (weigh sizes.reverse 1 0.0)
      else none
    | _ => none
  | _ => none
where
  /-- Adds up sizes, the least first, each weighing sixty times the one before. -/
  weigh : List Float → (weight : Nat) → (sum : Float) → Except YamlFault Float
    | [], _, sum => .ok sum
    | size :: rest, weight, sum =>
      let double := Decimal.ofInt weight
      if double.isInf then .error .heavyPlace
      else weigh rest (weight * 60) (sum + size * double)

/-- The double without sign that a text has the form of. -/
def size? (s : List Char) : Option (Except YamlFault Float) :=
  let (whole, rest) := digitRun s
  match whole, rest with
  | c :: _, '.' :: rest =>
    if !c.isDigit then none
    else
      let (places, rest) := digitRun rest
      (exponent? rest).map fun exponent =>
        .ok (Decimal.ofDigits (withoutLines whole) (withoutLines places) exponent)
  | _, _ =>
    if [".inf", ".Inf", ".INF"].contains (String.ofList s) then some (.ok (1.0 / 0.0))
    else sixtiesFloat? s

/-- The double that starts with its point, which has no sign. -/
def pointed? (s : List Char) : Option Float :=
  match s with
  | '.' :: c :: rest =>
    if !c.isDigit then none
    else
      let (places, rest) := digitRun (c :: rest)
      (exponent? rest).map (Decimal.ofDigits [] (withoutLines places))
  | _ => none

/-- The double that a text has the form of. -/
def float? (s : List Char) : Option (Except YamlFault Float) :=
  if [".nan", ".NaN", ".NAN"].contains (String.ofList s) then some (.ok (0.0 / 0.0))
  else
    let (negative, body) := signed s
    match pointed? s with
    | some size => some (.ok size)
    | none => (size? body).map fun size => size.map fun size => if negative then -size else size

/-- The number of at least `least` and at most `most` digits at the start of a text, and the
rest. -/
def digits? (least most : Nat) (s : List Char) : Option (Int × List Char) :=
  let digits := (s.take most).takeWhile Char.isDigit
  if digits.length < least then none
  else some ((Decimal.digitsValue digits : Nat), s.drop digits.length)

/-- What is left of a text behind a character that has to come first. -/
def behind? (c : Char) (s : List Char) : Option (List Char) :=
  match s with
  | d :: rest => if c == d then some rest else none
  | [] => none

/-- The count of days of a month. -/
def monthLength (year month : Int) : Int :=
  if month = 2 then
    if year % 4 = 0 && (year % 100 != 0 || year % 400 = 0) then 29 else 28
  else if month = 4 || month = 6 || month = 9 || month = 11 then 30
  else 31

/-- A day if there is such a day. -/
def checkDay (day : Day) : Except YamlFault Unit :=
  if day.year < 1 then .error (.noMoment .year)
  else if day.month < 1 || 12 < day.month then .error (.noMoment .month)
  else if day.day < 1 || monthLength day.year day.month < day.day then .error (.noMoment .day)
  else .ok ()

/-- The date that a text has the form of. -/
def date? (s : List Char) : Option (Except YamlFault Yaml) := do
  let (year, rest) ← digits? 4 4 s
  let (month, rest) ← digits? 2 2 (← behind? '-' rest)
  let (day, rest) ← digits? 2 2 (← behind? '-' rest)
  if rest.isEmpty then
    return (checkDay ⟨year, month, day⟩).map fun _ => .date ⟨year, month, day⟩
  else none

/-- What stands between a date and a time. -/
def between? (s : List Char) : Option (List Char) :=
  match s with
  | c :: rest =>
    if c == 'T' || c == 't' then some rest
    else if c == ' ' then some (rest.dropWhile (· == ' '))
    else none
  | [] => none

/-- The microseconds of a fraction of a second, further digits cut off, and the rest. -/
def fraction (s : List Char) : Int × List Char :=
  match s with
  | '.' :: rest =>
    let digits := rest.takeWhile Char.isDigit
    ((Decimal.digitsValue ((digits ++ List.replicate 6 '0').take 6) : Nat), rest.drop digits.length)
  | _ => (0, s)

/-- The distance from universal time that makes up a text, which may be missing. -/
def zone? (s : List Char) : Option (Option Int) :=
  match s, s.dropWhile (· == ' ') with
  | [], _ => some none
  | _, ['Z'] => some (some 0)
  | _, sign :: rest => do
    let (hours, rest) ← digits? 1 2 rest
    let (minutes, rest) ← if rest.isEmpty then some (0, []) else digits? 2 2 (← behind? ':' rest)
    let size := hours * 60 + minutes
    if !rest.isEmpty then none
    else if sign == '+' then some (some size)
    else if sign == '-' then some (some (-size))
    else none
  | _, [] => none

/-- A moment if there is such a moment. -/
def checkMoment (day : Day) (hour minute second : Int) (zone : Option Int) :
    Except YamlFault Unit := do
  match zone with
  | some minutes => if 1440 ≤ minutes.natAbs then throw (.noMoment (.offset minutes))
  | none => pure ()
  checkDay day
  if 23 < hour then throw (.noMoment .hour)
  if 59 < minute then throw (.noMoment .minute)
  if 59 < second then throw (.noMoment .second)

/-- The moment that a text has the form of. -/
def moment? (s : List Char) : Option (Except YamlFault Yaml) := do
  let (year, rest) ← digits? 4 4 s
  let (month, rest) ← digits? 1 2 (← behind? '-' rest)
  let (day, rest) ← digits? 1 2 (← behind? '-' rest)
  let (hour, rest) ← digits? 1 2 (← between? rest)
  let (minute, rest) ← digits? 2 2 (← behind? ':' rest)
  let (second, rest) ← digits? 2 2 (← behind? ':' rest)
  let (micro, rest) := fraction rest
  let zone ← zone? rest
  let day : Day := ⟨year, month, day⟩
  return (checkMoment day hour minute second zone).map fun _ =>
    .moment (.ofParts day hour minute second micro (zone.map (· * 60000000)))

/-- What a plain scalar means. The marks for merging and for a default value are no values. -/
def value (text : String) : Except YamlFault Yaml :=
  let s := text.toList
  match truth? text with
  | some truth => .ok (.bool truth)
  | none =>
    if isNothing text then .ok .null
    else if text = "<<" || text = "=" then .error .malformed
    else
      match float? s, int? s, (date? s).orElse fun _ => moment? s with
      | some size, _, _ => size.map fun size => .number (.float size)
      | none, some size, _ => size.map fun size => .number (.int size)
      | none, none, some time => time
      | none, none, none => .ok (.text text)

end Walkthrough.Yaml.Plain
