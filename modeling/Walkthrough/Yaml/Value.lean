import Walkthrough.Decimal.Length
import Walkthrough.Instant
import Walkthrough.Json.Basic
import Walkthrough.Text.Quoted

/-!
# YAML values

The values that a settings file can hold. A mapping may have keys of any kind, and there are dates;
JSON values are among them.
-/

namespace Walkthrough

/-- A YAML value. -/
inductive Yaml where
  | null
  | bool (value : Bool)
  | number (value : Number)
  | text (value : String)
  | date (value : Day)
  | moment (value : Instant)
  | list (items : List Yaml)
  | mapping (entries : List (Yaml × Yaml))

instance : Inhabited Yaml := ⟨.null⟩

namespace Yaml

mutual

/-- A JSON value as a YAML value. -/
def ofJson : Json → Yaml
  | .null => null
  | .bool value => bool value
  | .number value => number value
  | .text value => text value
  | .list items => list (ofJsonItems items)
  | .object fields => mapping (ofJsonFields fields)

/-- JSON items as YAML values. -/
def ofJsonItems : List Json → List Yaml
  | [] => []
  | item :: rest => ofJson item :: ofJsonItems rest

/-- JSON members as entries of a mapping. -/
def ofJsonFields : List (String × Json) → List (Yaml × Yaml)
  | [] => []
  | (name, value) :: rest => (text name, ofJson value) :: ofJsonFields rest

end

/-- The word for the kind of a value. -/
def kind : Yaml → String
  | null => "NoneType"
  | bool _ => "bool"
  | number (.int _) => "int"
  | number (.float _) => "float"
  | text _ => "str"
  | date _ => "datetime.date"
  | moment _ => "datetime.datetime"
  | list _ => "list"
  | mapping _ => "dict"

/-- Whether a value counts as yes: it is neither nothing, nor no, nor zero, nor empty. -/
def isTruthy : Yaml → Bool
  | null => false
  | bool value => value
  | number value => !value.isZero
  | text value => !value.isEmpty
  | date _ | moment _ => true
  | list items => !items.isEmpty
  | mapping entries => !entries.isEmpty

/-- A date spelled out by its parts. -/
def spellDay (day : Day) : String :=
  s!"datetime.date({day.year}, {day.month}, {day.day})"

/-- A moment spelled out by its parts; seconds and microseconds of zero are left out at the end. -/
def spellMoment (moment : Instant) : String :=
  let second := moment.secondOfDay % 60
  let micro := moment.microOfSecond
  let clock := s!"{moment.secondOfDay / 3600}, {moment.secondOfDay / 60 % 60}"
  let rest :=
    if micro ≠ 0 then s!", {second}, {micro}"
    else if second ≠ 0 then s!", {second}"
    else ""
  let zone := match moment.offset with
    | none => ""
    | some 0 => ", tzinfo=datetime.timezone.utc"
    | some ahead =>
      let seconds := ahead / 1000000
      let distance :=
        if seconds < 0 then s!"days=-1, seconds={86400 + seconds}" else s!"seconds={seconds}"
      s!", tzinfo=datetime.timezone(datetime.timedelta({distance}))"
  s!"datetime.datetime({moment.day.year}, {moment.day.month}, {moment.day.day}, " ++
    s!"{clock}{rest}{zone})"

mutual

/-- A value spelled out. -/
def spell : Yaml → String
  | null => "None"
  | bool value => if value then "True" else "False"
  | number value => value.text
  | text value => quoted value
  | date value => spellDay value
  | moment value => spellMoment value
  | list items => "[" ++ spellItems items ++ "]"
  | mapping entries => "\x7b" ++ spellEntries entries ++ "\x7d"

/-- Items spelled out, with commas between them. -/
def spellItems : List Yaml → String
  | [] => ""
  | [item] => spell item
  | item :: rest => spell item ++ ", " ++ spellItems rest

/-- Entries spelled out, with commas between them. -/
def spellEntries : List (Yaml × Yaml) → String
  | [] => ""
  | [(key, value)] => spell key ++ ": " ++ spell value
  | (key, value) :: rest => spell key ++ ": " ++ spell value ++ ", " ++ spellEntries rest

end

mutual

/-- Whether no number of a value is too long to be written. -/
def isWritable : Yaml → Bool
  | number (.int value) => Decimal.isWritable value
  | list items => areWritable items
  | mapping entries => haveWritable entries
  | _ => true

/-- Whether no number of some items is too long to be written. -/
def areWritable : List Yaml → Bool
  | [] => true
  | item :: rest => isWritable item && areWritable rest

/-- Whether no number of some entries is too long to be written. -/
def haveWritable : List (Yaml × Yaml) → Bool
  | [] => true
  | (key, value) :: rest => isWritable key && isWritable value && haveWritable rest

end

/-- The text that stands for a value. -/
def display : Yaml → String
  | text value => value
  | date value => (Instant.ofParts value 0 0 0 0 none).dateText "-"
  | moment value => value.spaced
  | value => value.spell

/-- Whether a key is the text `name`. -/
def isName (name : String) : Yaml → Bool
  | text value => value = name
  | _ => false

/-- The value of the entry of a name. -/
def entry? (name : String) (entries : List (Yaml × Yaml)) : Option Yaml :=
  (entries.find? fun entry => isName name entry.1).map (·.2)

/-- A number that a key or truth value equals. -/
def numeric? : Yaml → Option Number
  | bool value => some (.int (if value then 1 else 0))
  | number value => some value
  | _ => none

/-- Whether two keys are one: numbers and truth values by their size, moments by their universal
time, all else by kind and content. -/
def sameKey (a b : Yaml) : Bool :=
  match a, b with
  | null, null => true
  | text a, text b => a = b
  | date a, date b => a = b
  | moment a, moment b => a.isSame b
  | a, b =>
    match numeric? a, numeric? b with
    | some a, some b => a.sameSize b
    | _, _ => false

/-- Gives a key a value, in its place if it has one and at the end if it has none. -/
def putEntry (key value : Yaml) : List (Yaml × Yaml) → List (Yaml × Yaml)
  | [] => [(key, value)]
  | (old, before) :: rest =>
    if sameKey old key then (old, value) :: rest else (old, before) :: putEntry key value rest

end Yaml

end Walkthrough
