import Walkthrough.Decimal.Reading
import Walkthrough.Text.Code

/-!
# Instants

A date and a time of day to the microsecond, with its distance from universal time if that is known.
-/

namespace Walkthrough

/-- Microseconds of the local date and time since the start of 1970, and those that it is ahead of
universal time. -/
structure Instant where
  micros : Int
  offset : Option Int := some 0
  deriving DecidableEq

/-- A day of the calendar. -/
structure Day where
  year : Int
  month : Int
  day : Int
  deriving DecidableEq

namespace Day

/-- The days from the start of 1970 to a day. Years are counted from March, so that the day that
leap years add is the last. -/
def number (d : Day) : Int :=
  let year := if d.month ≤ 2 then d.year - 1 else d.year
  let era := year / 400
  let yearOfEra := year % 400
  let dayOfYear := (153 * ((d.month + 9) % 12) + 2) / 5 + d.day - 1
  era * 146097 + (yearOfEra * 365 + yearOfEra / 4 - yearOfEra / 100 + dayOfYear) - 719468

/-- The day that is so many days after the start of 1970. -/
def ofNumber (n : Int) : Day :=
  let shifted := n + 719468
  let era := shifted / 146097
  let dayOfEra := shifted % 146097
  let yearOfEra :=
    (dayOfEra - dayOfEra / 1460 + dayOfEra / 36524 - dayOfEra / 146096) / 365
  let dayOfYear := dayOfEra - (365 * yearOfEra + yearOfEra / 4 - yearOfEra / 100)
  let fromMarch := (5 * dayOfYear + 2) / 153
  let month := if fromMarch < 10 then fromMarch + 3 else fromMarch - 9
  { year := yearOfEra + era * 400 + (if month ≤ 2 then 1 else 0)
    month
    day := dayOfYear - (153 * fromMarch + 2) / 5 + 1 }

end Day

namespace Instant

/-- A number with zeros before it up to a width. -/
def padded (width : Nat) (n : Int) : String :=
  let digits := (Nat.toDigits 10 n.natAbs)
  String.ofList (List.replicate (width - digits.length) '0' ++ digits)

/-- The instant of a day and a time of day. -/
def ofParts (day : Day) (hour minute second micro : Int) (offset : Option Int) : Instant :=
  ⟨(((day.number * 24 + hour) * 60 + minute) * 60 + second) * 1000000 + micro, offset⟩

/-- The day of an instant. -/
def day (instant : Instant) : Day :=
  Day.ofNumber (instant.micros / 86400000000)

/-- The seconds since the start of the day. -/
def secondOfDay (instant : Instant) : Int :=
  instant.micros / 1000000 % 86400

/-- The microseconds since the start of the second. -/
def microOfSecond (instant : Instant) : Int :=
  instant.micros % 1000000

/-- The date, its parts joined by `mark`. -/
def dateText (mark : String) (instant : Instant) : String :=
  padded 4 instant.day.year ++ mark ++ padded 2 instant.day.month ++ mark ++
    padded 2 instant.day.day

/-- The time of day to the second, its parts joined by `mark`. -/
def timeText (mark : String) (instant : Instant) : String :=
  padded 2 (instant.secondOfDay / 3600) ++ mark ++ padded 2 (instant.secondOfDay / 60 % 60) ++
    mark ++ padded 2 (instant.secondOfDay % 60)

/-- The distance from universal time, with seconds and their fraction only where there are any. -/
def offsetText (instant : Instant) : String :=
  match instant.offset with
  | none => ""
  | some ahead =>
    let seconds : Int := ahead.natAbs / 1000000
    let micro : Int := ahead.natAbs % 1000000
    let fraction := if micro = 0 then "" else "." ++ padded 6 micro
    let rest :=
      if seconds % 60 = 0 && micro = 0 then "" else ":" ++ padded 2 (seconds % 60) ++ fraction
    (if ahead < 0 then "-" else "+") ++ padded 2 (seconds / 3600) ++ ":" ++
      padded 2 (seconds / 60 % 60) ++ rest

/-- The date and the time to the second, with `between` in the middle. -/
def secondsText (between : String) (instant : Instant) : String :=
  instant.dateText "-" ++ between ++ instant.timeText ":" ++ instant.offsetText

/-- The date and the time, with microseconds only where there are any. -/
def fullText (between : String) (instant : Instant) : String :=
  let fraction :=
    if instant.microOfSecond = 0 then "" else "." ++ padded 6 instant.microOfSecond
  instant.dateText "-" ++ between ++ instant.timeText ":" ++ fraction ++ instant.offsetText

/-- An instant in the form of the standard. -/
def iso (instant : Instant) : String :=
  instant.fullText "T"

/-- An instant in the form of the standard without its fraction of a second. -/
def isoSeconds (instant : Instant) : String :=
  instant.secondsText "T"

/-- An instant with a blank between date and time. -/
def spaced (instant : Instant) : String :=
  instant.fullText " "

/-- Digits that stand for one run, as in the name of a run. -/
def stamp (instant : Instant) : String :=
  instant.dateText "" ++ "-" ++ instant.timeText ""

/-- Whether two instants are one: their universal times are, or their local times if neither knows
its distance from universal time. -/
def isSame (a b : Instant) : Bool :=
  match a.offset, b.offset with
  | none, none => a.micros = b.micros
  | some aheadA, some aheadB => a.micros - aheadA = b.micros - aheadB
  | _, _ => false

/-- The instant that is so many seconds later, to the nearest microsecond. The fraction of a second
is counted in microseconds as a double, and a half of one goes to the even neighbour. -/
def later (instant : Instant) (seconds : Float) : Instant :=
  match Decimal.Kind.ofFloat seconds with
  | .finite value =>
    let whole := value.truncate
    match Decimal.Kind.ofFloat ((seconds - Decimal.ofInt whole) * 1000000.0) with
    | .finite rest =>
      let size : Int := Decimal.roundQuotient rest.numerator rest.denominator
      let micros := whole * 1000000 + (if rest.negative then -size else size)
      { instant with micros := instant.micros + micros }
    | _ => instant
  | _ => instant

/-- The number of the digits at the start of `s`, if there are exactly `count`. -/
def number? (count : Nat) (s : List Char) : Option (Int × List Char) :=
  let digits := s.take count
  if digits.length = count && digits.all Char.isDigit then
    some (digits.foldl (fun n c => 10 * n + ((c.toNat - '0'.toNat : Nat) : Int)) 0, s.drop count)
  else none

/-- What is left of `s` behind a mark that may stand there. -/
def passMark (mark : Char) (s : List Char) : List Char :=
  match s with
  | c :: rest => if c == mark then rest else s
  | [] => []

/-- The fraction of a second at the start of `s` in microseconds; further digits are cut off. -/
def fraction (s : List Char) : Int × List Char :=
  match s with
  | c :: rest =>
    if c == '.' || c == ',' then
      let digits := rest.takeWhile Char.isDigit
      let six := (digits ++ List.replicate 6 '0').take 6
      (six.foldl (fun n c => 10 * n + ((c.toNat - '0'.toNat : Nat) : Int)) 0,
        rest.drop digits.length)
    else (0, s)
  | [] => (0, [])

/-- The time of day at the start of `s` in microseconds: an hour, with minutes, seconds and a
fraction as far as they are stated. -/
def clock? (s : List Char) : Option (Int × List Char) := do
  let (hour, rest) ← number? 2 s
  let (minute, rest) := (number? 2 (passMark ':' rest)).getD (0, rest)
  let (second, rest) := (number? 2 (passMark ':' rest)).getD (0, rest)
  let (micro, rest) := fraction rest
  return (((hour * 60 + minute) * 60 + second) * 1000000 + micro, rest)

/-- The distance from universal time that `s` states; less than a second counts as none. -/
def offset? (s : List Char) : Option (Option Int) :=
  match s with
  | [] => some none
  | ['Z'] => some (some 0)
  | sign :: rest => do
    let (size, _) ← clock? rest
    let size := if size < 1000000 then 0 else size
    if sign == '+' then some (some size) else if sign == '-' then some (some (-size)) else none

/-- The instant that a text in the form of the standard states; a date alone stands for its
start. -/
def ofIso? (text : String) : Option Instant := do
  let (year, rest) ← number? 4 ((Text.codes text.toList).map Char.ofNat)
  let (month, rest) ← number? 2 (passMark '-' rest)
  let (day, rest) ← number? 2 (passMark '-' rest)
  let (time, rest) ← if rest.isEmpty then some (0, []) else clock? (rest.drop 1)
  let offset ← offset? rest
  return ⟨(ofParts ⟨year, month, day⟩ 0 0 0 0 none).micros + time, offset⟩

end Instant

end Walkthrough
