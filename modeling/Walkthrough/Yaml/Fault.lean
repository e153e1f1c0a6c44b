import Walkthrough.Decimal.Length
import Walkthrough.Text.Quoted
import Walkthrough.Text.Utf8

/-!
# Faults of YAML texts

Most texts that are no YAML are simply malformed. Octets may be no text at all, and a text may be
well formed and yet name a number, a character or a moment that there is not.
-/

namespace Walkthrough

/-- The part of a moment that is out of its range. -/
inductive MomentPart where
  | year
  | month
  | day
  | hour
  | minute
  | second
  /-- The distance from universal time, in minutes. -/
  | offset (minutes : Int)
  deriving DecidableEq

/-- Why a text has no YAML value. -/
inductive YamlFault where
  | malformed
  /-- The text ends inside of something. -/
  | cutOff
  /-- The octets are no text. -/
  | undecodable (fault : Utf8.Fault)
  /-- An escape names a character beyond the last. -/
  | noCharacter
  /-- An escape names a number beyond those that characters are looked up by. -/
  | noCode
  /-- A number of a base has no digits. -/
  | noDigits (base : Nat)
  /-- A decimal number has more digits than are read. -/
  | longNumber (digits : Nat)
  /-- A place of a number to the base 60 weighs more than the largest double. -/
  | heavyPlace
  /-- A date or time of day is out of range. -/
  | noMoment (part : MomentPart)
  /-- A collection lies in too many others. -/
  | tooDeep
  deriving DecidableEq

/-- A span of minutes in days and seconds, as it is spelled out. -/
def spellSpan (minutes : Int) : String :=
  let days := minutes / 1440
  let seconds := 60 * (minutes % 1440)
  let parts := (if days = 0 then [] else [s!"days={days}"]) ++
    (if seconds = 0 then [] else [s!"seconds={seconds}"])
  "datetime.timedelta(" ++ ", ".intercalate parts ++ ")"

namespace MomentPart

/-- The wording for a part that is out of its range. -/
def message : MomentPart → String
  | year => "year 0 is out of range"
  | month => "month must be in 1..12"
  | day => "day is out of range for month"
  | hour => "hour must be in 0..23"
  | minute => "minute must be in 0..59"
  | second => "second must be in 0..59"
  | offset minutes =>
    "offset must be a timedelta strictly between -timedelta(hours=24) and timedelta(hours=24), " ++
      "not " ++ spellSpan minutes ++ "."

end MomentPart

namespace YamlFault

/-- What a fault says. -/
def message : YamlFault → String
  | malformed | cutOff => ""
  | undecodable fault => fault.message
  | noCharacter => "chr() arg not in range(0x110000)"
  | noCode => "Python int too large to convert to C int"
  | noDigits base => s!"invalid literal for int() with base {base}: " ++ quoted ""
  | longNumber digits => Decimal.lengthMessage digits
  | heavyPlace => Decimal.tooLargeMessage
  | noMoment part => part.message
  | tooDeep => "maximum recursion depth exceeded"

end YamlFault

end Walkthrough
