import Walkthrough.Text.Quoted

/-!
# UTF-8

Octets read as text, and text written as octets. What is not UTF-8 is refused with the place and the
reason: an octet that starts no character, one that continues none, or an end inside a character.
Half a character has no octets, so a text that holds one is refused as well.
-/

namespace Walkthrough.Utf8

/-- Why octets are no text. -/
inductive Reason where
  | badStart
  | badContinuation
  | endsEarly
  deriving DecidableEq

/-- The octets from `first` on, `count` of them, are no text. -/
structure Fault where
  first : Nat
  count : Nat
  octet : Nat
  reason : Reason
  deriving DecidableEq

/-- The wording of a reason. -/
def Reason.message : Reason → String
  | badStart => "invalid start byte"
  | badContinuation => "invalid continuation byte"
  | endsEarly => "unexpected end of data"

/-- The two hexadecimal digits of an octet. -/
def octetText (octet : Nat) : String :=
  let digits := Nat.toDigits 16 octet
  String.ofList (List.replicate (2 - digits.length) '0' ++ digits)

/-- The wording of a fault. -/
def Fault.message (fault : Fault) : String :=
  let place :=
    if fault.count = 1 then s!"byte 0x{octetText fault.octet} in position {fault.first}"
    else s!"bytes in position {fault.first}-{fault.first + fault.count - 1}"
  s!"'utf-8' codec can't decode {place}: {fault.reason.message}"

/-- Whether an octet continues a character. -/
def isContinuation (octet : Nat) : Bool :=
  0x80 ≤ octet && octet < 0xC0

/-- How many octets follow the first of a character. -/
def following? (octet : Nat) : Option Nat :=
  if octet < 0x80 then some 0
  else if octet < 0xC2 then none
  else if octet < 0xE0 then some 1
  else if octet < 0xF0 then some 2
  else if octet < 0xF5 then some 3
  else none

/-- Whether the second octet of a character may follow the first: no character has two forms, none
is a surrogate, and none lies beyond the last plane. -/
def maySecond (first second : Nat) : Bool :=
  isContinuation second &&
    !((first == 0xE0 && second < 0xA0) || (first == 0xED && 0xA0 ≤ second) ||
      (first == 0xF0 && second < 0x90) || (first == 0xF4 && 0x90 ≤ second))

/-- The payload of the first octet of a character with so many to follow. -/
def payload (octet following : Nat) : Nat :=
  match following with
  | 0 => octet
  | 1 => octet % 0x20
  | 2 => octet % 0x10
  | _ => octet % 0x08

/-- Reads the octets that continue a character: its code and what is left of them, or how many were
good before the fault. `first` is the octet before if the next one is the second. -/
def continueWith (first : Option Nat) : (following code good : Nat) → List UInt8 →
    Except (Nat × Reason) (Nat × List UInt8)
  | 0, code, _, rest => .ok (code, rest)
  | _ + 1, _, good, [] => .error (good, .endsEarly)
  | following + 1, code, good, octet :: rest =>
    let n := octet.toNat
    let fits := match first with
      | some start => maySecond start n
      | none => isContinuation n
    if fits then continueWith none following (code * 0x40 + n % 0x40) (good + 1) rest
    else .error (good, .badContinuation)

/-- The characters of octets; `skipped` of them belong to the character before. -/
def decodeFrom (position : Nat) : List UInt8 → (skipped : Nat) → Except Fault (List Char)
  | [], _ => .ok []
  | _ :: rest, skipped + 1 => decodeFrom (position + 1) rest skipped
  | octet :: rest, 0 =>
    let n := octet.toNat
    match following? n with
    | none => .error ⟨position, 1, n, .badStart⟩
    | some following =>
      match continueWith (some n) following (payload n following) 1 rest with
      | .error (good, reason) => .error ⟨position, good, n, reason⟩
      | .ok (code, _) => do
        let more ← decodeFrom (position + 1) rest following
        return Char.ofNat code :: more

/-- The text of octets. -/
def decode (octets : List UInt8) : Except Fault String :=
  (decodeFrom 0 octets 0).map fun chars => String.ofList (Text.ofChars chars)

/-- Whether octets are the first two of half a character, which are told from the start of a
character only with the third. -/
def isHalfBegun (octets : List UInt8) : Bool :=
  match octets with
  | [first, second] => first == 0xED && isContinuation second.toNat && 0xA0 ≤ second
  | _ => false

/-- Whether a fault may be due to what is missing behind the octets. -/
def Fault.mayEnd (fault : Fault) (octets : List UInt8) : Bool :=
  fault.reason = .endsEarly || isHalfBegun (octets.drop fault.first)

/-- The characters of octets that may end inside a character, and the octets of that character. -/
def decodeBegun (octets : List UInt8) : Except Fault (List Char × List UInt8) :=
  match decodeFrom 0 octets 0 with
  | .ok chars => .ok (chars, [])
  | .error fault =>
    if fault.mayEnd octets then
      (decodeFrom 0 (octets.take fault.first) 0).map fun chars => (chars, octets.drop fault.first)
    else .error fault

/-- The octets of a code. -/
def encodeCode (code : Nat) : List UInt8 :=
  let following (places : Nat) : UInt8 := (0x80 + code / Nat.pow 0x40 places % 0x40).toUInt8
  if code < 0x80 then [code.toUInt8]
  else if code < 0x800 then [(0xC0 + code / 0x40).toUInt8, following 0]
  else if code < 0x10000 then [(0xE0 + code / 0x1000).toUInt8, following 1, following 0]
  else [(0xF0 + code / 0x40000).toUInt8, following 2, following 1, following 0]

/-- The octets of a text that can be written. -/
def encode (text : String) : List UInt8 :=
  (Text.codes text.toList).flatMap encodeCode

/-- Halves of characters without octets: one of the code `half` at the position `first`, and those
right behind it, `count` in all. -/
structure Unwritable where
  first : Nat
  count : Nat
  half : Nat
  deriving DecidableEq

/-- The wording for halves without octets. -/
def Unwritable.message (fault : Unwritable) : String :=
  let place :=
    if fault.count = 1 then s!"character {shown} in position {fault.first}"
    else s!"characters in position {fault.first}-{fault.first + fault.count - 1}"
  s!"'utf-8' codec can't encode {place}: surrogates not allowed"
where
  /-- The half in quotes. -/
  shown : String := quoted (String.ofList (Text.kept fault.half))

/-- The first halves without octets among codes from a position on; `hasOctet` tells which halves
are written all the same. -/
def unwritableFrom? (hasOctet : Nat → Bool) : (position : Nat) → List Nat → Option Unwritable
  | _, [] => none
  | position, code :: rest =>
    if Text.isHalf code && !hasOctet code then
      some ⟨position, (rest.takeWhile Text.isHalf).length + 1, code⟩
    else unwritableFrom? hasOctet (position + 1) rest

/-- Why a text cannot be written. -/
def unwritable? (text : String) : Option Unwritable :=
  unwritableFrom? (fun _ => false) 0 (Text.codes text.toList)

end Walkthrough.Utf8
