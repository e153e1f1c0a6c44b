import Walkthrough.Text.Lines
import Walkthrough.Text.Utf8

/-!
# Text read piece by piece

A stream takes octets in portions and gives characters in pieces, with a line feed for each kind of
line break. Octets that are no text are thus found only once their portion is needed, and their
position is counted from the start of the portion, or of the character begun before it.
-/

namespace Walkthrough

/-- Octets of which a part has been taken. -/
structure TextStream where
  /-- The octets that are not yet taken. -/
  octets : List UInt8
  /-- The octets of a character that the last portion ended in. -/
  begun : List UInt8 := []
  /-- Whether the last portion ended with a carriage return, which waits for what follows. -/
  waiting : Bool := false
  /-- The characters that were taken but not yet given. -/
  ready : List Char := []
  /-- How many octets there were to a character in the last portion. -/
  density : Float := 0.0

namespace TextStream

/-- The least size of a portion. -/
def portionSize : Nat := 8192

/-- The size of a portion that should yield so many characters. -/
def sizeFor (stream : TextStream) (count : Nat) : Nat :=
  let density := if stream.density < 1.0 then 1.0 else stream.density
  max portionSize (density * count.toFloat).toUInt64.toNat

/-- Takes a portion that should yield so many characters. The last portion is empty. -/
def takePortion (stream : TextStream) (count : Nat) : Except Utf8.Fault TextStream := do
  let portion := stream.octets.take (stream.sizeFor count)
  let isLast := portion.isEmpty
  let octets := stream.begun ++ portion
  let (chars, begun) ← if isLast then (Utf8.decodeFrom 0 octets 0).map fun chars => (chars, [])
    else Utf8.decodeBegun octets
  let given := stream.waiting && (isLast || !chars.isEmpty)
  let chars := if given then '\r' :: chars else chars
  let ends := !isLast && chars.getLast? == some '\r'
  let chars := Text.plainBreaks (if ends then chars.dropLast else chars)
  return {
    octets := stream.octets.drop portion.length
    begun
    waiting := ends || (stream.waiting && !given)
    ready := chars
    density := if chars.isEmpty then 0.0 else portion.length.toFloat / chars.length.toFloat }

/-- Gives so many characters, or all that are left if there are fewer. -/
def give (stream : TextStream) : (fuel count : Nat) → Except Utf8.Fault (List Char × TextStream)
  | 0, _ => .ok ([], stream)
  | fuel + 1, count => do
    let chars := stream.ready.take count
    let stream := { stream with ready := stream.ready.drop count }
    let missing := count - chars.length
    if missing = 0 then return (chars, stream)
    let isLast := stream.octets.isEmpty
    let stream ← stream.takePortion missing
    if isLast && stream.ready.isEmpty then return (chars, stream)
    let (more, stream) ← stream.give fuel missing
    return (chars ++ more, stream)

/-- Gives a piece of so many characters, or all that are left if there are fewer. -/
def piece (stream : TextStream) (count : Nat) : Except Utf8.Fault (List Char × TextStream) :=
  stream.give (stream.octets.length + 3) count

end TextStream

end Walkthrough
