import Walkthrough.Text.Stream
import Walkthrough.Yaml.Cursor

/-!
# Where YAML comes from

A source is a text as far as it can be read. It is read in pieces, each of which is looked through
before anything of it is used; so a fault in a piece counts only if what comes before it is read to
its end.
-/

namespace Walkthrough.Yaml

/-- A text, and why there is no more of it, unless it ends there. -/
structure Source where
  chars : List Char
  stop : Option YamlFault := none

namespace Source

/-- The count of characters in a piece. -/
def pieceSize : Nat := 4096

/-- Characters, unless one of them may not stand in a YAML text. -/
def allowed (chars : List Char) : Except YamlFault (List Char) :=
  if chars.all isAllowed then .ok chars else .error .malformed

/-- The next piece of a stream. -/
def take (stream : TextStream) : Except YamlFault (List Char × TextStream) :=
  (stream.piece pieceSize).mapError .undecodable

/-- The next piece of a stream, looked through. -/
def takeAllowed (stream : TextStream) : Except YamlFault (List Char × TextStream) := do
  let (chars, stream) ← take stream
  return (← allowed chars, stream)

/-- The first piece of a stream, which is twice as long as the others. -/
def takeFirst (stream : TextStream) : Except YamlFault (List Char × TextStream) := do
  let (first, stream) ← take stream
  let (second, stream) ← take stream
  return (← allowed (first ++ second), stream)

/-- The source of a piece and of those that follow it. -/
def ofPieces : (fuel : Nat) → Except YamlFault (List Char × TextStream) → Source
  | _, .error fault => ⟨[], some fault⟩
  | 0, .ok (chars, _) => ⟨chars, none⟩
  | fuel + 1, .ok (chars, stream) =>
    if chars.isEmpty then ⟨[], none⟩
    else
      let rest := ofPieces fuel (takeAllowed stream)
      { rest with chars := chars ++ rest.chars }

/-- The source of octets. -/
def ofOctets (octets : List UInt8) : Source :=
  ofPieces (octets.length + 2) (takeFirst { octets })

end Source

end Walkthrough.Yaml
