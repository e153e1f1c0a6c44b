import Walkthrough.Fault

/-!
# Prompt files

A prompt file is read as UTF-8, whatever its line breaks.
-/

namespace Walkthrough

/-- The text of octets, with a line feed for each kind of line break. -/
def decodeText (octets : List UInt8) : Except Utf8.Fault String :=
  (Utf8.decode octets).map fun text => String.ofList (Text.plainBreaks text.toList)

/-- The document of octets. -/
def Document.ofOctets (octets : List UInt8) : Except LoadFault Document := do
  let text ← (decodeText octets).mapError .undecodable
  (Document.ofText text).mapError .longOrdinal

/-- The document in the prompt file of a path. -/
def Disk.document (disk : Disk) (path : Path) : Except LoadFault Document :=
  match disk.look path with
  | .ok (some (.file octets)) => Document.ofOctets octets
  | .ok (some (.sealed reason)) => .error (.unreadable path reason)
  | .ok (some .directory) | .ok none => .error (.missing path)
  | .error fault => .error (.refused fault)

end Walkthrough
