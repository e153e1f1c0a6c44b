import Walkthrough.Text.Utf8

/-!
# Paths

A path is a root and the parts below it. Empty parts and parts that are a single point mean nothing
and are left out; two points are kept, since only the disk knows what they lead to.
-/

namespace Walkthrough

/-- A path: relative if `root` is empty, else below one slash or exactly two. -/
structure Path where
  root : String := ""
  parts : List String := []
  deriving DecidableEq

/-- Why a path cannot be asked for. -/
inductive PathFlaw where
  /-- It holds the character that ends paths. -/
  | endsWithin
  /-- It has no octets. -/
  | unwritable (fault : Utf8.Unwritable)
  deriving DecidableEq

/-- What a flaw is called. -/
def PathFlaw.message : PathFlaw → String
  | endsWithin => "embedded null byte"
  | unwritable fault => fault.message

namespace Path

/-- The pieces of a text between slashes. -/
def splitSlashes : List Char → List (List Char)
  | [] => [[]]
  | c :: rest =>
    if c == '/' then [] :: splitSlashes rest
    else match splitSlashes rest with
      | [] => [[c]]
      | piece :: more => (c :: piece) :: more

/-- The path that a text names. -/
def ofText (text : String) : Path :=
  let s := text.toList
  let slashes := (s.takeWhile (· == '/')).length
  { root := if slashes = 0 then "" else if slashes = 2 then "//" else "/"
    parts := ((splitSlashes s).map String.ofList).filter fun part => part != "" && part != "." }

/-- The text of a path. -/
def text (path : Path) : String :=
  if path.root.isEmpty && path.parts.isEmpty then "."
  else path.root ++ "/".intercalate path.parts

/-- Whether a path starts at a root. -/
def isAbsolute (path : Path) : Bool :=
  !path.root.isEmpty

/-- Whether a code is that of a half which a path writes as a single octet, so that even octets that
are no text can be named. -/
def hasOctet (code : Nat) : Bool :=
  0xDC80 ≤ code && code < 0xDD00

/-- The count of octets of a text in a path. -/
def octetCount (text : String) : Nat :=
  (Text.codes text.toList).foldl (fun count code =>
    count + if hasOctet code then 1 else (Utf8.encodeCode code).length) 0

/-- Why a path cannot be asked for, if it cannot. -/
def flaw? (path : Path) : Option PathFlaw :=
  match Utf8.unwritableFrom? hasOctet 0 (Text.codes path.text.toList) with
  | some fault => some (.unwritable fault)
  | none => if path.text.toList.contains '\x00' then some .endsWithin else none

/-- Whether a path can be asked for at all. -/
def isProper (path : Path) : Bool :=
  path.flaw?.isNone

/-- `below` seen from `path`; a path with a root stays what it is. -/
def join (path below : Path) : Path :=
  if below.isAbsolute then below else ⟨path.root, path.parts ++ below.parts⟩

/-- The path that `below` names, seen from `path`. -/
def child (path : Path) (below : String) : Path :=
  path.join (ofText below)

/-- The path without its last part. -/
def parent (path : Path) : Path :=
  ⟨path.root, path.parts.dropLast⟩

/-- The last part. -/
def name (path : Path) : String :=
  path.parts.getLast?.getD ""

/-- The last part without what follows its last point, unless the point is at an end of it. -/
def stem (path : Path) : String :=
  let reversed := path.name.toList.reverse
  let suffix := reversed.takeWhile (· != '.')
  let before := reversed.drop (suffix.length + 1)
  if suffix.isEmpty || before.isEmpty then path.name else String.ofList before.reverse

/-- A path and all that it lies in, the nearest first. -/
def ancestry (path : Path) : List Path :=
  (inits path.parts).reverse.map fun parts => ⟨path.root, parts⟩
where
  /-- All beginnings of a list, the shortest first. -/
  inits : List String → List (List String)
    | [] => [[]]
    | part :: rest => [] :: (inits rest).map (part :: ·)

end Path

end Walkthrough
