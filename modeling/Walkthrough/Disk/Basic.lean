import Walkthrough.Disk.Path
import Walkthrough.Text.Quoted
import Walkthrough.Text.Utf8

/-!
# The disk

A disk is a tree of directories and files together with the directory that relative paths start at.
Operations refuse a path for one of a few reasons, and the wording of a refusal names the path. A
path with a flaw is not refused by the disk, since it is not even asked for it.
-/

namespace Walkthrough

/-- What a place on the disk holds. -/
inductive DiskNode where
  | directory
  | file (octets : List UInt8)
  /-- A file that is there but cannot be read, and why. -/
  | sealed (reason : String)
  deriving DecidableEq

/-- Why an operation on the disk is refused. -/
inductive DiskReason where
  | notFound
  | exists
  | notDirectory
  | isDirectory
  | nameTooLong
  /-- The path cannot be asked for. -/
  | notPath (flaw : PathFlaw)
  deriving DecidableEq

/-- A refused operation. -/
structure DiskFault where
  reason : DiskReason
  path : Path
  deriving DecidableEq

/-- The wording of a refusal. -/
def DiskFault.message (fault : DiskFault) : String :=
  match fault.reason with
  | .notFound => refusal "2" "No such file or directory"
  | .exists => refusal "17" "File exists"
  | .notDirectory => refusal "20" "Not a directory"
  | .isDirectory => refusal "21" "Is a directory"
  | .nameTooLong => refusal "36" "File name too long"
  | .notPath flaw => flaw.message
where
  /-- The wording with a code and what is wrong. -/
  refusal (code what : String) : String :=
    s!"[Errno {code}] {what}: {quoted fault.path.text}"

/-- Whether it is the disk that refuses. -/
def DiskFault.isRefusal (fault : DiskFault) : Bool :=
  match fault.reason with
  | .notPath _ => false
  | _ => true

/-- The most octets of a part of a path. -/
def maxPartSize : Nat := 255

/-- The most octets of a path. -/
def maxPathSize : Nat := 4095

/-- A tree of files: every place but the top one is listed with what it holds. -/
structure Disk where
  current : List String := []
  nodes : List (List String × DiskNode) := []

namespace Disk

/-- What is at a place. -/
def at? (disk : Disk) (place : List String) : Option DiskNode :=
  if place.isEmpty then some .directory
  else (disk.nodes.find? fun node => node.1 == place).map (·.2)

/-- The place that parts lead to from another, which has to be a directory while parts remain. No
directory takes a part that is too long. -/
def walk (disk : Disk) : List String → List String → Except DiskReason (List String)
  | place, [] => .ok place
  | place, part :: rest =>
    match disk.at? place with
    | some .directory =>
      if maxPartSize < Path.octetCount part then .error .nameTooLong
      else disk.walk (if part == ".." then place.dropLast else place ++ [part]) rest
    | some _ => .error .notDirectory
    | none => .error .notFound

/-- The place that a path leads to, whether something is there or not. -/
def place (disk : Disk) (path : Path) : Except DiskReason (List String) :=
  match path.flaw? with
  | some flaw => .error (.notPath flaw)
  | none =>
    if maxPathSize < Path.octetCount path.text then .error .nameTooLong
    else disk.walk (if path.isAbsolute then [] else disk.current) path.parts

/-- What a path leads to. A path that leads nowhere leads to nothing, but one that is too long is
refused. -/
def look (disk : Disk) (path : Path) : Except DiskFault (Option DiskNode) :=
  match disk.place path with
  | .ok place => .ok (disk.at? place)
  | .error .nameTooLong => .error ⟨.nameTooLong, path⟩
  | .error _ => .ok none

/-- Whether a path leads to a directory. -/
def isDirectory (disk : Disk) (path : Path) : Bool :=
  match disk.look path with
  | .ok (some .directory) => true
  | _ => false

/-- Whether a path leads to a file. -/
def isFile (disk : Disk) (path : Path) : Except DiskFault Bool := do
  match ← disk.look path with
  | some (.file _) | some (.sealed _) => return true
  | _ => return false

/-- The first of some paths that leads to a file. -/
def firstFile? (disk : Disk) : List Path → Except DiskFault (Option Path)
  | [] => .ok none
  | path :: rest => do if ← disk.isFile path then return some path else disk.firstFile? rest

/-- The disk with something new or different at a place. -/
def put (disk : Disk) (place : List String) (node : DiskNode) : Disk :=
  { disk with nodes := set disk.nodes }
where
  /-- The nodes with the one at the place replaced or added. -/
  set : List (List String × DiskNode) → List (List String × DiskNode)
    | [] => [(place, node)]
    | old :: rest => if old.1 == place then (place, node) :: rest else old :: set rest

/-- Makes one directory, whose parent has to be there. -/
def makeOne (disk : Disk) (path : Path) : Except DiskReason Disk :=
  match disk.place path with
  | .error reason => .error reason
  | .ok place =>
    match disk.at? place with
    | some _ => .error .exists
    | none => .ok (disk.put place .directory)

/-- Makes a directory and those it lies in; one that is there already is fine. -/
def makeWithin (disk : Disk) (root : String) : List String → Except DiskFault Disk
  | [] => attempt disk [] fun _ => .error ⟨.notFound, ⟨root, []⟩⟩
  | part :: lower => attempt disk (part :: lower) fun _ => do
      let disk ← disk.makeWithin root lower
      attempt disk (part :: lower) fun reason => .error ⟨reason, ⟨root, (part :: lower).reverse⟩⟩
where
  /-- Makes the directory of reversed parts, or does `otherwise` if what it lies in is missing. -/
  attempt (disk : Disk) (reversed : List String) (otherwise : DiskReason → Except DiskFault Disk) :
      Except DiskFault Disk :=
    let path : Path := ⟨root, reversed.reverse⟩
    match disk.makeOne path with
    | .ok disk => .ok disk
    | .error .notFound => otherwise .notFound
    | .error reason => if disk.isDirectory path then .ok disk else .error ⟨reason, path⟩

/-- Makes a directory and all that it lies in. -/
def makeDirectory (disk : Disk) (path : Path) : Except DiskFault Disk :=
  disk.makeWithin path.root path.parts.reverse

/-- Writes octets into a file, whose directory has to be there. -/
def write (disk : Disk) (path : Path) (octets : List UInt8) : Except DiskFault Disk :=
  match disk.place path with
  | .error reason => .error ⟨reason, path⟩
  | .ok place =>
    match disk.at? place with
    | some .directory => .error ⟨.isDirectory, path⟩
    | _ => .ok (disk.put place (.file octets))

end Disk

end Walkthrough
