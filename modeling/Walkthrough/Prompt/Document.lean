import Walkthrough.Prompt.Action
import Walkthrough.Prompt.Details
import Walkthrough.Prompt.Directive
import Walkthrough.Prompt.Header

/-!
# Prompts as documents

A prompt is read line by line. A header closes the step that is open and opens the next one, whose
block is made of the detail lines from there on; detail lines before the first header belong to no
step and are reported, unless they are the self-healing directive.
-/

namespace Walkthrough

/-- A step of a prompt. -/
structure Step where
  ordinal : Int
  description : String
  action : Action
  details : Details
  deriving DecidableEq

/-- A line of content that belongs to no step. -/
structure Miss where
  lineNumber : Nat
  text : String
  deriving DecidableEq

/-- Why a line belongs to no step. -/
def Miss.reason : String := "text before first step header"

/-- The steps of a prompt, the lines outside of them, and what it says about self-healing. -/
structure Document where
  steps : List Step := []
  misses : List Miss := []
  selfHealing : Option Bool := none
  deriving DecidableEq

/-- The step of a header and its block. -/
def Step.ofBlock (header : Header) (block : String) : Step where
  ordinal := header.ordinal
  description := header.title
  action := Action.ofTitle header.title
  details := Details.ofBlock block

/-- How far a prompt is read: the header that is open with the lines of its block so far, the steps
before it, and the misses. -/
structure Scan where
  opened : Option Header := none
  block : List String := []
  steps : List Step := []
  misses : List Miss := []

namespace Scan

/-- The steps once the open one, if there is one, is at its end. -/
def close (scan : Scan) : List Step :=
  match scan.opened with
  | some header => scan.steps ++ [Step.ofBlock header ("\n".intercalate scan.block)]
  | none => scan.steps

/-- Reads on over the line of a number: a header closes the open step and opens the next one, and a
detail line goes to the open step, or is a miss if none is open. -/
def read (scan : Scan) (number : Nat) (line : String) : Except LongOrdinal Scan :=
  match Header.ofLine? line with
  | .error fault => .error fault
  | .ok (some header) =>
    .ok { scan with opened := some header, block := [], steps := scan.close }
  | .ok none =>
    .ok <|
      if !isDetailLine line then scan
      else if scan.opened.isSome then { scan with block := scan.block ++ [trimmed line] }
      else if Directive.isDirective line then scan
      else { scan with misses := scan.misses ++ [⟨number, trimmed line⟩] }

/-- Reads on over lines, numbered from `number` on. -/
def readFrom (scan : Scan) (number : Nat) : List String → Except LongOrdinal Scan
  | [] => .ok scan
  | line :: rest =>
    match scan.read number line with
    | .error fault => .error fault
    | .ok after => after.readFrom (number + 1) rest

end Scan

/-- The document that a text is. -/
def Document.ofText (text : String) : Except LongOrdinal Document :=
  match Scan.readFrom {} 1 (linesOf text) with
  | .error fault => .error fault
  | .ok scan =>
    .ok { steps := scan.close, misses := scan.misses, selfHealing := Directive.ofText? text }

end Walkthrough
