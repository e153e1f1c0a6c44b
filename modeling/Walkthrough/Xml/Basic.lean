import Walkthrough.Text.Code

/-!
# XML

Elements with attributes that hold either a text or further elements. Written out, each element that
lies in another stands on a line of its own, two blanks further in.
-/

namespace Walkthrough

/-- An XML element: its name, its attributes in order, and its text or what lies in it. -/
inductive Xml where
  | leaf (name : String) (attributes : List (String × String)) (text : String)
  | branch (name : String) (attributes : List (String × String)) (children : List Xml)

namespace Xml

/-- A code without a spelling of its own: half a character is referred to by its number. -/
def plainCode (code : Nat) : List Char :=
  if Text.isHalf code then "&#".toList ++ (toString code).toList ++ [';'] else Text.kept code

/-- A code of an attribute as it is written. -/
def attributeCode (code : Nat) : List Char :=
  match Char.ofNat code with
  | '&' => "&amp;".toList
  | '<' => "&lt;".toList
  | '>' => "&gt;".toList
  | '"' => "&quot;".toList
  | '\r' => "&#13;".toList
  | '\n' => "&#10;".toList
  | '\t' => "&#09;".toList
  | _ => plainCode code

/-- A code of a text as it is written. -/
def textCode (code : Nat) : List Char :=
  match Char.ofNat code with
  | '&' => "&amp;".toList
  | '<' => "&lt;".toList
  | '>' => "&gt;".toList
  | _ => plainCode code

/-- The start of an element up to its attributes. -/
def opening (name : String) (attributes : List (String × String)) : List Char :=
  '<' :: name.toList ++ attributes.flatMap fun (name, value) =>
    ' ' :: name.toList ++ ['=', '"'] ++ (Text.codes value.toList).flatMap attributeCode ++ ['"']

/-- The end of an element. -/
def closing (name : String) : List Char :=
  ['<', '/'] ++ name.toList ++ ['>']

/-- A new line at a level. -/
def newLine (level : Nat) : List Char :=
  '\n' :: List.replicate (2 * level) ' '

mutual

/-- An element at a level. -/
def write (level : Nat) : Xml → List Char
  | leaf name attributes text =>
    if text.isEmpty then opening name attributes ++ [' ', '/', '>']
    else opening name attributes ++ '>' :: (Text.codes text.toList).flatMap textCode ++ closing name
  | branch name attributes [] => opening name attributes ++ [' ', '/', '>']
  | branch name attributes (child :: rest) =>
    opening name attributes ++ '>' :: writeAll (level + 1) (child :: rest) ++ newLine level ++
      closing name

/-- Elements on lines of their own at a level. -/
def writeAll (level : Nat) : List Xml → List Char
  | [] => []
  | child :: rest => newLine level ++ write level child ++ writeAll level rest

end

/-- A document with one element at its root. -/
def document (root : Xml) : String :=
  "<?xml version='1.0' encoding='utf-8'?>\n" ++ String.ofList (root.write 0)

end Xml

end Walkthrough
