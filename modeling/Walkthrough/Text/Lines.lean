import Walkthrough.Text.Class
import Walkthrough.Text.Code

/-!
# Lines, words and margins

Text as a list of characters, cut at line breaks or blanks and freed of blank margins.
-/

namespace Walkthrough.Text

/-- `s` without the blanks at its start. -/
def trimStart (s : List Char) : List Char :=
  s.dropWhile isBlank

/-- `s` without the blanks at its end. -/
def trimEnd (s : List Char) : List Char :=
  (s.reverse.dropWhile isBlank).reverse

/-- `s` without the blanks at both ends. -/
def trim (s : List Char) : List Char :=
  trimEnd (trimStart s)

/-- The lines of a text, without their breaks. A carriage return and a line feed after it are one
break, and a break at the very end opens no further line. -/
def lines : List Char → List (List Char)
  | [] => []
  | '\r' :: '\n' :: rest => [] :: lines rest
  | c :: rest =>
    if isLineBreak c then [] :: lines rest
    else match lines rest with
      | [] => [[c]]
      | line :: more => (c :: line) :: more

/-- The maximal runs of characters that are not blank. -/
def words : List Char → List (List Char)
  | [] => []
  | [c] => if isBlank c then [] else [[c]]
  | c :: d :: rest =>
    if isBlank c then words (d :: rest)
    else if isBlank d then [c] :: words (d :: rest)
    else match words (d :: rest) with
      | [] => [[c]]
      | word :: more => (c :: word) :: more

/-- Every carriage return, with the line feed after it if there is one, becomes a line feed. -/
def plainBreaks : List Char → List Char
  | [] => []
  | '\r' :: '\n' :: rest => '\n' :: plainBreaks rest
  | '\r' :: rest => '\n' :: plainBreaks rest
  | c :: rest => c :: plainBreaks rest

/-- Whether `needle` occurs in a text. -/
def occursIn (needle : List Char) : List Char → Bool
  | [] => needle.isEmpty
  | c :: rest => needle.isPrefixOf (c :: rest) || occursIn needle rest

end Walkthrough.Text

namespace Walkthrough

/-- `text` without the blanks at both ends. -/
def trimmed (text : String) : String :=
  String.ofList (Text.trim text.toList)

/-- Whether `needle` occurs in `text`. -/
def occurs (needle text : String) : Bool :=
  Text.occursIn needle.toList text.toList

/-- Whether `text` begins with `start`. -/
def beginsWith (start text : String) : Bool :=
  start.toList.isPrefixOf text.toList

/-- The lines of `text`, without their breaks. -/
def linesOf (text : String) : List String :=
  (Text.lines text.toList).map String.ofList

/-- The words of `text`. -/
def wordsOf (text : String) : List String :=
  (Text.words text.toList).map String.ofList

/-- `text` cut to at most `length` characters, three of them points if anything is left out. -/
def shortened (length : Nat) (text : String) : String :=
  let codes := Text.codes text.toList
  if codes.length ≤ length then text
  else String.ofList (Text.ofCodes (codes.take (length - 3))) ++ "..."

end Walkthrough
