import Walkthrough.Text.Class
import Walkthrough.Text.Table.Case
import Walkthrough.Text.Table.Cased

/-!
# Letters without their case

Lower and upper case of text, and the relations by which patterns take two letters for the same and
headers two names.
-/

namespace Walkthrough.Text

/-- The shift that a table of case runs has for the code point `n`. -/
def shift? (runs : List (Nat × Nat × Nat × Int)) (n : Nat) : Option Int :=
  (runs.find? fun run => run.1 ≤ n && n ≤ run.2.1 && (n - run.1) % run.2.2.1 == 0).map (·.2.2.2)

/-- `c` moved along the run of the table that holds it. -/
def shiftCase (runs : List (Nat × Nat × Nat × Int)) (c : Char) : Char :=
  match shift? runs c.toNat with
  | some shift => Char.ofNat (c.toNat + shift).toNat
  | none => c

/-- The one small letter of a letter; the dotted capital I counts as an I. -/
def lowerLetter (c : Char) : Char :=
  if c.toNat < 0x80 then c.toLower
  else if c.toNat = 0x130 then 'i'
  else shiftCase Table.lowering c

/-- The small form of a character: the dotted capital I keeps its dot as a mark of its own. -/
def lowerForm (c : Char) : List Char :=
  if c.toNat = 0x130 then ['i', Char.ofNat 0x307] else [lowerLetter c]

/-- Text in small letters. A capital sigma becomes the medial small one at every position. -/
def lower (s : List Char) : List Char :=
  s.flatMap lowerForm

/-- Whether a text starts with a letter that has a case, but for what is passed over. -/
def startsCased (s : List Char) : Bool :=
  (s.dropWhile (liesIn Table.passedOver)).head?.any (liesIn Table.cased)

/-- The small form of text after what comes before it, which is given backwards. A capital sigma
becomes the final small one at the end of a word. -/
def lowerAfter (before : List Char) : List Char → List Char
  | [] => []
  | c :: rest =>
    let form :=
      if c == 'Σ' && startsCased before && !startsCased rest then ['ς'] else lowerForm c
    form ++ lowerAfter (c :: before) rest

/-- Text in small letters as it is spelled, with final sigmas at the ends of words. -/
def lowerSpelled (s : List Char) : List Char :=
  lowerAfter [] s

/-- The capital form of a character, which may be longer than one character. -/
def upperForm (c : Char) : List Char :=
  if c.toNat < 0x80 then [c.toUpper]
  else match Table.expanding.find? (·.1 == c.toNat) with
    | some (_, form) => form.map Char.ofNat
    | none => [shiftCase Table.raising c]

/-- Text in capitals. -/
def upper (s : List Char) : List Char :=
  s.flatMap upperForm

/-- The representative of the letters that count as the same letter whatever their case. -/
def foldLetter (c : Char) : Char :=
  let small := lowerLetter c
  match Table.sharingCapital.find? (·.contains small.toNat) with
  | some (least :: _) => Char.ofNat least
  | _ => small

/-- Two characters are the same letter up to case. -/
def sameLetter (a b : Char) : Bool :=
  foldLetter a == foldLetter b

/-- Two names are one whatever their case. -/
def sameName (a b : String) : Bool :=
  lowerSpelled a.toList == lowerSpelled b.toList

theorem lower_append (s t : List Char) : lower (s ++ t) = lower s ++ lower t := by
  simp [lower]

theorem upper_append (s t : List Char) : upper (s ++ t) = upper s ++ upper t := by
  simp [upper]

theorem sameLetter_refl (c : Char) : sameLetter c c = true := by
  simp [sameLetter]

theorem sameName_comm (a b : String) : sameName a b = sameName b a := by
  simp [sameName, Bool.beq_comm]

theorem sameLetter_comm (a b : Char) : sameLetter a b = sameLetter b a := by
  simp [sameLetter, Bool.beq_comm]

end Walkthrough.Text
