import Walkthrough.Proofs.Prompt.Scan
import Walkthrough.Proofs.Text.Utf8
import Walkthrough.Prompt.File

/-!
# Which files hold a prompt

A document is read from a file exactly if its octets are UTF-8 and no header in it has a number of
too many digits (`Walkthrough.Disk.document_ok_iff`). The fault that says that there is no prompt
file is the one for a path that leads to nothing, to a directory or to a file that cannot be read
(`Walkthrough.Disk.document_ofFile_iff`); text that cannot be decoded, a number that is too long and
a path that is too long have faults of their own.
-/

namespace Walkthrough

/-- The text of a file of characters. -/
def fileText (chars : List Char) : String :=
  String.ofList (Text.plainBreaks (Text.ofChars chars))

theorem decodeText_eq_ok_iff {octets : List UInt8} {text : String} :
    decodeText octets = .ok text ↔
      ∃ chars, octets = chars.flatMap String.utf8EncodeChar ∧ text = fileText chars := by
  rw [decodeText, Utf8.decode]
  cases decoded : Utf8.decodeFrom 0 octets 0 with
  | error fault =>
      refine iff_of_false (by rintro ⟨⟩) ?_
      rintro ⟨chars, encoded, -⟩
      rw [Utf8.decodeFrom_eq_ok_iff.mpr encoded] at decoded
      cases decoded
  | ok chars =>
      have encoded := Utf8.decodeFrom_eq_ok_iff.mp decoded
      simp only [Except.map, Except.ok.injEq, String.toList_ofList]
      constructor
      · intro same
        exact ⟨chars, encoded, same.symm⟩
      · rintro ⟨others, otherwise, rfl⟩
        rw [Utf8.decodeFrom_eq_ok_iff.mpr otherwise] at decoded
        cases decoded
        rfl

/-- No header of a text has a number of more digits than are read. -/
def Document.IsReadable (text : String) : Prop :=
  ∀ line ∈ linesOf text, ∀ digits title, Header.parts? line.toList = some (digits, title) →
    digits.length ≤ Decimal.maxDigits

theorem Header.ofLine?_ok_iff {line : String} :
    (∃ header?, Header.ofLine? line = .ok header?) ↔
      ∀ digits title, Header.parts? line.toList = some (digits, title) →
        digits.length ≤ Decimal.maxDigits := by
  unfold Header.ofLine?
  cases Header.parts? line.toList with
  | none => simp
  | some parts =>
      obtain ⟨digits, title⟩ := parts
      by_cases long : Decimal.maxDigits < digits.length
      · simp only [long, if_true]
        exact iff_of_false (by rintro ⟨_, ⟨⟩⟩) fun short => by
          have := short digits title rfl
          omega
      · simp only [long, if_false]
        refine iff_of_true ⟨_, rfl⟩ ?_
        rintro _ _ ⟨⟩
        omega

/-- A text is a document exactly if the numbers of its headers can be read. -/
theorem Document.ofText_ok_iff {text : String} :
    (∃ document, Document.ofText text = .ok document) ↔ Document.IsReadable text := by
  have readable : (∀ line ∈ linesOf text, ∃ header?, Header.ofLine? line = .ok header?) ↔
      Document.IsReadable text :=
    forall₂_congr fun _ _ => Header.ofLine?_ok_iff
  rw [← readable]
  constructor
  · rintro ⟨document, read⟩
    unfold Document.ofText at read
    split at read
    · cases read
    · next scanned => exact Scan.readable_of_readFrom scanned
  · intro lines
    obtain ⟨cut⟩ := Sections.exist lines
    exact ⟨_, Document.ofText_of_sections cut⟩

namespace Document

variable {octets : List UInt8}

theorem ofOctets_of_error {fault : Utf8.Fault} (failed : decodeText octets = .error fault) :
    ofOctets octets = .error (.undecodable fault) := by
  rw [ofOctets, failed]
  rfl

theorem ofOctets_of_ok {text : String} (decoded : decodeText octets = .ok text) :
    ofOctets octets = (ofText text).mapError .longOrdinal := by
  rw [ofOctets, decoded]
  rfl

/-- Octets are a document exactly if they are UTF-8 and the numbers of the headers can be read. -/
theorem ofOctets_ok_iff :
    (∃ document, ofOctets octets = .ok document) ↔
      ∃ chars, octets = chars.flatMap String.utf8EncodeChar ∧ IsReadable (fileText chars) := by
  cases decoded : decodeText octets with
  | error fault =>
      rw [ofOctets_of_error decoded]
      refine iff_of_false (by rintro ⟨_, ⟨⟩⟩) ?_
      rintro ⟨chars, encoded, -⟩
      rw [decodeText_eq_ok_iff.mpr ⟨chars, encoded, rfl⟩] at decoded
      cases decoded
  | ok text =>
      have kept : (∃ document, ofOctets octets = .ok document) ↔
          ∃ document, ofText text = .ok document := by
        rw [ofOctets_of_ok decoded]
        cases ofText text with
        | error => exact iff_of_false (by rintro ⟨_, ⟨⟩⟩) (by rintro ⟨_, ⟨⟩⟩)
        | ok document => exact iff_of_true ⟨_, rfl⟩ ⟨_, rfl⟩
      rw [kept, ofText_ok_iff]
      constructor
      · intro readable
        obtain ⟨chars, encoded, rfl⟩ := decodeText_eq_ok_iff.mp decoded
        exact ⟨chars, encoded, readable⟩
      · rintro ⟨chars, encoded, readable⟩
        rw [decodeText_eq_ok_iff.mpr ⟨chars, encoded, rfl⟩] at decoded
        cases decoded
        exact readable

/-- Octets that are no document are not said to be no file. -/
theorem isOfFile_of_ofOctets {fault : LoadFault} (failed : ofOctets octets = .error fault) :
    fault.isOfFile = false := by
  cases decoded : decodeText octets with
  | error =>
      rw [ofOctets_of_error decoded] at failed
      cases failed
      rfl
  | ok text =>
      rw [ofOctets_of_ok decoded] at failed
      cases read : ofText text with
      | error =>
          rw [read] at failed
          cases failed
          rfl
      | ok =>
          rw [read] at failed
          cases failed

end Document

namespace Disk

variable {disk : Disk} {path : Path}

/-- A path leads to a file of characters in UTF-8 whose headers have numbers that can be read. -/
def Holds (disk : Disk) (path : Path) : Prop :=
  ∃ chars, disk.look path = .ok (some (.file (chars.flatMap String.utf8EncodeChar))) ∧
    Document.IsReadable (fileText chars)

/-- There is no file at a path, or none that can be read. -/
inductive Withholds (disk : Disk) (path : Path) : Prop
  | nothing : disk.look path = .ok none → Withholds disk path
  | directory : disk.look path = .ok (some .directory) → Withholds disk path
  | sealed {reason : String} : disk.look path = .ok (some (.sealed reason)) → Withholds disk path

theorem Withholds.not_holds (withholds : disk.Withholds path) : ¬ disk.Holds path := by
  rintro ⟨chars, found, -⟩
  rcases withholds with other | other | other
  all_goals
    rw [found] at other
    cases other

/-- A document is read from what a path leads to exactly if that is a prompt. -/
theorem document_ok_iff : (∃ document, disk.document path = .ok document) ↔ disk.Holds path := by
  unfold document Holds
  split
  · next octets found =>
      rw [found, Document.ofOctets_ok_iff]
      simp only [Except.ok.injEq, Option.some.injEq, DiskNode.file.injEq]
  all_goals
    next found =>
      rw [found]
      simp

/-- The fault is that there is no prompt file exactly if there is no file or none that can be
read. -/
theorem document_ofFile_iff :
    (∃ cause, disk.document path = .error cause ∧ cause.isOfFile = true) ↔
      disk.Withholds path := by
  constructor
  · rintro ⟨cause, failed, ofFile⟩
    unfold document at failed
    split at failed
    · rw [Document.isOfFile_of_ofOctets failed] at ofFile
      cases ofFile
    · next found => exact .sealed found
    · next found => exact .directory found
    · next found => exact .nothing found
    · cases failed
      cases ofFile
  · intro withholds
    unfold document
    rcases withholds with found | found | found
    all_goals
      rw [found]
      exact ⟨_, rfl, rfl⟩

end Disk

end Walkthrough
