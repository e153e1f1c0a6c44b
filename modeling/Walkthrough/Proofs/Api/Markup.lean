import Walkthrough.Api.Markup
import Walkthrough.Proofs.Text.Finding
import Walkthrough.Proofs.Text.Letters

/-!
# Elements of a name

The text of an element is what stands between its two tags, if that is not empty and opens no other
tag (`Walkthrough.Markup.BeginsWithElement`). Blanks next to the tags can be matched in several
ways, but all of them keep the same text but for its margins
(`Walkthrough.Markup.element_of_matches`). So what is extracted is the text of the leftmost such
element without its margins (`Walkthrough.Markup.extract?_leftmost`).
-/

namespace Walkthrough.Markup

open Text Text.Pattern

/-- The tag before an element of a name. -/
def openingTag (name : List Char) : List Char :=
  '<' :: name ++ ['>']

/-- The tag behind an element of a name. -/
def closingTag (name : List Char) : List Char :=
  '<' :: '/' :: name ++ ['>']

/-- A text begins with an element of a name: between the tags, which are spelled in either case,
there are characters, and none of them opens a tag. -/
def BeginsWithElement (name content s : List Char) : Prop :=
  ∃ opening closing rest, s = opening ++ (content ++ (closing ++ rest)) ∧
    SameLetters (openingTag name) opening ∧ content ≠ [] ∧ '<' ∉ content ∧
    SameLetters (closingTag name) closing

/-- A text begins with an element of a name, whatever it holds. -/
def HasElement (name s : List Char) : Prop :=
  ∃ content, BeginsWithElement name content s

variable {name content other s : List Char}

section Content

/-- Only the sign itself opens a tag. -/
theorem exists_of_sameLetters {sign : Char} (lies : liesIn signRanges sign = true)
    (spelled : SameLetters (sign :: s) other) : ∃ rest, other = sign :: rest := by
  obtain ⟨c, rest, same, -, rfl⟩ := List.forall₂_cons_left_iff.mp spelled
  exact ⟨rest, by rw [(sameLetter_iff_eq lies).mp same]⟩

theorem isContent_iff {text : List Char} : (∀ c ∈ text, isContent c = true) ↔ '<' ∉ text := by
  constructor
  · intro opens member
    exact absurd (opens '<' member) (by decide)
  · intro plain c member
    rw [isContent, bne_iff_ne]
    intro same
    exact plain (same ▸ member)

/-- The text of an element ends where the next tag begins. -/
theorem takeWhile_content {closing rest : List Char} (plain : '<' ∉ content)
    (closes : SameLetters (closingTag name) closing) :
    (content ++ (closing ++ rest)).takeWhile isContent = content := by
  obtain ⟨more, rfl⟩ := exists_of_sameLetters (by decide) closes
  rw [List.takeWhile_append_of_pos (isContent_iff.mpr plain), List.cons_append,
    List.takeWhile_cons_of_neg (by decide), List.append_nil]

/-- There is one text that a text begins with an element of. -/
theorem BeginsWithElement.content_eq (element : BeginsWithElement name content s)
    (another : BeginsWithElement name other s) : content = other := by
  obtain ⟨opening, closing, rest, rfl, opens, -, plain, closes⟩ := element
  obtain ⟨first, last, more, same, opensFirst, -, plainOther, closesLast⟩ := another
  have length : opening.length = first.length :=
    opens.length_eq.symm.trans opensFirst.length_eq
  have behind := (List.append_inj same length).2
  rw [← takeWhile_content plain closes, behind, takeWhile_content plainOther closesLast]

end Content

section Matching

variable {taken rest : List Char} {kept : List (List Char)}

theorem matches_content :
    (seq (one isContent) (few isContent)).Matches s kept ↔ s ≠ [] ∧ '<' ∉ s ∧ kept = [] := by
  rw [matches_seq, ← isContent_iff]
  constructor
  · intro fits
    obtain ⟨front, back, early, late, rfl, rfl, first, others⟩ := fits
    obtain ⟨⟨c, accepted, rfl⟩, rfl⟩ := matches_one.mp first
    cases others with
    | few allAccepted => exact ⟨by simp, List.forall_mem_cons.mpr ⟨accepted, allAccepted⟩, rfl⟩
  · intro fits
    obtain ⟨nonempty, accepted, rfl⟩ := fits
    obtain ⟨c, more, rfl⟩ := List.exists_cons_of_ne_nil nonempty
    obtain ⟨first, others⟩ := List.forall_mem_cons.mp accepted
    exact ⟨[c], more, [], [], rfl, rfl, .one first, .few others⟩

/-- A stretch fits the pattern of an element if its tags do, and blanks are left out next to
them. -/
theorem matches_elementPattern {name : String} :
    (elementPattern name).Matches taken kept ↔
      ∃ opening front text back closing,
        taken = opening ++ (front ++ (text ++ (back ++ closing))) ∧ kept = [text] ∧
        SameLetters (openingTag name.toList) opening ∧ (∀ c ∈ front, isBlank c = true) ∧
        (text ≠ [] ∧ '<' ∉ text) ∧ (∀ c ∈ back, isBlank c = true) ∧
        SameLetters (closingTag name.toList) closing := by
  have inside (t : List Char) (more : List (List Char)) :
      (seq (one isContent) (few isContent)).Matches t more ↔ (t ≠ [] ∧ '<' ∉ t) ∧ more = [] := by
    rw [matches_content, and_assoc]
  simp only [elementPattern, all, List.foldr_cons, List.foldr_nil, matches_keep_of_silent inside,
    matches_seq_of_silent (fun _ _ => matches_letters),
    matches_seq_of_silent (fun _ _ => matches_many), matches_empty]
  constructor
  · rintro ⟨opening, _, rfl, opens, front, _, rfl, blank, text, _, _, rfl, rfl, content, back, _, rfl,
      blankBack, closing, _, rfl, closes, rfl, rfl⟩
    exact ⟨opening, front, text, back, closing, by rw [List.append_nil], rfl, opens, blank, content,
      blankBack, closes⟩
  · rintro ⟨opening, front, text, back, closing, rfl, rfl, opens, blank, content, blankBack, closes⟩
    exact ⟨opening, _, rfl, opens, front, _, rfl, blank, text, _, [], rfl, rfl, content, back,
      closing, rfl, blankBack, closing, [], (List.append_nil _).symm, closes, rfl, rfl⟩

/-- Whichever way an element is matched, what is kept is its text but for the margins. -/
theorem element_of_matches {name : String} (fits : (elementPattern name).Matches taken kept)
    (rest : List Char) :
    ∃ content text, BeginsWithElement name.toList content (taken ++ rest) ∧ kept = [text] ∧
      trim text = trim content := by
  obtain ⟨opening, front, text, back, closing, rfl, rfl, opens, blank, ⟨nonempty, plain⟩, blankBack,
    closes⟩ := matches_elementPattern.mp fits
  have apart {blanks : List Char} (all : ∀ c ∈ blanks, isBlank c = true) : '<' ∉ blanks :=
    fun member => absurd (all '<' member) (by decide)
  refine ⟨front ++ (text ++ back), text, ⟨opening, closing, rest, ?_, opens, ?_, ?_, closes⟩, rfl,
    ?_⟩
  · simp only [List.append_assoc]
  · simp [nonempty]
  · simp only [List.mem_append, not_or]
    exact ⟨apart blank, plain, apart blankBack⟩
  · rw [trim_blanks_append blank, trim_append_blanks blankBack]

/-- An element is matched. -/
theorem fitsFront_iff {name : String} :
    (elementPattern name).FitsFront s ↔ HasElement name.toList s := by
  constructor
  · intro fits
    obtain ⟨taken, rest, kept, rfl, fits⟩ := fits
    obtain ⟨content, -, element, -, -⟩ := element_of_matches fits rest
    exact ⟨content, element⟩
  · intro element
    obtain ⟨content, opening, closing, rest, rfl, opens, nonempty, plain, closes⟩ := element
    refine ⟨opening ++ (content ++ closing), rest, [content], by simp, ?_⟩
    exact matches_elementPattern.mpr ⟨opening, [], content, [], closing, rfl, rfl, opens, by simp,
      ⟨nonempty, plain⟩, by simp, closes⟩

end Matching

/-- A search keeps the text of the leftmost element but for its margins. -/
theorem element_of_search {name : String} {kept : List (List Char)}
    (found : (elementPattern name).search s = some kept) :
    ∃ place content text, IsLeftmost (HasElement name.toList) s place ∧
      BeginsWithElement name.toList content place ∧ kept = [text] ∧ trim text = trim content := by
  obtain ⟨place, taken, rest, leftmost, rfl, fits⟩ := exists_of_search found
  obtain ⟨content, text, element, single, same⟩ := element_of_matches fits rest
  exact ⟨taken ++ rest, content, text, (IsLeftmost.congr fun _ => fitsFront_iff).mp leftmost,
    element, single, same⟩

theorem extract?_of_search {markup name : String} {text : List Char}
    (found : (elementPattern name).search markup.toList = some [text]) :
    extract? markup name = some (String.ofList (trim text)) := by
  rw [extract?, keep?, found]
  simp [trimmed]

theorem extract?_eq_some_iff {markup name value : String} :
    extract? markup name = some value ↔
      ∃ place content, IsLeftmost (HasElement name.toList) markup.toList place ∧
        BeginsWithElement name.toList content place ∧ value = trimmed (String.ofList content) := by
  constructor
  · intro extracted
    obtain ⟨text, keeps, -⟩ := Option.map_eq_some_iff.mp extracted
    obtain ⟨kept, found, -⟩ := keep?_eq_some_iff.mp keeps
    obtain ⟨place, content, inner, leftmost, element, rfl, same⟩ := element_of_search found
    rw [extract?_of_search found, same] at extracted
    refine ⟨place, content, leftmost, element, ?_⟩
    rw [trimmed, String.toList_ofList]
    exact (Option.some.inj extracted).symm
  · intro stands
    obtain ⟨place, content, leftmost, element, rfl⟩ := stands
    obtain ⟨kept, found⟩ := exists_search leftmost.suffix (fitsFront_iff.mpr leftmost.here)
    obtain ⟨other, inner, text, another, elementOther, rfl, same⟩ := element_of_search found
    obtain rfl := leftmost.eq another
    obtain rfl := element.content_eq elementOther
    rw [extract?_of_search found, same, trimmed, String.toList_ofList]

theorem extract?_eq_none_iff {markup name : String} :
    extract? markup name = none ↔
      ∀ place, place <:+ markup.toList → ¬HasElement name.toList place := by
  have search : extract? markup name = none ↔
      (elementPattern name).search markup.toList = none := by
    constructor
    · intro missing
      rw [Option.eq_none_iff_forall_ne_some]
      intro kept found
      obtain ⟨-, -, text, -, -, rfl, -⟩ := element_of_search found
      rw [extract?_of_search found] at missing
      cases missing
    · intro fails
      rw [extract?, keep?, fails]
      rfl
  rw [search, search_eq_none_iff]
  simp only [fitsFront_iff]

/-- **The text of the leftmost element.** For a name of any characters, what is extracted is the
text between the tags at the leftmost place where an element of the name begins, without its
margins, and nothing if there is no such place. There is one such text at a place. So what is
extracted has no margins and holds no tag, and the signs in a name stand for themselves alone. -/
theorem extract?_leftmost (markup name : String) :
    (∀ value, extract? markup name = some value ↔
      ∃ place content, IsLeftmost (HasElement name.toList) markup.toList place ∧
        BeginsWithElement name.toList content place ∧ value = trimmed (String.ofList content)) ∧
    (extract? markup name = none ↔
      ∀ place, place <:+ markup.toList → ¬HasElement name.toList place) ∧
    (∀ place content other, BeginsWithElement name.toList content place →
      BeginsWithElement name.toList other place → content = other) ∧
    (∀ value, extract? markup name = some value → IsTrim value.toList ∧ '<' ∉ value.toList) ∧
    ∀ sign, liesIn signRanges sign = true → ∀ c, sameLetter sign c = true ↔ c = sign := by
  refine ⟨fun value => extract?_eq_some_iff, extract?_eq_none_iff,
    fun _ _ _ element another => element.content_eq another, fun value extracted => ?_,
    fun sign lies c => sameLetter_iff_eq lies⟩
  obtain ⟨place, content, -, ⟨opening, closing, rest, -, -, -, plain, -⟩, rfl⟩ :=
    extract?_eq_some_iff.mp extracted
  rw [trimmed, String.toList_ofList, String.toList_ofList]
  exact ⟨isTrim_trim content, fun member => plain (mem_of_mem_trim member)⟩

end Walkthrough.Markup
