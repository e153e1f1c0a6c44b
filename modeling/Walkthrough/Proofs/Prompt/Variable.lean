import Walkthrough.Proofs.Text.Letters
import Walkthrough.Proofs.Text.Place
import Walkthrough.Prompt.Details

/-!
# The variable that a block names

The name of the variable that takes a result stands behind a phrase such as `into variable`. What is
taken for the name is a whole word of the block unless it follows the phrase with nothing between
them (`Walkthrough.Details.storeAs_wholeWord_iff`); then it is the rest of a longer word.
-/

namespace Walkthrough.Details

open Text Text.Pattern

/-- The phrase that a variable is named behind. -/
def storePhrase : Pattern :=
  either
    (all [word "into", gap, word "variable"])
    (all [word "in", gap, optional (word "a"), gap, optional (all [word "global", gap]),
      word "variable", gap, word "calle", optional (word "d")])

/-- What may stand between the phrase and the name. -/
def storeMarks : List Pattern :=
  [many isBlank, many (fun c => c == '→' || c == '-'), many isBlank, optional (one isNameQuote)]

/-- The name itself, and the quote behind it. -/
def storeName : List Pattern :=
  [keep (oneOrMore isWord), optional (one isNameQuote)]

/-- What stands before the name. -/
def storeFront : List Pattern :=
  word "Store" :: few isInline :: storePhrase :: storeMarks

theorem storePattern_eq : storePattern = all (storeFront ++ storeName) := rfl

/-- A text at whose end a variable is about to be named, without a mark behind the phrase. -/
def EndsPhrase (s : List Char) : Prop :=
  ∃ front phrase, s = front ++ phrase ∧ storePhrase.Matches phrase []

/-- A block whose name of a variable is captured between `before` and `after`. -/
structure Captures (block : String) (before name after : List Char) : Prop where
  split : block.toList = before ++ (name ++ after)
  place : storePattern.keptPlace? block.toList = some ⟨name ++ after, after⟩

section Marks

variable {s : List Char} {kept : List (List Char)}

theorem isWord_of_isNameQuote {c : Char} (quote : isNameQuote c = true) : isWord c = false := by
  simp only [isNameQuote, Bool.or_eq_true, beq_iff_eq] at quote
  rcases quote with rfl | rfl <;> decide

/-- No mark belongs to a word. -/
theorem isWord_of_marks (fits : (all storeMarks).Matches s kept) : ∀ c ∈ s, isWord c = false := by
  have dashes (c : Char) (mark : (c == '→' || c == '-') = true) : isWord c = false := by
    simp only [Bool.or_eq_true, beq_iff_eq] at mark
    rcases mark with rfl | rfl <;> decide +kernel
  have only : (all storeMarks).Only (isWord · = false) :=
    ⟨fun _ => isWord_of_isBlank, dashes, fun _ => isWord_of_isBlank,
      ⟨fun _ => isWord_of_isNameQuote, trivial⟩, trivial⟩
  exact holds_of_only only fits

/-- The phrase ends with a letter. -/
theorem endsWith_storePhrase : EndsWith (isWord · = true) storePhrase := by
  have ending (front : List Char) {last : Char} (plain : isPlainLetter (foldLetter last) = true)
      (lower : (foldLetter last).isLower = true) :
      EndsWith (isWord · = true) (letters (front ++ [last])) :=
    .letters fun _ => isWord_of_sameLetter plain lower
  have called : EndsWith (isWord · = true) (all [word "calle", optional (word "d")]) := by
    have e : EndsWith (isWord · = true) (word "calle") :=
      ending "call".toList (by decide) (by decide)
    have d : EndsWith (isWord · = true) (word "d") :=
      ending [] (by decide) (by decide)
    exact e.optional d
  have whole : EndsWith (isWord · = true) (word "variable") :=
    ending "variabl".toList (by decide) (by decide)
  exact .either (whole.single.all_append [word "into", gap])
    (called.all_append [word "in", gap, optional (word "a"), gap,
      optional (all [word "global", gap]), word "variable", gap])

end Marks

section Name

variable {s : List Char} {kept : List Place}

/-- The name is the whole run of word characters from its start on. -/
theorem exists_of_storeName {found : List Place}
    (run : (all storeName).runPlaces (fun kept _ => some kept) kept s = some found) :
    ∃ name after, s = name ++ after ∧ name ≠ [] ∧ (∀ c ∈ name, isWord c = true) ∧
      (∀ c ∈ after.head?, isWord c = false) ∧ found = kept ++ [⟨s, after⟩] := by
  -- The quote behind the name is taken or left out, but never refuses the match.
  have quote (kept : List Place) (rest : List Char) :
      (all [optional (one isNameQuote)]).runPlaces (fun kept _ => some kept) kept rest =
        some kept := by
    cases rest with
    | nil => rfl
    | cons c more =>
        change Option.or (if isNameQuote c then some kept else none) (some kept) = some kept
        split
        · rfl
        · rfl
  cases s with
  | nil => cases run
  | cons c rest =>
      change (if isWord c then runMany isWord (fun late =>
        (all [optional (one isNameQuote)]).runPlaces (fun kept _ => some kept)
          (kept ++ [⟨c :: rest, late⟩]) late) rest else none) = some found at run
      simp only [quote] at run
      split at run
      · next first =>
          rw [runMany_of_total (fun _ => rfl)] at run
          refine ⟨c :: rest.takeWhile isWord, rest.dropWhile isWord, ?_, by simp, ?_,
            head?_dropWhile, (Option.some.inj run).symm⟩
          · rw [List.cons_append, List.takeWhile_append_dropWhile]
          · exact List.forall_mem_cons.mpr ⟨first, fun _ => List.mem_takeWhile_imp⟩
      · cases run

/-- What stands before the name is the phrase and the marks behind it, after other text. -/
theorem exists_of_storeFront {kept : List (List Char)} (fits : (all storeFront).Matches s kept) :
    ∃ front phrase marks, s = front ++ (phrase ++ marks) ∧ storePhrase.Matches phrase [] ∧
      (all storeMarks).Matches marks [] := by
  obtain ⟨store, _, _, _, rfl, -, -, fits⟩ := matches_seq.mp fits
  obtain ⟨between, _, _, _, rfl, -, -, fits⟩ := matches_seq.mp fits
  obtain ⟨phrase, marks, _, _, rfl, -, fitsPhrase, fitsMarks⟩ := matches_seq.mp fits
  rw [eq_nil_of_keepsNothing (by decide) fitsPhrase] at fitsPhrase
  rw [eq_nil_of_keepsNothing (by decide) fitsMarks] at fitsMarks
  exact ⟨store ++ between, phrase, marks, (List.append_assoc ..).symm, fitsPhrase, fitsMarks⟩

end Name

/-- A text that the front of the pattern fits ends with a word character exactly if it ends with the
phrase. -/
theorem getLast?_storeFront {s : List Char} {kept : List (List Char)}
    (fits : (all storeFront).Matches s kept) (before : List Char) :
    (∀ c ∈ (before ++ s).getLast?, isWord c = false) ↔ ¬EndsPhrase (before ++ s) := by
  obtain ⟨front, phrase, marks, rfl, fitsPhrase, fitsMarks⟩ := exists_of_storeFront fits
  constructor
  · rintro apart ⟨other, late, same, fitsLate⟩
    obtain ⟨c, last, inWord⟩ := EndsWith.last endsWith_storePhrase fitsLate
    rw [same] at apart
    rw [apart c (List.mem_getLast?_append_of_mem_getLast? last)] at inWord
    cases inWord
  · intro apart c last
    rcases List.eq_nil_or_concat marks with rfl | ⟨early, mark, rfl⟩
    · refine absurd ⟨before ++ front, phrase, ?_, fitsPhrase⟩ apart
      simp
    · refine isWord_of_marks fitsMarks c ?_
      have : c = mark := by simpa [← List.append_assoc, eq_comm] using last
      simp [this]

/-- The name of the variable is captured up to the end of a word. It is captured from the start of
the word exactly if it does not follow the phrase with nothing between them. -/
theorem storeAs_wholeWord_iff {block name : String}
    (stated : (ofBlock block).storeAs = some name) :
    ∃ before after, Captures block before name.toList after ∧
      name.toList ≠ [] ∧ (∀ c ∈ name.toList, isWord c = true) ∧
      (∀ c ∈ after.head?, isWord c = false) ∧
      ((∀ c ∈ before.getLast?, isWord c = false) ↔ ¬EndsPhrase before) := by
  obtain ⟨text, kept, rfl⟩ := Option.map_eq_some_iff.mp stated
  rw [keep?_eq_keptPlace?] at kept
  obtain ⟨place, found, rfl⟩ := Option.map_eq_some_iff.mp kept
  obtain ⟨places, search, first⟩ := Option.bind_eq_some_iff.mp found
  obtain ⟨early, late, split, run⟩ := exists_of_leftmost search
  rw [storePattern_eq, runPlaces_all_append,
    runPlaces_of_keepsNothing (by decide +kernel) _ [] []] at run
  obtain ⟨taken, rest, _, rfl, fits, ended⟩ := matches_of_run run
  obtain ⟨name, after, rfl, nonempty, inWord, stops, rfl⟩ := exists_of_storeName ended
  obtain rfl : ⟨name ++ after, after⟩ = place := Option.some.inj first
  have bare : trim name = name := trim_eq_self
    ⟨fun c first => isBlank_of_isWord (inWord c (List.mem_of_mem_head? first)),
      fun c last => isBlank_of_isWord (inWord c (List.mem_of_getLast? last))⟩
  have same : (trimmed (String.ofList (Place.text ⟨name ++ after, after⟩))).toList = name := by
    rw [trimmed, String.toList_ofList, String.toList_ofList, Place.text_append, bare]
  rw [same]
  exact ⟨early ++ taken, after, ⟨by rw [split, List.append_assoc], found⟩, nonempty, inWord, stops,
    getLast?_storeFront fits early⟩

/-- A name behind an arrow is a whole word. -/
theorem storeAs_wholeWord_arrow :
    (ofBlock "Store the id into variable → newId").storeAs = some "newId" ∧
      ∃ before after,
        Captures "Store the id into variable → newId" before "newId".toList after ∧
        "newId".toList ≠ [] ∧ (∀ c ∈ "newId".toList, isWord c = true) ∧
        (∀ c ∈ after.head?, isWord c = false) ∧
        ((∀ c ∈ before.getLast?, isWord c = false) ↔ ¬EndsPhrase before) :=
  have stated : (ofBlock "Store the id into variable → newId").storeAs = some "newId" := by
    decide +kernel
  ⟨stated, storeAs_wholeWord_iff stated⟩

/-- Where no name follows the phrase, the end of the phrase itself is taken for one. -/
theorem storeAs_ofPhrase :
    ((ofBlock "Store it in a variable called").storeAs = some "d" ∧
        Captures "Store it in a variable called" "Store it in a variable calle".toList ['d'] []) ∧
      ((ofBlock "Store the ids into variables").storeAs = some "s" ∧
        Captures "Store the ids into variables" "Store the ids into variable".toList ['s'] []) ∧
      isWord 'e' = true :=
  ⟨⟨by decide +kernel, by decide +kernel, by decide +kernel⟩,
    ⟨by decide +kernel, by decide +kernel, by decide +kernel⟩, by decide +kernel⟩

end Walkthrough.Details
