import Walkthrough.Proofs.Text.Preference
import Walkthrough.Proofs.Text.Search
import Walkthrough.Prompt.Target

/-!
# Quoted text

A quoted text ends at the first quote of any kind, whichever kind it began with
(`Walkthrough.Details.validateText_inQuotes`, `Walkthrough.Details.label?_inQuotes`), and it never
holds a quote (`Walkthrough.Details.unquoted_of_keep?`). So it is taken whole exactly if no quote of
another kind is in it (`Walkthrough.Details.validateText_inQuotes_iff`,
`Walkthrough.Details.label?_inQuotes_iff`).
-/

namespace Walkthrough

/-- A text between two quotes of a kind. -/
def inQuotes (quote : Char) (text : String) : String :=
  String.singleton quote ++ text ++ String.singleton quote

namespace Details

open Text Text.Pattern

/-- Both kinds of quoted text end with a text between quotes. -/
def quotedPatterns : List Pattern :=
  [one isQuote, keep (oneOrMore isUnquoted), one isQuote]

section Unquoted

/-- What is kept between quotes holds no quote. -/
theorem unquoted_of_keep? {front : List Pattern} (silent : (all front).keepsNothing = true)
    {text value : String} (found : (all (front ++ quotedPatterns)).keep? text = some value) :
    ∀ c ∈ value.toList, isQuote c = false := by
  obtain ⟨kept, search, first⟩ := keep?_eq_some_iff.mp found
  rw [search_eq_leftmost] at search
  obtain ⟨before, rest, -, run⟩ := exists_of_leftmost search
  rw [run_all_append] at run
  obtain ⟨taken, late, more, -, fits, ended⟩ := matches_of_run run
  rw [eq_nil_of_keepsNothing silent fits] at ended
  obtain ⟨quoted, _, others, -, fitsQuoted, result⟩ := matches_of_run ended
  cases result
  simp only [quotedPatterns, all, List.foldr_cons, List.foldr_nil, matches_seq, matches_one,
    matches_keep, matches_oneOrMore, matches_empty] at fitsQuoted
  obtain ⟨_, _, _, _, -, rfl, ⟨-, rfl⟩, part, _, _, _, -, rfl, ⟨_, rfl, -, unquoted, rfl⟩, -⟩ :=
    fitsQuoted
  obtain rfl : part = value.toList := Option.some.inj first
  exact fun c member => by simpa [isUnquoted] using unquoted c member

theorem isQuote_of_label? {details : Details} {label : String}
    (stated : details.label? = some label) : ∀ c ∈ label.toList, isQuote c = false :=
  @unquoted_of_keep? [word "Click", oneOrMore isBlank] (by decide) _ _ stated

/-- The text to look for is one between quotes, without its margins. -/
theorem exists_of_validateText {block value : String}
    (stated : (ofBlock block).validateText = some value) :
    ∃ text, value = trimmed text ∧ ∀ c ∈ text.toList, isQuote c = false := by
  obtain ⟨text, kept, rfl⟩ := Option.map_eq_some_iff.mp stated
  exact ⟨text, rfl, @unquoted_of_keep? [_, few isInline] (by decide) _ _ kept⟩

end Unquoted

section Whole

theorem isBlank_of_isQuote {c : Char} (quote : isQuote c = true) : isBlank c = false := by
  simp only [isQuote, Bool.or_eq_true, beq_iff_eq] at quote
  rcases quote with (rfl | rfl) | rfl <;> decide

variable {opening closing : Char} {part : List Char}

/-- Between two quotes a text without quotes is what the patterns prefer. -/
theorem preferred_quoted (opens : isQuote opening = true) (closes : isQuote closing = true)
    (nonempty : part ≠ []) (unquoted : ∀ c ∈ part, isQuote c = false) (rest : List Char) :
    Preferred (all quotedPatterns) ([opening] ++ (part ++ ([closing] ++ []))) rest [part] := by
  refine .skip (.one opens) (.take ?_ (.skip (.one closes) .done))
  refine preferred_oneOrMore nonempty (fun c member => by simp [isUnquoted, unquoted c member]) ?_
  rintro _ ⟨⟩
  simp [isUnquoted, closes]

/-- After the word for clicking, a quoted text is the label. -/
theorem search_labelPattern (opens : isQuote opening = true) (closes : isQuote closing = true)
    (nonempty : part ≠ []) (unquoted : ∀ c ∈ part, isQuote c = false) (rest : List Char) :
    Target.labelPattern.search ("Click ".toList ++ opening :: (part ++ closing :: rest)) =
      some [part] := by
  have path : Preferred Target.labelPattern
      ("Click".toList ++ ([' '] ++ ([opening] ++ (part ++ ([closing] ++ []))))) rest [part] := by
    have blank : ∀ c ∈ [' '], isBlank c = true := List.forall_mem_singleton.mpr (by decide)
    refine .skip (preferred_letters _ _) (.skip (preferred_oneOrMore (by simp) blank ?_) ?_)
    · rintro _ ⟨⟩
      exact isBlank_of_isQuote opens
    · exact preferred_quoted opens closes nonempty unquoted rest
  have found := search_of_front? (front?_of_preferred path)
  simpa using found

/-- After a word for checking, a quoted text is what is looked for. -/
theorem search_validatePattern (opens : isQuote opening = true) (closes : isQuote closing = true)
    (nonempty : part ≠ []) (unquoted : ∀ c ∈ part, isQuote c = false) (rest : List Char) :
    validatePattern.search ("Verify ".toList ++ opening :: (part ++ closing :: rest)) =
      some [part] := by
  have verify : Preferred (anyOf [word "Check", word "Verify", word "Validate", word "Ensure"])
      "Verify".toList (' ' :: opening :: (part ++ closing :: rest)) [] := by
    refine .right (refuses_seq (refuses_one ?_) _) (.left (preferred_letters _ _))
    rintro _ ⟨⟩
    decide
  have quoted : (all quotedPatterns).run (fun kept rest => some (kept, rest)) []
      (opening :: (part ++ closing :: rest)) = some ([part], rest) := by
    have path := preferred_quoted opens closes nonempty unquoted rest
    simpa [front?] using front?_of_preferred path
  -- The lazy run passes over the blank alone, which is no quote.
  have lazily : (all (few isInline :: quotedPatterns)).run (fun kept rest => some (kept, rest)) []
      (' ' :: opening :: (part ++ closing :: rest)) = some ([part], rest) := by
    have blank : (all quotedPatterns).run (fun kept rest => some (kept, rest)) []
        (' ' :: opening :: (part ++ closing :: rest)) = none :=
      refuses_seq (refuses_one (by rintro _ ⟨⟩; decide)) _ _ _
    rw [all, List.foldr_cons, ← all, run, run, runFew, blank]
    simp only [isInline, runFew, quoted]
    rfl
  have front : validatePattern.front?
      ("Verify".toList ++ ' ' :: opening :: (part ++ closing :: rest)) = some ([part], rest) := by
    rw [front?, validatePattern, all, List.foldr_cons, ← all, run]
    exact run_of_preferred verify lazily
  simpa using search_of_front? front

variable {quote : Char} {text : String} {rest : List Char}

theorem inQuotes_toList (quote : Char) (text : String) :
    (inQuotes quote text).toList = quote :: (text.toList ++ [quote]) := by
  simp [inQuotes]

/-- The label is the text up to the first quote of any kind. -/
theorem label?_inQuotes (opens : isQuote quote = true) (closes : isQuote closing = true)
    (cut : text.toList ++ [quote] = part ++ closing :: rest) (nonempty : part ≠ [])
    (unquoted : ∀ c ∈ part, isQuote c = false) :
    (ofBlock ("Click " ++ inQuotes quote text)).label? = some (String.ofList part) := by
  have block : ("Click " ++ inQuotes quote text).toList =
      "Click ".toList ++ quote :: (part ++ closing :: rest) := by
    rw [String.toList_append, inQuotes_toList, cut]
  refine keep?_eq_some_iff.mpr ⟨[part], ?_, by simp⟩
  rw [ofBlock, block]
  exact search_labelPattern opens closes nonempty unquoted rest

/-- What is looked for is the text up to the first quote of any kind. -/
theorem validateText_inQuotes (opens : isQuote quote = true) (closes : isQuote closing = true)
    (cut : text.toList ++ [quote] = part ++ closing :: rest) (nonempty : part ≠ [])
    (unquoted : ∀ c ∈ part, isQuote c = false) :
    (ofBlock ("Verify " ++ inQuotes quote text)).validateText =
      some (trimmed (String.ofList part)) := by
  have block : ("Verify " ++ inQuotes quote text).toList =
      "Verify ".toList ++ quote :: (part ++ closing :: rest) := by
    rw [String.toList_append, inQuotes_toList, cut]
  have kept : validatePattern.keep? ("Verify " ++ inQuotes quote text) =
      some (String.ofList part) := by
    refine keep?_eq_some_iff.mpr ⟨[part], ?_, by simp⟩
    rw [block]
    exact search_validatePattern opens closes nonempty unquoted rest
  rw [show (ofBlock _).validateText = field? validatePattern _ from rfl, field?, kept,
    Option.map_some]

theorem label?_inQuotes_iff (opens : isQuote quote = true) (nonempty : text.toList ≠ []) :
    (ofBlock ("Click " ++ inQuotes quote text)).label? = some text ↔
      ∀ c ∈ text.toList, isQuote c = false := by
  refine ⟨isQuote_of_label?, fun unquoted => ?_⟩
  rw [label?_inQuotes opens opens rfl nonempty unquoted, String.ofList_toList]

theorem validateText_inQuotes_iff (opens : isQuote quote = true) (nonempty : text.toList ≠ []) :
    (ofBlock ("Verify " ++ inQuotes quote text)).validateText = some (trimmed text) ↔
      ∀ c ∈ text.toList, isQuote c = false := by
  constructor
  · intro stated c member
    obtain ⟨found, same, unquoted⟩ := exists_of_validateText stated
    refine Bool.eq_false_iff.mpr fun isQuoted => ?_
    -- A quote is no blank, so it would be in what was found, too.
    have inside : c ∈ trim text.toList := mem_trim_of_solid member (isBlank_of_isQuote isQuoted)
    rw [String.ofList_injective same] at inside
    rw [unquoted c (mem_of_mem_trim inside)] at isQuoted
    cases isQuoted
  · intro unquoted
    rw [validateText_inQuotes opens opens rfl nonempty unquoted, String.ofList_toList]

end Whole

end Details

end Walkthrough
