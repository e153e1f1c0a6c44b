import Walkthrough.Proofs.Healing.Attributes
import Walkthrough.Proofs.Text.Finding

/-!
# Parts of attribute values

The strategy of partial attributes looks for three things in a reference: an attribute with its
value in brackets, and the values behind `name=` and `type=`, wherever they stand
(`Walkthrough.Strategy.Sought`). It proposes what it finds at the leftmost place of each, and
nothing else. An attribute in brackets is one that the reference constrains. With `name=` and
`type=` the reference constrains one whose name ends so, which may be a longer name
(`Walkthrough.Strategy.partialAttribute_takes`).
-/

namespace Walkthrough.Strategy

open Text Text.Pattern

/-- An attribute with its value in double quotes, and the text around it. -/
structure Spelled where
  before : List Char
  name : List Char
  value : List Char
  behind : List Char

namespace Spelled

/-- The name, the sign and the value in its quotes. -/
def stretch (spelled : Spelled) : List Char :=
  spelled.name ++ ['=', '"'] ++ spelled.value ++ ['"']

/-- The text that the attribute stands in. -/
def text (spelled : Spelled) : List Char := spelled.before ++ spelled.stretch ++ spelled.behind

/-- Whether the value ends at its closing quote, which no backslash takes literally. -/
def Closed (spelled : Spelled) : Prop := spelled.value.foldl Reference.escapes false = false

end Spelled

/-- What is looked for in a reference, the attributes of some names between two texts, and what is
proposed for such an attribute and its value. -/
structure Sought where
  opening : List Char
  names : List Char → Prop
  closing : List Char
  proposals : (name value : String) → List String
  spelled_of_names : ∀ {name}, names name →
    name ≠ [] ∧ ∀ c ∈ name, Reference.isAttributeChar c = true

namespace Sought

/-- An attribute in brackets of its own, whose value may be part of another or begin it. -/
def inBrackets : Sought where
  opening := ['[']
  names name := name ≠ [] ∧ ∀ c ∈ name, isWord c = true
  closing := [']']
  proposals name value :=
    ["[" ++ name ++ "*=\"" ++ value ++ "\"]", "[" ++ name ++ "^=\"" ++ value ++ "\"]"]
  spelled_of_names := fun ⟨nonempty, words⟩ =>
    ⟨nonempty, fun c member => Reference.isAttributeChar_of_isWord (words c member)⟩

/-- A value behind a word, wherever the word stands. -/
def behind (word : List Char) (proposal : String → String)
    (lettered : word ≠ [] ∧ ∀ c ∈ word, Reference.isAttributeChar c = true) : Sought where
  opening := []
  names name := name = word
  closing := []
  proposals _ value := [proposal value]
  spelled_of_names := fun same => same ▸ lettered

/-- Whatever ends with `name`, whose value may be part of another. -/
def ofName : Sought :=
  behind ['n', 'a', 'm', 'e'] (fun value => "[name*=\"" ++ value ++ "\"]")
    ⟨List.cons_ne_nil _ _, List.all_eq_true.mp (by decide)⟩

/-- Whatever ends with `type`. -/
def ofType : Sought :=
  behind ['t', 'y', 'p', 'e'] (fun value => "[type=\"" ++ value ++ "\"]")
    ⟨List.cons_ne_nil _ _, List.all_eq_true.mp (by decide)⟩

/-- All that is looked for. -/
def all : List Sought := [inBrackets, ofName, ofType]

variable (sought : Sought)

/-- Whether an attribute is one that is looked for. Its value has no double quotes and is not
empty. -/
structure Fits (spelled : Spelled) : Prop where
  opening : sought.opening <:+ spelled.before
  names : sought.names spelled.name
  some : spelled.value ≠ []
  inside : '"' ∉ spelled.value
  closing : sought.closing <+: spelled.behind

/-- Whether an attribute is the leftmost one of those that are looked for. -/
def First (spelled : Spelled) : Prop :=
  sought.Fits spelled ∧ ∀ other : Spelled, other.text = spelled.text → sought.Fits other →
    spelled.before.length ≤ other.before.length

/-- Whether a pattern fits exactly the attributes that are looked for, in what stands around them,
and keeps the same parts of each. -/
def FoundBy (pattern : Pattern) (keeps : (name value : List Char) → List (List Char)) : Prop :=
  ∀ taken kept, pattern.Matches taken kept ↔
    ∃ name value, sought.names name ∧ value ≠ [] ∧ '"' ∉ value ∧
      taken = sought.opening ++ (name ++ ['=', '"'] ++ value ++ ['"']) ++ sought.closing ∧
      kept = keeps name value

end Sought

section Leftmost

variable {sought : Sought} {pattern : Pattern} {s : List Char} {kept : List (List Char)}
  {keeps : List Char → List Char → List (List Char)} {spelled other : Spelled}

theorem append_cons_inj {c : Char} {before other behind more : List Char} (first : c ∉ before)
    (second : c ∉ other) (same : before ++ c :: behind = other ++ c :: more) :
    before = other ∧ behind = more := by
  have run {front back : List Char} (missing : c ∉ front) :
      (front ++ c :: back).takeWhile (· != c) = front := by
    rw [List.takeWhile_append_of_pos, List.takeWhile_cons_of_neg (by simp), List.append_nil]
    intro d member
    exact bne_iff_ne.mpr (ne_of_mem_of_not_mem member missing)
  have equal : before = other := by rw [← run first, same, run second]
  subst equal
  exact ⟨rfl, (List.cons.inj (List.append_cancel_left same)).2⟩

/-- Attributes that begin at one place of a text are the same. -/
theorem Sought.Fits.eq (fits : sought.Fits spelled) (another : sought.Fits other)
    (same : spelled.text = other.text) (place : spelled.before.length = other.before.length) :
    spelled = other := by
  have unsigned {name : List Char} (named : sought.names name) : '=' ∉ name := by
    intro member
    have wrong := (sought.spelled_of_names named).2 '=' member
    revert wrong
    decide
  obtain ⟨before, name, value, behind⟩ := spelled
  obtain ⟨before', name', value', behind'⟩ := other
  have plain : '=' ∉ name := unsigned fits.names
  have plain' : '=' ∉ name' := unsigned another.names
  have inside : '"' ∉ value := fits.inside
  have inside' : '"' ∉ value' := another.inside
  -- a name ends at the first sign behind it, and a value at the first quote
  simp only [Spelled.text, Spelled.stretch, List.append_assoc, List.cons_append,
    List.nil_append] at same
  obtain ⟨rfl, named⟩ := List.append_inj same place
  obtain ⟨rfl, valued⟩ := append_cons_inj plain plain' named
  obtain ⟨rfl, rfl⟩ := append_cons_inj inside inside' (List.cons.inj valued).2
  rfl

theorem Sought.First.eq (first : sought.First spelled) (another : sought.First other)
    (same : spelled.text = other.text) : spelled = other :=
  first.1.eq another.1 same
    (Nat.le_antisymm (first.2 other same.symm another.1) (another.2 spelled same first.1))

section Search

variable (fits : sought.FoundBy pattern keeps)

include fits

/-- Where an attribute is that is looked for, a stretch fits the pattern. -/
theorem exists_fitsFront (fitting : sought.Fits spelled) :
    ∃ front place, spelled.text = front ++ place ∧ pattern.FitsFront place ∧
      front.length + sought.opening.length = spelled.before.length := by
  obtain ⟨⟨front, opened⟩, named, some, inside, ⟨rest, closed⟩⟩ := fitting
  refine ⟨front, sought.opening ++ spelled.stretch ++ sought.closing ++ rest, ?_,
    ⟨_, rest, _, rfl, (fits _ _).mpr ⟨_, _, named, some, inside, rfl, rfl⟩⟩, ?_⟩
  · rw [Spelled.text, ← opened, ← closed]
    simp only [List.append_assoc]
  · rw [← opened, List.length_append]

/-- A search ends at the leftmost attribute that is looked for, and keeps of it what the pattern
keeps. -/
theorem exists_first_of_search (found : pattern.search s = some kept) :
    ∃ spelled : Spelled, spelled.text = s ∧ sought.First spelled ∧
      kept = keeps spelled.name spelled.value := by
  obtain ⟨place, taken, rest, leftmost, rfl, matched⟩ := exists_of_search found
  obtain ⟨name, value, named, some, inside, rfl, rfl⟩ := (fits _ _).mp matched
  obtain ⟨front, rfl⟩ := leftmost.suffix
  refine ⟨⟨front ++ sought.opening, name, value, sought.closing ++ rest⟩, ?_, ⟨?_, ?_⟩, rfl⟩
  · simp only [Spelled.text, Spelled.stretch, List.append_assoc]
  · exact ⟨List.suffix_append .., named, some, inside, List.prefix_append ..⟩
  · -- another attribute stands at a place that fits as well, and so not before the leftmost one
    intro other same fitting
    obtain ⟨front', place', split, fitsHere, long⟩ := exists_fitsFront fits fitting
    have whole : front ++ (sought.opening ++ (name ++ ['=', '"'] ++ value ++ ['"']) ++
        sought.closing ++ rest) = front' ++ place' := by
      rw [← split, same]
      simp only [Spelled.text, Spelled.stretch, List.append_assoc]
    have later := (leftmost.first place' ⟨front', whole.symm⟩ fitsHere).length_le
    have lengths := congrArg List.length whole
    simp only [List.length_append] at lengths later long ⊢
    omega

theorem search_eq_some_iff :
    pattern.search s = some kept ↔ ∃ spelled : Spelled, spelled.text = s ∧ sought.First spelled ∧
      kept = keeps spelled.name spelled.value := by
  refine ⟨exists_first_of_search fits, ?_⟩
  rintro ⟨spelled, rfl, first, rfl⟩
  obtain ⟨front, place, split, fitsHere, -⟩ := exists_fitsFront fits first.1
  obtain ⟨kept, found⟩ := exists_search ⟨front, split.symm⟩ fitsHere
  obtain ⟨other, same, another, rfl⟩ := exists_first_of_search fits found
  rw [found, another.eq first same]

end Search

end Leftmost

section Patterns

theorem isInQuotes_iff {value : List Char} :
    (∀ c ∈ value, isInQuotes c = true) ↔ '"' ∉ value := by
  simp only [isInQuotes, bne_iff_ne]
  exact ⟨fun others member => others _ member rfl,
    fun missing c member => ne_of_mem_of_not_mem member missing⟩

theorem inBrackets_foundBy :
    Sought.inBrackets.FoundBy attributePattern fun name value => [name, value] := by
  intro taken kept
  simp only [Sought.inBrackets, attributePattern, Pattern.all, List.foldr_cons, List.foldr_nil,
    matches_seq_of_silent (fun _ _ => matches_one),
    matches_seq_of_silent (fun _ _ => matches_exactly),
    matches_keep_of_silent (fun _ _ => matches_oneOrMore_silent), matches_empty, isInQuotes_iff]
  constructor
  · rintro ⟨_, _, rfl, ⟨c, bracket, rfl⟩, name, _, _, rfl, rfl, named, _, _, rfl, rfl, value, _, _,
      rfl, rfl, ⟨nonempty, inside⟩, _, _, rfl, rfl, rfl, rfl⟩
    rw [beq_iff_eq.mp bracket]
    exact ⟨name, value, named, nonempty, inside, by simp, rfl⟩
  · rintro ⟨name, value, named, nonempty, inside, rfl, rfl⟩
    exact ⟨['['], _, by simp, ⟨'[', rfl, rfl⟩, name, _, _, rfl, rfl, named, ['=', '"'], _, rfl, rfl,
      value, ['"', ']'], [], rfl, rfl, ⟨nonempty, inside⟩, _, [], by simp, rfl, rfl, rfl⟩

/-- The pattern that looks for a value behind a word. -/
def behindPattern (word : List Char) : Pattern :=
  Pattern.all [exactly (word ++ ['=', '"']), keep (oneOrMore isInQuotes), one (· == '"')]

theorem behind_foundBy {word : List Char} {proposal : String → String}
    {lettered : word ≠ [] ∧ ∀ c ∈ word, Reference.isAttributeChar c = true} :
    (Sought.behind word proposal lettered).FoundBy (behindPattern word)
      fun _ value => [value] := by
  intro taken kept
  simp only [Sought.behind, behindPattern, Pattern.all, List.foldr_cons, List.foldr_nil,
    matches_seq_of_silent (fun _ _ => matches_one),
    matches_seq_of_silent (fun _ _ => matches_exactly),
    matches_keep_of_silent (fun _ _ => matches_oneOrMore_silent), matches_empty, isInQuotes_iff]
  constructor
  · rintro ⟨_, _, rfl, rfl, value, _, _, rfl, rfl, ⟨nonempty, inside⟩, _, _, rfl, ⟨c, quote, rfl⟩,
      rfl, rfl⟩
    rw [beq_iff_eq.mp quote]
    exact ⟨word, value, rfl, nonempty, inside, by simp, rfl⟩
  · rintro ⟨_, value, rfl, nonempty, inside, rfl, rfl⟩
    exact ⟨_, _, by simp, rfl, value, ['"'], [], rfl, rfl, ⟨nonempty, inside⟩, ['"'], [], rfl,
      ⟨'"', rfl, rfl⟩, rfl, rfl⟩

end Patterns

/-- Whether a selector is proposed for the leftmost of the attributes that are looked for. -/
def Sought.Proposes (sought : Sought) (reference selector : String) : Prop :=
  ∃ spelled : Spelled, spelled.text = reference.toList ∧ sought.First spelled ∧
    selector ∈ sought.proposals (String.ofList spelled.name) (String.ofList spelled.value)

section Proposals

variable {reference selector : String}

theorem inBrackets_proposes_iff :
    Sought.inBrackets.Proposes reference selector ↔
      ∃ name value, attributePattern.search reference.toList = some [name, value] ∧
        selector ∈ Sought.inBrackets.proposals (String.ofList name) (String.ofList value) := by
  simp only [search_eq_some_iff inBrackets_foundBy]
  constructor
  · rintro ⟨spelled, same, first, member⟩
    exact ⟨_, _, ⟨spelled, same, first, rfl⟩, member⟩
  · rintro ⟨_, _, ⟨spelled, same, first, equal⟩, member⟩
    cases equal
    exact ⟨spelled, same, first, member⟩

theorem behind_proposes_iff {word : List Char} {proposal : String → String}
    {lettered : word ≠ [] ∧ ∀ c ∈ word, Reference.isAttributeChar c = true} :
    (Sought.behind word proposal lettered).Proposes reference selector ↔
      ∃ value, (behindPattern word).keep? reference = some value ∧ proposal value = selector := by
  simp only [keep?_eq_some_iff, search_eq_some_iff (@behind_foundBy word proposal lettered)]
  constructor
  · rintro ⟨spelled, same, first, member⟩
    exact ⟨_, ⟨_, ⟨spelled, same, first, rfl⟩, by simp⟩, (List.mem_singleton.mp member).symm⟩
  · rintro ⟨value, ⟨_, ⟨spelled, same, first, rfl⟩, head⟩, rfl⟩
    have equal : spelled.value = value.toList := Option.some.inj head
    exact ⟨spelled, same, first,
      List.mem_singleton.mpr (by rw [equal, String.ofList_toList])⟩

theorem ofName_proposes_iff :
    Sought.ofName.Proposes reference selector ↔
      ∃ value, namePattern.keep? reference = some value ∧
        "[name*=\"" ++ value ++ "\"]" = selector :=
  behind_proposes_iff

theorem ofType_proposes_iff :
    Sought.ofType.Proposes reference selector ↔
      ∃ value, typePattern.keep? reference = some value ∧
        "[type=\"" ++ value ++ "\"]" = selector :=
  behind_proposes_iff

/-- The proposals are those for the leftmost places of what is looked for. -/
theorem mem_partials_iff :
    selector ∈ partials reference ↔ ∃ sought ∈ Sought.all, sought.Proposes reference selector := by
  simp only [Sought.all, List.mem_cons, List.not_mem_nil, or_false, exists_eq_or_imp,
    exists_eq_left, inBrackets_proposes_iff, ofName_proposes_iff, ofType_proposes_iff]
  rw [partials, List.mem_append, List.mem_append, or_assoc]
  refine or_congr ?_ (or_congr ?_ ?_)
  · cases found : attributePattern.search reference.toList with
    | none => simp
    | some kept =>
        obtain ⟨spelled, -, -, rfl⟩ := (search_eq_some_iff inBrackets_foundBy).mp found
        simp [Sought.inBrackets]
  · rw [Option.mem_toList, Option.map_eq_some_iff]
  · rw [Option.mem_toList, Option.map_eq_some_iff]

end Proposals

/-- Whatever the reference, the strategy of partial attributes proposes exactly selectors for the
leftmost places where an attribute stands in brackets of its own, or a value behind `name=` or
`type=`. Where such a place is in brackets and its value ends at the closing quote, the reference
constrains an attribute to that value whose name is the one that was found or ends with it: what
stands before it in the reference, `lead`, belongs to the name as well. A name in brackets of its
own has nothing before it. -/
theorem partialAttribute_takes (reference description : String) :
    partialAttribute.propose reference description =
        some ((partials reference).map .selector) ∧
      (∀ selector, selector ∈ partials reference ↔
        ∃ sought ∈ Sought.all, sought.Proposes reference selector) ∧
      ∀ sought ∈ Sought.all, ∀ spelled : Spelled, spelled.text = reference.toList →
        sought.First spelled → ∀ lead, (Reference.read spelled.before).part = .name lead →
          spelled.Closed →
            (String.ofList (lead ++ spelled.name), String.ofList spelled.value) ∈
                Reference.attributes reference ∧
              (sought.opening = ['['] →
                (Reference.read spelled.before.dropLast).escaped = false → lead = []) := by
  refine ⟨rfl, fun _ => mem_partials_iff, ?_⟩
  intro sought _ spelled same first lead part closed
  obtain ⟨opening, named, -, inside, -⟩ := first.1
  obtain ⟨nonempty, lettered⟩ := sought.spelled_of_names named
  refine ⟨Reference.mem_attributes same.symm part nonempty lettered inside closed, ?_⟩
  intro bracket plain
  rw [bracket] at opening
  obtain ⟨front, opened⟩ := opening
  rw [← opened] at part plain
  rw [List.dropLast_concat] at plain
  exact Reference.part_read_bracket part plain

/-- A name that merely ends with `name` is taken for `name`. -/
theorem partialAttribute_misnames :
    partialAttribute.propose "[data-name=\"x\"]" "user" = some [.selector "[name*=\"x\"]"] ∧
      Reference.attributes "[data-name=\"x\"]" = [("data-name", "x")] := by
  decide +kernel

end Walkthrough.Strategy
