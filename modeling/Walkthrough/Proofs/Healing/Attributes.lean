import Mathlib.Data.List.Induction
import Walkthrough.Healing.Strategy

/-!
# The attributes that a reference constrains

A reader goes through a reference character by character and knows where it is: in brackets or
outside, in a text between quotes, behind a part of a name (`Walkthrough.Reference.Reading`). A
backslash takes the next character literally. Where a name, the sign `=` and a text in quotes stand
in brackets one behind the other, the reference constrains an attribute
(`Walkthrough.Reference.attributes`), and its name goes back to where the reader began it
(`Walkthrough.Reference.mem_attributes`). It records no others
(`Walkthrough.Reference.infix_of_mem_attributes`).
-/

namespace Walkthrough.Reference

/-- The characters that names of attributes are spelled with. -/
def isAttributeChar (c : Char) : Bool :=
  Strategy.isNameChar c || c == ':' || c == '.' || 0x80 ≤ c.toNat

/-- The signs that a text begins and ends with. -/
def isQuote (c : Char) : Bool := c == '"' || c == '\''

/-- Where a reader is. -/
inductive Part where
  /-- Outside brackets and texts. -/
  | outside
  /-- In a text outside brackets. -/
  | text (quote : Char)
  /-- In brackets, behind a name as far as it has been read. -/
  | name (word : List Char)
  /-- Behind the sign after a name. -/
  | sign (word : List Char)
  /-- In a text within brackets, which is the value of an attribute if a name stands before it. -/
  | value (quote : Char) (word held : List Char)
deriving DecidableEq

namespace Part

/-- Goes on over a character that is taken literally. -/
def literal (c : Char) : Part → Part
  | outside => outside
  | text quote => text quote
  | name word => name (word ++ [c])
  | sign _ => name [c]
  | value quote word held => value quote word (held ++ [c])

/-- Goes on over a character in brackets outside texts, behind a name. -/
def within (word : List Char) (c : Char) : Part :=
  if c == '[' then name []
  else if c == ']' then outside
  else if c == '=' then sign word
  else if isQuote c then value c [] []
  else if isAttributeChar c then name (word ++ [c])
  else name []

/-- Goes on over a character. -/
def next (c : Char) : Part → Part
  | outside => if c == '[' then name [] else if isQuote c then text c else outside
  | text quote => if c == quote then outside else text quote
  | name word => within word c
  | sign word => if isQuote c then value c word [] else within [] c
  | value quote word held => if c == quote then name [] else value quote word (held ++ [c])

/-- The name and the value of the attribute that ends with a character. -/
def attribute? (c : Char) : Part → Option (List Char × List Char)
  | value quote word held => if c == quote && !word.isEmpty then some (word, held) else none
  | _ => none

end Part

/-- Whether the character behind is taken literally, once another one has been read. -/
def escapes (escaped : Bool) (c : Char) : Bool := !escaped && c == '\\'

/-- What a reader knows: where it is, whether it takes the next character literally, and the names
and values of the attributes so far. -/
structure Reading where
  part : Part := .outside
  escaped : Bool := false
  attributes : List (List Char × List Char) := []
deriving DecidableEq

/-- Reads a character. -/
def Reading.pass (reading : Reading) (c : Char) : Reading :=
  if reading.escaped || c == '\\' then
    ⟨reading.part.literal c, escapes reading.escaped c, reading.attributes⟩
  else ⟨reading.part.next c, false, reading.attributes ++ (reading.part.attribute? c).toList⟩

/-- What a reader knows behind a text. -/
def read (s : List Char) : Reading := s.foldl Reading.pass {}

/-- The names and the values of the attributes that a reference constrains, as they are spelled. -/
def attributes (reference : String) : List (String × String) :=
  (read reference.toList).attributes.map fun (name, value) =>
    (String.ofList name, String.ofList value)

theorem read_append (s t : List Char) : read (s ++ t) = t.foldl Reading.pass (read s) :=
  List.foldl_append ..

section Characters

variable {c : Char}

theorem isAttributeChar_of_isWord (word : Text.isWord c = true) : isAttributeChar c = true := by
  simp [isAttributeChar, Strategy.isNameChar, word]

/-- No character of a name has a meaning of its own in brackets. -/
theorem within_of_isAttributeChar (spelled : isAttributeChar c = true) (name : List Char) :
    Part.within name c = .name (name ++ [c]) := by
  have other {sign : Char} (plain : isAttributeChar sign = false) : (c == sign) = false := by
    rw [beq_eq_false_iff_ne]
    rintro rfl
    rw [spelled] at plain
    cases plain
  rw [Part.within, isQuote, other (by decide), other (by decide), other (by decide),
    other (by decide), other (by decide), if_pos spelled]
  rfl

theorem ne_backslash_of_isAttributeChar (spelled : isAttributeChar c = true) :
    (c == '\\') = false := by
  rw [beq_eq_false_iff_ne]
  rintro rfl
  revert spelled
  decide

end Characters

section Soundness

variable {s : List Char}

namespace Part

/-- What a reader has of a name and a value where it is, and what stands at the end of the text so
far. -/
def Stands : Part → List Char → Prop
  | outside, _ | text _, _ => True
  | name word, s => word <:+ s
  | sign word, s => word ++ ['='] <:+ s
  | value quote word held, s => word ≠ [] → word ++ ['=', quote] ++ held <:+ s

theorem stands_literal {part : Part} (stands : part.Stands s) (c : Char) :
    (part.literal c).Stands (s ++ [c]) := by
  cases part with
  | outside => trivial
  | text quote => trivial
  | name word =>
      obtain ⟨front, rfl⟩ := stands
      exact ⟨front, by simp⟩
  | sign word => exact ⟨s, rfl⟩
  | value quote word held =>
      intro named
      obtain ⟨front, rfl⟩ := stands named
      exact ⟨front, by simp⟩

theorem stands_within {word : List Char} (stands : word <:+ s) (c : Char) :
    (within word c).Stands (s ++ [c]) := by
  obtain ⟨front, rfl⟩ := stands
  unfold within
  split
  · exact List.nil_suffix
  · split
    · trivial
    · split
      · next sign =>
          rw [beq_iff_eq.mp sign]
          exact ⟨front, by simp⟩
      · split
        · exact fun named => absurd rfl named
        · split
          · exact ⟨front, by simp⟩
          · exact List.nil_suffix

theorem stands_next {part : Part} (stands : part.Stands s) (c : Char) :
    (part.next c).Stands (s ++ [c]) := by
  cases part with
  | outside =>
      rw [next]
      split
      · exact List.nil_suffix
      · split <;> trivial
  | text quote =>
      rw [next]
      split <;> trivial
  | name word => exact stands_within stands c
  | sign word =>
      rw [next]
      split
      · intro _
        obtain ⟨front, rfl⟩ := stands
        exact ⟨front, by simp⟩
      · exact stands_within List.nil_suffix c
  | value quote word held =>
      rw [next]
      split
      · exact List.nil_suffix
      · intro named
        obtain ⟨front, rfl⟩ := stands named
        exact ⟨front, by simp⟩

end Part

theorem read_concat (s : List Char) (c : Char) : read (s ++ [c]) = (read s).pass c := by
  rw [read_append, List.foldl_cons, List.foldl_nil]

theorem part_read_stands (s : List Char) : (read s).part.Stands s := by
  induction s using List.reverseRecOn with
  | nil => trivial
  | append_singleton s c ih =>
      rw [read_concat, Reading.pass]
      split
      · exact Part.stands_literal ih c
      · exact Part.stands_next ih c

/-- An attribute is only recorded where its name, the sign and its value in quotes stand one behind
the other. -/
theorem infix_of_mem_attributes {name value : List Char}
    (recorded : (name, value) ∈ (read s).attributes) :
    name ≠ [] ∧ ∃ quote, name ++ ['=', quote] ++ value ++ [quote] <:+: s := by
  induction s using List.reverseRecOn with
  | nil => cases recorded
  | append_singleton s c ih =>
      have earlier (before : (name, value) ∈ (read s).attributes) :
          name ≠ [] ∧ ∃ quote, name ++ ['=', quote] ++ value ++ [quote] <:+: s ++ [c] := by
        obtain ⟨named, quote, stands⟩ := ih before
        exact ⟨named, quote, stands.trans (List.prefix_append s [c]).isInfix⟩
      rw [read_concat, Reading.pass] at recorded
      split at recorded
      · exact earlier recorded
      · rcases List.mem_append.mp recorded with before | here
        · exact earlier before
        · have stands := part_read_stands s
          cases part : (read s).part with
          | value quote word held =>
              rw [part] at stands here
              rw [Part.attribute?] at here
              split at here
              · next closes =>
                  obtain ⟨same, named⟩ := Bool.and_eq_true_iff.mp closes
                  cases List.mem_singleton.mp here
                  have nonempty : name ≠ [] := by simpa using named
                  obtain ⟨front, split⟩ := stands nonempty
                  refine ⟨nonempty, quote, (List.IsSuffix.isInfix ⟨front, ?_⟩)⟩
                  rw [← split, beq_iff_eq.mp same]
                  simp
              · cases here
          | outside | text _ | name _ | sign _ =>
              rw [part] at here
              cases here

end Soundness

section Reading

variable {lead name value : List Char} {escaped : Bool} {found : List (List Char × List Char)}

/-- A name goes on over its characters. -/
theorem pass_name {c : Char} (spelled : isAttributeChar c = true) :
    (Reading.mk (.name lead) escaped found).pass c = ⟨.name (lead ++ [c]), false, found⟩ := by
  have plain := ne_backslash_of_isAttributeChar spelled
  cases escaped with
  | true => simp [Reading.pass, Part.literal, escapes]
  | false =>
      simp [Reading.pass, plain, Part.next, Part.attribute?, within_of_isAttributeChar spelled]

theorem foldl_name (some : name ≠ []) (spelled : ∀ c ∈ name, isAttributeChar c = true) :
    name.foldl Reading.pass ⟨.name lead, escaped, found⟩ =
      ⟨.name (lead ++ name), false, found⟩ := by
  induction name generalizing lead escaped with
  | nil => exact absurd rfl some
  | cons c rest ih =>
      obtain ⟨first, others⟩ := List.forall_mem_cons.mp spelled
      rw [List.foldl_cons, pass_name first]
      by_cases ended : rest = []
      · rw [ended, List.foldl_nil]
      · rw [ih ended others, List.append_assoc, List.singleton_append]

/-- A text goes on to the next sign that it begins with. -/
theorem foldl_value {quote : Char} {before : List Char} (inside : quote ∉ value) :
    value.foldl Reading.pass ⟨.value quote name before, escaped, found⟩ =
      ⟨.value quote name (before ++ value), value.foldl escapes escaped, found⟩ := by
  induction value generalizing before escaped with
  | nil => rw [List.append_nil, List.foldl_nil, List.foldl_nil]
  | cons c rest ih =>
      obtain ⟨other, others⟩ := List.ne_and_not_mem_of_not_mem_cons inside
      have goesOn : (Reading.mk (.value quote name before) escaped found).pass c =
          ⟨.value quote name (before ++ [c]), escapes escaped c, found⟩ := by
        have plain : (c == quote) = false := beq_false_of_ne (Ne.symm other)
        rw [Reading.pass]
        split
        · rfl
        · next literal =>
            have unescaped : escapes escaped c = false := by
              simp only [Bool.or_eq_true, not_or, Bool.not_eq_true] at literal
              rw [escapes, literal.2, Bool.and_false]
            simp [Part.next, Part.attribute?, plain, unescaped]
      rw [List.foldl_cons, goesOn, ih others, List.append_assoc, List.singleton_append,
        List.foldl_cons]

/-- A value in double quotes behind a name is recorded once its closing quote has been read, and
the name with all that stands before it. -/
theorem foldl_attribute (some : name ≠ []) (spelled : ∀ c ∈ name, isAttributeChar c = true)
    (inside : '"' ∉ value) (closed : value.foldl escapes false = false) :
    (name ++ ['=', '"'] ++ value ++ ['"']).foldl Reading.pass ⟨.name lead, escaped, found⟩ =
      ⟨.name [], false, found ++ [(lead ++ name, value)]⟩ := by
  have opens : ['=', '"'].foldl Reading.pass ⟨.name (lead ++ name), false, found⟩ =
      ⟨.value '"' (lead ++ name) [], false, found⟩ := by
    simp [Reading.pass, Part.next, Part.within, Part.attribute?, isQuote]
  have closes : (Reading.mk (.value '"' (lead ++ name) value) false found).pass '"' =
      ⟨.name [], false, found ++ [(lead ++ name, value)]⟩ := by
    simp [Reading.pass, Part.next, Part.attribute?, some]
  rw [List.foldl_append, List.foldl_append, List.foldl_append, foldl_name some spelled, opens,
    foldl_value inside, closed, List.nil_append, List.foldl_cons, closes, List.foldl_nil]

theorem attributes_grow (reading : Reading) (s : List Char) :
    reading.attributes <+: (s.foldl Reading.pass reading).attributes := by
  induction s generalizing reading with
  | nil => exact List.prefix_rfl
  | cons c rest ih =>
      refine List.IsPrefix.trans ?_ (ih (reading.pass c))
      rw [Reading.pass]
      split
      · exact List.prefix_rfl
      · exact List.prefix_append ..

end Reading

/-- Behind a bracket that is neither in a text nor taken literally, a name begins. -/
theorem part_read_bracket {s lead : List Char} (part : (read (s ++ ['['])).part = .name lead)
    (plain : (read s).escaped = false) : lead = [] := by
  have bracket : ((read s).pass '[').part = (read s).part.next '[' := by
    rw [Reading.pass, plain]
    rfl
  rw [read_append, List.foldl_cons, List.foldl_nil, bracket] at part
  cases inside : (read s).part with
  | outside =>
      rw [inside] at part
      cases part
      rfl
  | text quote =>
      rw [inside, Part.next] at part
      split at part <;> cases part
  | name name =>
      rw [inside] at part
      cases part
      rfl
  | sign name =>
      rw [inside] at part
      cases part
      rfl
  | value quote name value =>
      rw [inside, Part.next] at part
      split at part
      · cases part
        rfl
      · cases part

/-- Where a name in brackets, the sign `=` and a value in double quotes stand one behind the other,
the reference constrains the attribute of the whole name, which may begin earlier, to the value. -/
theorem mem_attributes {before name value behind lead : List Char} {reference : String}
    (split : reference.toList = before ++ (name ++ ['=', '"'] ++ value ++ ['"']) ++ behind)
    (part : (read before).part = .name lead) (some : name ≠ [])
    (spelled : ∀ c ∈ name, isAttributeChar c = true) (inside : '"' ∉ value)
    (closed : value.foldl escapes false = false) :
    (String.ofList (lead ++ name), String.ofList value) ∈ attributes reference := by
  have known : read before = ⟨.name lead, (read before).escaped, (read before).attributes⟩ := by
    rw [← part]
  have recorded : (lead ++ name, value) ∈
      (read (before ++ (name ++ ['=', '"'] ++ value ++ ['"']))).attributes := by
    rw [read_append, known, foldl_attribute some spelled inside closed]
    simp
  rw [attributes, split, read_append _ behind]
  exact List.mem_map_of_mem ((attributes_grow _ behind).subset recorded)

/-- Attributes stand in brackets, and a name ends where it is delimited. -/
example : attributes "div[data-name=\"x\"] > :has-text(\"[type=1]\")[title='name=\"y\"']" =
    [("data-name", "x"), ("title", "name=\"y\"")] := by
  decide +kernel

end Walkthrough.Reference
