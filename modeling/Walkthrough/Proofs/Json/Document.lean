import Walkthrough.Proofs.Json.Names
import Walkthrough.Proofs.Json.Numeral
import Walkthrough.Proofs.Json.Strings

/-!
# Documents that are written

The text of a value is a document of the standard just if all its doubles are finite, and then it
stands for that value, with halves of characters joined (`Walkthrough.Json.decode?_indented`).
-/

namespace Walkthrough

/-- Whether a number is whole or a finite double. -/
def Number.isFinite : Number → Bool
  | int _ => true
  | float value => value.isFinite

namespace Json

mutual

/-- Whether all doubles in a value are finite. -/
def isFinite : Json → Bool
  | null => true
  | bool _ => true
  | number value => value.isFinite
  | text _ => true
  | list items => areFinite items
  | object fields => haveFinite fields

/-- Whether all doubles in some items are finite. -/
def areFinite : List Json → Bool
  | [] => true
  | item :: rest => item.isFinite && areFinite rest

/-- Whether all doubles in some members are finite. -/
def haveFinite : List (String × Json) → Bool
  | [] => true
  | (_, value) :: rest => value.isFinite && haveFinite rest

end

mutual

/-- A value with the halves of characters joined in all its texts. -/
def joined : Json → Json
  | null => null
  | bool value => bool value
  | number value => number value
  | text value => text (Text.joined value)
  | list items => list (joinedItems items)
  | object fields => object (joinedFields [] fields)

/-- Items with the halves of characters joined. -/
def joinedItems : List Json → List Json
  | [] => []
  | item :: rest => item.joined :: joinedItems rest

/-- Members with the halves of characters joined, after others; where names become the same, the
last member counts. -/
def joinedFields (before : List (String × Json)) : List (String × Json) → List (String × Json)
  | [] => before
  | (name, value) :: rest => joinedFields (Fields.put (Text.joined name) value.joined before) rest

end

namespace Standard

section Starts

/-- A text that starts like a value: with no space and no closing bracket. -/
def Starts (s : List Char) : Prop :=
  ∃ c more, s = c :: more ∧ isSpace c = false ∧ c ≠ ']' ∧ c ≠ '\x7d'

theorem Starts.append {s : List Char} (starts : Starts s) (rest : List Char) :
    Starts (s ++ rest) := by
  obtain ⟨c, more, rfl, visible, other⟩ := starts
  exact ⟨c, more ++ rest, rfl, visible, other⟩

theorem Starts.skipSpace {s : List Char} (starts : Starts s) : skipSpace s = s := by
  obtain ⟨c, more, rfl, visible, -⟩ := starts
  exact List.dropWhile_cons_of_neg (by simp [visible])

theorem skipSpace_newLine (level : Nat) (s : List Char) :
    skipSpace (newLine level ++ s) = skipSpace s := by
  unfold skipSpace newLine
  rw [List.dropWhile_append_of_pos]
  intro c among
  rcases List.mem_cons.mp among with rfl | blank
  · rfl
  · rw [List.eq_of_mem_replicate blank]
    rfl

theorem starts_of_isDigit {c : Char} {more : List Char} (digit : c.isDigit = true) :
    Starts (c :: more) := by
  have other (d : Char) (letter : d.isDigit = false) : c ≠ d := by
    intro same
    rw [same, letter] at digit
    cases digit
  refine ⟨c, more, rfl, ?_, other _ rfl, other _ rfl⟩
  simp [isSpace, other ' ' rfl, other '\t' rfl, other '\n' rfl, other '\r' rfl]

/-- Only what starts with a digit or a minus is read as a number. -/
theorem starts_of_readNumber {s : List Char} {read : Number × List Char}
    (found : readNumber s = some read) : ∃ c more, s = c :: more ∧ (c = '-' ∨ c.isDigit = true) := by
  unfold readNumber at found
  split at found
  · exact ⟨_, _, rfl, Or.inl rfl⟩
  · obtain ⟨c, more, start, digit⟩ := starts_of_readSize found
    exact ⟨c, more, start, Or.inr digit⟩

end Starts

section Values

variable {fuel : Nat} {rest : List Char}

theorem readValue_of_readNumber {s : List Char} {n : Number}
    (found : readNumber s = some (n, rest)) :
    readValue (fuel + 1) s = some (.number n, rest) := by
  obtain ⟨c, more, rfl, start⟩ := starts_of_readNumber found
  have other (d : Char) (letter : d.isDigit = false) (noMinus : d ≠ '-') : c ≠ d := by
    rintro rfl
    rcases start with minus | digit
    · exact noMinus minus
    · rw [letter] at digit
      cases digit
  have noName : readName (c :: more) = none := by
    simp [readName, (other 'n' rfl (by decide)).symm, (other 't' rfl (by decide)).symm,
      (other 'f' rfl (by decide)).symm]
  unfold readValue
  split
  · next same => exact absurd (List.cons.inj same).1 (other '"' rfl (by decide))
  · next same => exact absurd (List.cons.inj same).1 (other '\x7b' rfl (by decide))
  · next same => exact absurd (List.cons.inj same).1 (other '[' rfl (by decide))
  · rw [noName, found]
    rfl

theorem readNumber_writeNumber {n : Number} (finite : n.isFinite = true) (closes : Closes rest) :
    readNumber (writeNumber n ++ rest) = some (n, rest) := by
  cases n with
  | int value => exact readNumber_int value closes
  | float x =>
      have kinds := Decimal.isFinite_eq x
      change x.isFinite = true at finite
      rw [finite, eq_comm, Bool.not_eq_true', Bool.or_eq_false_iff] at kinds
      have text : writeNumber (.float x) = (Decimal.shortestText x).toList := by
        rw [writeNumber, if_neg (Bool.eq_false_iff.mp kinds.1),
          if_neg (Bool.eq_false_iff.mp kinds.2)]
      rw [text]
      exact readNumber_shortestText finite closes

/-- A double that is not finite is written by name. -/
theorem writeNumber_of_not_finite {n : Number} (infinite : n.isFinite = false) :
    writeNumber n ∈ ["NaN".toList, "-Infinity".toList, "Infinity".toList] := by
  cases n with
  | int value => cases infinite
  | float x =>
      have kinds := Decimal.isFinite_eq x
      change x.isFinite = false at infinite
      rw [infinite, eq_comm, Bool.not_eq_false', Bool.or_eq_true] at kinds
      rw [writeNumber]
      split
      · exact List.mem_cons_self
      · next number =>
        rw [if_pos (kinds.resolve_left number)]
        split
        · exact List.mem_cons_of_mem _ List.mem_cons_self
        · exact List.mem_cons_of_mem _ (List.mem_cons_of_mem _ List.mem_cons_self)

/-- A number is read back from its text if it is finite; else its text is no number. -/
theorem readValue_writeNumber (n : Number) (closes : Closes rest) :
    readValue (fuel + 1) (writeNumber n ++ rest) =
      if n.isFinite then some (.number n, rest) else none := by
  cases finite : n.isFinite with
  | true => exact readValue_of_readNumber (readNumber_writeNumber finite closes)
  | false =>
      have names := writeNumber_of_not_finite finite
      simp only [List.mem_cons, List.not_mem_nil, or_false] at names
      rcases names with name | name | name <;> rw [name] <;> rfl

theorem starts_writeNumber (n : Number) : Starts (writeNumber n) := by
  cases finite : n.isFinite with
  | true =>
      have closes : Closes [] := fun c none => nomatch none
      have read := readNumber_writeNumber finite closes
      rw [List.append_nil] at read
      obtain ⟨c, more, start, minus | digit⟩ := starts_of_readNumber read
      · exact ⟨c, more, start, by rw [minus]; decide⟩
      · rw [start]
        exact starts_of_isDigit digit
  | false =>
      have names := writeNumber_of_not_finite finite
      simp only [List.mem_cons, List.not_mem_nil, or_false] at names
      rcases names with name | name | name <;> rw [name] <;> exact ⟨_, _, rfl, by decide⟩

theorem starts_writeText (text : String) : Starts (writeText text) :=
  ⟨'"', _, rfl, by decide⟩

theorem starts_writeBlock (value : Json) (level : Nat) : Starts (value.writeBlock level) := by
  cases value with
  | null => exact ⟨_, _, rfl, by decide⟩
  | bool value => cases value <;> exact ⟨_, _, rfl, by decide⟩
  | number n => exact starts_writeNumber n
  | text text => exact starts_writeText text
  | list items => cases items <;> exact ⟨_, _, rfl, by decide⟩
  | object fields =>
      cases fields with
      | nil => exact ⟨_, _, rfl, by decide⟩
      | cons field fields => exact ⟨_, _, rfl, by decide⟩

/-- The items of a list stand behind its bracket. -/
theorem readValue_list {s t : List Char} (skip : skipSpace t = s) (starts : Starts s) :
    readValue (fuel + 1) ('[' :: t) = readItems fuel [] s := by
  obtain ⟨c, more, rfl, -, noBracket, -⟩ := starts
  simp only [readValue, skip]
  split
  · next same => exact absurd (List.cons.inj same).1 noBracket
  · rfl

/-- The members of an object stand behind its brace. -/
theorem readValue_object {s t : List Char} (skip : skipSpace t = s) (starts : Starts s) :
    readValue (fuel + 1) ('\x7b' :: t) = readFields fuel [] s := by
  obtain ⟨c, more, rfl, -, -, noBrace⟩ := starts
  simp only [readValue, skip]
  split
  · next same => exact absurd (List.cons.inj same).1 noBrace
  · rfl

theorem closes_newLine (level : Nat) (s : List Char) : Closes (newLine level ++ s) := by
  intro c head
  cases head
  exact Or.inr rfl

theorem closes_comma (s : List Char) : Closes (',' :: s) := by
  intro c head
  cases head
  exact Or.inl rfl

theorem length_newLine (level : Nat) : (newLine level).length = 2 * level + 1 := by
  simp [newLine]

end Values

theorem closes_itemLines (level close : Nat) (items : List Json) (rest : List Char) :
    Closes (writeItemLines level items ++ (newLine close ++ ']' :: rest)) := by
  cases items with
  | nil => exact closes_newLine close _
  | cons item items => exact closes_comma _

theorem closes_fieldLines (level close : Nat) (fields : List (String × Json)) (rest : List Char) :
    Closes (writeFieldLines level fields ++ (newLine close ++ '\x7d' :: rest)) := by
  cases fields with
  | nil => exact closes_newLine close _
  | cons field fields => exact closes_comma _

section Steps

variable {fuel : Nat} {s rest after : List Char} {value : Json} {name : String}

theorem readItems_none {before : List Json} (found : readValue fuel s = none) :
    readItems (fuel + 1) before s = none := by
  rw [readItems, found]

theorem readItems_last {before : List Json} (found : readValue fuel s = some (value, after))
    (ends : skipSpace after = ']' :: rest) :
    readItems (fuel + 1) before s = some (.list (before ++ [value]), rest) := by
  simp only [readItems, found, ends]

theorem readItems_more {before : List Json} (found : readValue fuel s = some (value, after))
    (goes : skipSpace after = ',' :: rest) :
    readItems (fuel + 1) before s = readItems fuel (before ++ [value]) (skipSpace rest) := by
  simp only [readItems, found, goes]

variable {before : List (String × Json)}

theorem skipSpace_colon (s : List Char) : skipSpace (':' :: s) = ':' :: s := rfl

theorem skipSpace_space (s : List Char) : skipSpace (' ' :: s) = skipSpace s := rfl

theorem readFields_none (starts : Starts s) (found : readValue fuel s = none) :
    readFields (fuel + 1) before (writeText name ++ (':' :: ' ' :: s)) = none := by
  obtain ⟨body, start, read⟩ := readString_writeText name (':' :: ' ' :: s)
  rw [start]
  simp only [readFields, read, skipSpace_colon, skipSpace_space, starts.skipSpace, found]

theorem readFields_last (starts : Starts s) (found : readValue fuel s = some (value, after))
    (ends : skipSpace after = '\x7d' :: rest) :
    readFields (fuel + 1) before (writeText name ++ (':' :: ' ' :: s)) =
      some (.object (Fields.put (Text.joined name) value before), rest) := by
  obtain ⟨body, start, read⟩ := readString_writeText name (':' :: ' ' :: s)
  rw [start]
  simp only [readFields, read, skipSpace_colon, skipSpace_space, starts.skipSpace, found, ends]

theorem readFields_more (starts : Starts s) (found : readValue fuel s = some (value, after))
    (goes : skipSpace after = ',' :: rest) :
    readFields (fuel + 1) before (writeText name ++ (':' :: ' ' :: s)) =
      readFields fuel (Fields.put (Text.joined name) value before) (skipSpace rest) := by
  obtain ⟨body, start, read⟩ := readString_writeText name (':' :: ' ' :: s)
  rw [start]
  simp only [readFields, read, skipSpace_colon, skipSpace_space, starts.skipSpace, found, goes]

end Steps

mutual

/-- A value is read back from its text if all its doubles are finite; else its text is none. -/
theorem readValue_writeBlock : (value : Json) → (level fuel : Nat) → (rest : List Char) →
    (value.writeBlock level).length ≤ fuel → Closes rest →
    readValue fuel (value.writeBlock level ++ rest) =
      if value.isFinite then some (value.joined, rest) else none
  | value, level, 0, rest, enough, closes => by
    obtain ⟨c, more, start, -⟩ := starts_writeBlock value level
    rw [start] at enough
    cases enough
  | null, level, fuel + 1, rest, enough, closes => rfl
  | bool true, level, fuel + 1, rest, enough, closes => rfl
  | bool false, level, fuel + 1, rest, enough, closes => rfl
  | number n, level, fuel + 1, rest, enough, closes => readValue_writeNumber n closes
  | text content, level, fuel + 1, rest, enough, closes => by
    obtain ⟨body, start, read⟩ := readString_writeText content rest
    rw [writeBlock, start, readValue, read]
    rfl
  | list [], level, fuel + 1, rest, enough, closes => rfl
  | list (item :: items), level, fuel + 1, rest, enough, closes => by
    have shape : (list (item :: items)).writeBlock level ++ rest =
        '[' :: (newLine (level + 1) ++ (item.writeBlock (level + 1) ++
          (writeItemLines (level + 1) items ++ (newLine level ++ ']' :: rest)))) := by
      simp [writeBlock]
    have starts := (starts_writeBlock item (level + 1)).append
      (writeItemLines (level + 1) items ++ (newLine level ++ ']' :: rest))
    have skip := (skipSpace_newLine (level + 1) _).trans starts.skipSpace
    rw [shape, readValue_list skip starts,
      readItems_writeLines (item :: items) rfl (level + 1) level fuel [] rest (by
        simp only [writeBlock, List.length_append, List.length_cons, length_newLine] at enough
        omega)]
    rfl
  | object [], level, fuel + 1, rest, enough, closes => rfl
  | object ((name, value) :: fields), level, fuel + 1, rest, enough, closes => by
    have shape : (object ((name, value) :: fields)).writeBlock level ++ rest =
        '\x7b' :: (newLine (level + 1) ++ (writeText name ++ (':' :: ' ' ::
          (value.writeBlock (level + 1) ++
            (writeFieldLines (level + 1) fields ++ (newLine level ++ '\x7d' :: rest)))))) := by
      simp [writeBlock]
    have starts := (starts_writeText name).append (':' :: ' ' :: (value.writeBlock (level + 1) ++
      (writeFieldLines (level + 1) fields ++ (newLine level ++ '\x7d' :: rest))))
    have skip := (skipSpace_newLine (level + 1) _).trans starts.skipSpace
    rw [shape, readValue_object skip starts,
      readFields_writeLines ((name, value) :: fields) rfl (level + 1) level fuel [] rest (by
        simp only [writeBlock, List.length_append, List.length_cons, length_newLine] at enough
        omega)]
    rfl

/-- Items on lines of their own are read back up to the closing bracket. -/
theorem readItems_writeLines : (all : List Json) → {item : Json} → {items : List Json} →
    all = item :: items → (level close fuel : Nat) → (before : List Json) → (rest : List Char) →
    (item.writeBlock level).length + (writeItemLines level items).length < fuel →
    readItems fuel before (item.writeBlock level ++
        (writeItemLines level items ++ (newLine close ++ ']' :: rest))) =
      if areFinite all then some (.list (before ++ joinedItems all), rest) else none
  | item :: items, _, _, rfl, level, close, 0, before, rest, enough =>
    absurd enough (Nat.not_lt_zero _)
  | item :: items, _, _, rfl, level, close, fuel + 1, before, rest, enough => by
    have read := readValue_writeBlock item level fuel _ (by omega)
      (closes_itemLines level close items rest)
    rw [areFinite, joinedItems]
    cases finite : item.isFinite with
    | false =>
        rw [finite] at read
        exact readItems_none read
    | true =>
        rw [finite] at read
        cases shape : items with
        | nil =>
            rw [shape] at read
            exact readItems_last read (skipSpace_newLine close _)
        | cons next more =>
            have starts := (starts_writeBlock next level).append
              (writeItemLines level more ++ (newLine close ++ ']' :: rest))
            have goes : writeItemLines level items ++ (newLine close ++ ']' :: rest) =
                ',' :: (newLine level ++ (next.writeBlock level ++
                  (writeItemLines level more ++ (newLine close ++ ']' :: rest)))) := by
              simp [shape, writeItemLines]
            rw [goes] at read
            rw [← shape, goes, readItems_more read rfl, skipSpace_newLine, starts.skipSpace,
              readItems_writeLines items shape level close fuel _ _ (by
                rw [shape, writeItemLines] at enough
                simp only [List.length_append, List.length_cons, length_newLine] at enough
                omega), List.append_assoc]
            rfl

/-- Members on lines of their own are read back up to the closing brace. -/
theorem readFields_writeLines : (all : List (String × Json)) → {name : String} → {value : Json} →
    {fields : List (String × Json)} → all = (name, value) :: fields →
    (level close fuel : Nat) → (before : List (String × Json)) → (rest : List Char) →
    (value.writeBlock level).length + (writeFieldLines level fields).length < fuel →
    readFields fuel before (writeText name ++ (':' :: ' ' :: (value.writeBlock level ++
        (writeFieldLines level fields ++ (newLine close ++ '\x7d' :: rest))))) =
      if haveFinite all then some (.object (joinedFields before all), rest) else none
  | (name, value) :: fields, _, _, _, rfl, level, close, 0, before, rest, enough =>
    absurd enough (Nat.not_lt_zero _)
  | (name, value) :: fields, _, _, _, rfl, level, close, fuel + 1, before, rest, enough => by
    have read := readValue_writeBlock value level fuel _ (by omega)
      (closes_fieldLines level close fields rest)
    have starts := (starts_writeBlock value level).append
      (writeFieldLines level fields ++ (newLine close ++ '\x7d' :: rest))
    rw [haveFinite, joinedFields]
    cases finite : value.isFinite with
    | false =>
        rw [finite] at read
        exact readFields_none starts read
    | true =>
        rw [finite] at read
        cases shape : fields with
        | nil =>
            rw [shape] at starts read
            exact readFields_last starts read (skipSpace_newLine close _)
        | cons next more =>
            obtain ⟨label, content⟩ := next
            have later := (starts_writeText label).append (':' :: ' ' ::
              (content.writeBlock level ++
                (writeFieldLines level more ++ (newLine close ++ '\x7d' :: rest))))
            have goes : writeFieldLines level fields ++ (newLine close ++ '\x7d' :: rest) =
                ',' :: (newLine level ++ (writeText label ++ (':' :: ' ' ::
                  (content.writeBlock level ++
                    (writeFieldLines level more ++ (newLine close ++ '\x7d' :: rest)))))) := by
              simp [shape, writeFieldLines]
            rw [goes] at starts read
            rw [← shape, goes, readFields_more starts read rfl, skipSpace_newLine,
              later.skipSpace, readFields_writeLines fields shape level close fuel _ _ (by
                rw [shape, writeFieldLines] at enough
                simp only [List.length_append, List.length_cons, length_newLine] at enough
                omega)]
            rfl

end

end Standard

/-- The text of a value stands for that value, with halves of characters joined, if all its doubles
are finite; else it is no document. White space may follow it. -/
theorem decode?_indented (value : Json) :
    Standard.decode? (value.indented ++ "\n") =
      if value.isFinite then some value.joined else none := by
  have text : (value.indented ++ "\n").toList = value.writeBlock 0 ++ ['\n'] := by
    rw [indented, String.toList_append, String.toList_ofList]
    rfl
  have closes : Standard.Closes ['\n'] := by
    intro c head
    cases head
    exact Or.inr rfl
  have skip := ((Standard.starts_writeBlock value 0).append ['\n']).skipSpace
  have read := Standard.readValue_writeBlock value 0 ((value.writeBlock 0 ++ ['\n']).length + 1)
    ['\n'] (by rw [List.length_append]; omega) closes
  simp only [Standard.decode?, text, skip, read]
  cases value.isFinite <;> rfl

section Tidying

/-- Members with names of their own that have no halves to join keep their names and places. -/
theorem joinedFields_of_plain {fields : List (String × Json)} (before : List (String × Json))
    (plain : ∀ field ∈ fields, Text.joined field.1 = field.1)
    (once : ((before ++ fields).map (·.1)).Nodup) :
    joinedFields before fields = before ++ fields.map fun field => (field.1, field.2.joined) := by
  induction fields generalizing before with
  | nil => rw [joinedFields, List.map_nil, List.append_nil]
  | cons field rest ih =>
      obtain ⟨name, value⟩ := field
      have fresh : name ∉ before.map (·.1) := by
        rw [List.map_append, List.nodup_append] at once
        intro earlier
        exact once.2.2 name earlier name List.mem_cons_self rfl
      have next : ((before ++ [(name, value.joined)] ++ rest).map (·.1)).Nodup := by
        simpa using once
      rw [joinedFields, plain (name, value) List.mem_cons_self, Fields.put_of_notMem fresh,
        ih (before ++ [(name, value.joined)])
          (fun field among => plain field (List.mem_cons_of_mem _ among)) next]
      simp

mutual

/-- A value whose texts have no halves to join. -/
def Tidy : Json → Prop
  | null => True
  | bool _ => True
  | number _ => True
  | text value => Text.Tidy value
  | list items => AreTidy items
  | object fields => HaveTidy fields

/-- Items that are tidy. -/
def AreTidy : List Json → Prop
  | [] => True
  | item :: rest => item.Tidy ∧ AreTidy rest

/-- Members with tidy names and values. -/
def HaveTidy : List (String × Json) → Prop
  | [] => True
  | (name, value) :: rest => Text.Tidy name ∧ value.Tidy ∧ HaveTidy rest

end

theorem HaveTidy.names {fields : List (String × Json)} (tidy : HaveTidy fields) :
    ∀ field ∈ fields, Text.joined field.1 = field.1 := by
  induction fields with
  | nil => exact fun _ among => nomatch among
  | cons field rest ih => exact List.forall_mem_cons.mpr ⟨tidy.1.joined_eq, ih tidy.2.2⟩

mutual

/-- Joining halves changes nothing where there are none to join and every name is there once. -/
theorem Tidy.joined_eq : (value : Json) → value.Tidy → value.Once → value.joined = value
  | null, _, _ => rfl
  | bool _, _, _ => rfl
  | number _, _, _ => rfl
  | text _, tidy, _ => congrArg text (Text.Tidy.joined_eq tidy)
  | list items, tidy, once => congrArg list (AreTidy.joined_eq items tidy once)
  | object fields, tidy, once => by
    rw [joined, joinedFields_of_plain [] (HaveTidy.names tidy) once.1, List.nil_append,
      HaveTidy.joined_eq fields tidy once.2]

theorem AreTidy.joined_eq : (items : List Json) → AreTidy items → AreOnce items →
    joinedItems items = items
  | [], _, _ => rfl
  | item :: rest, tidy, once => by
    rw [joinedItems, Tidy.joined_eq item tidy.1 once.1, AreTidy.joined_eq rest tidy.2 once.2]

theorem HaveTidy.joined_eq : (fields : List (String × Json)) → HaveTidy fields →
    HaveOnce fields → (fields.map fun field => (field.1, field.2.joined)) = fields
  | [], _, _ => rfl
  | (name, value) :: rest, tidy, once => by
    rw [List.map_cons, Tidy.joined_eq value tidy.2.1 once.1,
      HaveTidy.joined_eq rest tidy.2.2 once.2]

end

end Tidying

end Json

end Walkthrough
