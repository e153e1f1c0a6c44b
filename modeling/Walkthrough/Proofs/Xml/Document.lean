import Walkthrough.Proofs.Xml.Spelling

/-!
# Reading documents that are written

A document that is written reads as the tree that it was written from, with the white space between
the elements, if all of its texts have only characters that may stand in a document, and as nothing
otherwise (`Walkthrough.Xml.root?_document`).
-/

namespace Walkthrough.Xml

open Text

/-- Whether a text is a name in ASCII. -/
def isName (name : String) : Bool :=
  match name.toList with
  | [] => false
  | c :: rest => isNameStart c && rest.all isNameChar && (c :: rest).all fun d => d.toNat < 0x80

/-- Attributes with names that differ from each other. -/
structure Labelled (attributes : List (String × String)) : Prop where
  names : (attributes.map (·.1)).all isName = true
  once : (attributes.map (·.1)).Nodup

/-- An element with proper names throughout. -/
inductive Named : Xml → Prop
  | leaf {name : String} {attributes : List (String × String)} {text : String} :
      isName name = true → Labelled attributes → Named (.leaf name attributes text)
  | branch {name : String} {attributes : List (String × String)} {children : List Xml} :
      isName name = true → Labelled attributes → (∀ child ∈ children, Named child) →
      Named (.branch name attributes children)

/-- Whether all values have only characters that may stand in a document. -/
def areLegal (attributes : List (String × String)) : Bool :=
  attributes.all fun label => isLegalText label.2

mutual

/-- Whether all texts of an element have only characters that may stand in a document. -/
def isReadable : Xml → Bool
  | leaf _ attributes text => areLegal attributes && isLegalText text
  | branch _ attributes children => areLegal attributes && areReadable children

/-- Whether all texts of some elements have only characters that may stand in a document. -/
def areReadable : List Xml → Bool
  | [] => true
  | child :: rest => isReadable child && areReadable rest

end

/-- Attributes as they are read. -/
def shownAttributes (attributes : List (String × String)) : List (String × String) :=
  attributes.map fun label => (label.1, shown label.2)

/-- The text that a text between tags reads as, if there is any. -/
def readText (text : String) : List Node :=
  if (shown text).isEmpty then [] else [.text (String.ofList (plainBreaks (shown text).toList))]

/-- The white space of a new line at a level. -/
def space (level : Nat) : Node :=
  .text (String.ofList (newLine level))

mutual

/-- What an element at a level reads as. -/
def tree (level : Nat) : Xml → Node
  | leaf name attributes text => .element name (shownAttributes attributes) (readText text)
  | branch name attributes [] => .element name (shownAttributes attributes) []
  | branch name attributes (child :: rest) =>
    .element name (shownAttributes attributes) (trees (level + 1) (child :: rest) ++ [space level])

/-- What elements on lines of their own at a level read as. -/
def trees (level : Nat) : List Xml → List Node
  | [] => []
  | child :: rest => space level :: tree level child :: trees level rest

end

theorem isName_iff {name : String} : isName name = true ↔ ∃ c rest, name.toList = c :: rest ∧
    isNameStart c = true ∧ (∀ d ∈ rest, isNameChar d = true) ∧
    ∀ d ∈ name.toList, d.toNat < 0x80 := by
  unfold isName
  split
  · next empty => simp [empty]
  · next c rest filled => simp [filled, and_assoc]

/-- A text of which all characters may stand in a document is shown as it is. -/
theorem shownChars_of_isLegalText {text : String} (legal : isLegalText text = true) :
    shownChars text.toList = (codes text.toList).map Char.ofNat := by
  refine List.map_congr_left fun code among => ?_
  have stands : isLegal code = true := List.all_eq_true.mp legal code among
  cases half : isHalf code with
  | true =>
      rw [isLegal_of_isHalf half] at stands
      cases stands
  | false => simp only [shownCode, half, Bool.false_eq_true, if_false]

/-- Attributes as they are written. -/
def writtenAttributes (attributes : List (String × String)) : List Char :=
  attributes.flatMap fun label => ' ' :: label.1.toList ++ ['=', '"'] ++
    (codes label.2.toList).flatMap attributeCode ++ ['"']

theorem opening_eq (name : String) (attributes : List (String × String)) :
    opening name attributes = '<' :: name.toList ++ writtenAttributes attributes :=
  rfl

theorem ascii_of_isName {name : String} (named : isName name = true) :
    ∀ c ∈ name.toList, c.toNat < 0x80 := by
  obtain ⟨_, _, _, _, _, ascii⟩ := isName_iff.mp named
  exact ascii

theorem shownChars_attribute {name : String} (named : isName name = true) (value : String)
    (s : List Char) :
    shownChars (' ' :: name.toList ++ ['=', '"'] ++ (codes value.toList).flatMap attributeCode ++
      ['"'] ++ s) = ' ' :: name.toList ++ ['=', '"'] ++ inAttribute value.toList ++
        '"' :: shownChars s := by
  have lead : ∀ c ∈ ' ' :: name.toList ++ ['=', '"'], c.toNat < 0x80 := by
    intro c among
    simp only [List.cons_append, List.mem_cons, List.mem_append, List.not_mem_nil, or_false]
      at among
    rcases among with rfl | letter | rfl | rfl
    · decide
    · exact ascii_of_isName named c letter
    · decide
    · decide
  rw [List.append_assoc, List.append_assoc, shownChars_append_of_ascii lead, shownChars_inAttribute,
    shownChars_append_of_ascii (by simp)]
  simp

namespace Reader

/-- Names are collected from their first character on. -/
theorem read_name (reader : Reader) (place : List Char → Place) {rest : List Char}
    (proper : ∀ c ∈ rest, isNameChar c = true)
    (collects : ∀ c before, isNameChar c = true → before ≠ [] →
      (reader.goTo (place before)).step c = some (reader.goTo (place (c :: before))))
    (first : Char) (s : List Char) :
    (reader.goTo (place [first])).read (rest ++ s) =
      (reader.goTo (place (first :: rest).reverse)).read s := by
  have all := read_collect (fun before => reader.goTo (place (before ++ [first])))
    (fun c among before => collects c (before ++ [first]) (proper c among) (by simp)) [] s
  simpa using all

theorem read_label (reader : Reader) (head : Head) {rest : List Char}
    (proper : ∀ c ∈ rest, isNameChar c = true) (first : Char) (s : List Char) :
    (reader.goTo (.label head [first])).read (rest ++ s) =
      (reader.goTo (.label head (first :: rest).reverse)).read s :=
  read_name reader (.label head) proper (fun c before isChar _ => by simp [step, goTo, isChar])
    first s

theorem read_startName (reader : Reader) {rest : List Char}
    (proper : ∀ c ∈ rest, isNameChar c = true) (first : Char) (s : List Char) :
    (reader.goTo (.startName [first])).read (rest ++ s) =
      (reader.goTo (.startName (first :: rest).reverse)).read s :=
  read_name reader .startName proper (fun c before isChar _ => by simp [step, goTo, isChar])
    first s

theorem read_endName (reader : Reader) {rest : List Char}
    (proper : ∀ c ∈ rest, isNameChar c = true) (first : Char) (s : List Char) :
    (reader.goTo (.endName [first])).read (rest ++ s) =
      (reader.goTo (.endName (first :: rest).reverse)).read s :=
  read_name reader .endName proper
    (fun c before isChar filled => by simp [step, goTo, isChar, filled]) first s

/-- The characters up to the closing quote are the value of an attribute. -/
theorem read_value (reader : Reader) (head : Head) (label : String) {raw : List Char}
    (bare : '"' ∉ raw) (s : List Char) :
    (reader.goTo (.value head label '"' [])).read (raw ++ '"' :: s) =
      (reader.afterValue head label raw).bind fun next => next.read s := by
  have all := read_collect (fun before => reader.goTo (.value head label '"' before))
    (fun c among before => by
      have other : c ≠ '"' := by
        rintro rfl
        exact bare among
      simp [step, goTo, other]) [] ('"' :: s)
  rw [all, read]
  simp [step, goTo, afterValue]

/-- The characters up to the next tag are collected for a text. -/
theorem read_text (reader : Reader) {raw : List Char} (bare : '<' ∉ raw) (s : List Char) :
    (reader.goTo (.text [])).read (raw ++ s) = (reader.goTo (.text raw.reverse)).read s := by
  have all := read_collect (fun before => reader.goTo (.text before))
    (fun c among before => by
      have other : c ≠ '<' := by
        rintro rfl
        exact bare among
      simp [step, goTo, other]) [] s
  rw [all, List.append_nil]

/-- A name begins with nothing that could end a tag. -/
theorem apart_of_isNameStart {c : Char} (start : isNameStart c = true) :
    isSpace c = false ∧ c ≠ '>' ∧ c ≠ '/' := by
  refine ⟨Bool.eq_false_iff.mpr fun blank => ?_, ?_, ?_⟩
  · simp only [isSpace, Bool.or_eq_true, beq_iff_eq] at blank
    rcases blank with ((rfl | rfl) | rfl) | rfl
    all_goals exact absurd start (by decide)
  all_goals
    rintro rfl
    exact absurd start (by decide)

/-- An attribute that is written is read as it was. -/
theorem read_attribute {reader : Reader} {head : Head} {name : String} (value : String)
    (named : isName name = true) (fresh : head.attributes.any (fun other => other.1 = name) = false)
    (s : List Char) :
    (reader.goTo (.tag head false)).read (' ' :: name.toList ++ ['=', '"'] ++
      inAttribute value.toList ++ '"' :: s) =
      if isLegalText value then (reader.goTo (.tag { head with
        attributes := head.attributes ++ [(name, shown value)] } false)).read s else none := by
  obtain ⟨first, rest, spelled, start, proper, -⟩ := isName_iff.mp named
  have enters : ((reader.goTo (.tag head true)).step first) =
      some (reader.goTo (.label head [first])) := by
    obtain ⟨blank, right, slash⟩ := apart_of_isNameStart start
    simp [step, goTo, inTag, blank, right, slash, start]
  have labelled : String.ofList (first :: rest).reverse.reverse = name := by
    rw [List.reverse_reverse, ← spelled, String.ofList_toList]
  have bare : '"' ∉ inAttribute value.toList := fun among =>
    (isBare_iff.mp (List.all_eq_true.mp (all_inAttribute value.toList) '"' among)).2.1 rfl
  calc (reader.goTo (.tag head false)).read (' ' :: name.toList ++ ['=', '"'] ++
        inAttribute value.toList ++ '"' :: s)
    _ = (reader.goTo (.tag head true)).read (first :: (rest ++ '=' :: '"' ::
        (inAttribute value.toList ++ '"' :: s))) := by
      rw [spelled]
      simp
      rfl
    _ = (reader.goTo (.label head (first :: rest).reverse)).read ('=' :: '"' ::
        (inAttribute value.toList ++ '"' :: s)) := by
      rw [read, enters, Option.bind_some, read_label reader head proper]
    _ = (reader.goTo (.value head (String.ofList (first :: rest).reverse.reverse) '"' [])).read
        (inAttribute value.toList ++ '"' :: s) := rfl
    _ = _ := by
      rw [labelled, read_value reader head name bare, afterValue, if_neg (by simp [fresh]),
        value?_inAttribute]
      cases legal : isLegalText value with
      | false => rfl
      | true =>
          rw [if_pos rfl, if_pos rfl, ← shownChars_of_isLegalText legal, ← toList_shown,
            Option.map_some, String.ofList_toList, Option.bind_some]

/-- Attributes that are written are read as they were. -/
theorem read_attributes {reader : Reader} {head : Head} {attributes : List (String × String)}
    (names : (attributes.map (·.1)).all isName = true)
    (once : ((head.attributes ++ attributes).map (·.1)).Nodup) (s : List Char) :
    (reader.goTo (.tag head false)).read (shownChars (writtenAttributes attributes ++ s)) =
      if areLegal attributes then (reader.goTo (.tag { head with
        attributes := head.attributes ++ shownAttributes attributes } false)).read (shownChars s)
      else none := by
  induction attributes generalizing head with
  | nil => simp [areLegal, shownAttributes, writtenAttributes]
  | cons label rest ih =>
      obtain ⟨name, value⟩ := label
      obtain ⟨named, proper⟩ := (Bool.and_eq_true _ _).mp names
      have fresh : head.attributes.any (fun other => other.1 = name) = false := by
        rw [List.any_eq_false]
        intro other among same
        rw [List.map_append, List.nodup_append] at once
        exact once.2.2 other.1 (List.mem_map_of_mem among) name List.mem_cons_self
          (of_decide_eq_true same)
      rw [writtenAttributes, List.flatMap_cons, List.append_assoc, ← writtenAttributes,
        shownChars_attribute named, read_attribute value named fresh, areLegal, List.all_cons]
      have others : ((head.attributes ++ [(name, shown value)] ++ rest).map (·.1)).Nodup := by
        simpa using once
      have later := @ih { head with attributes := head.attributes ++ [(name, shown value)] }
        proper others
      cases isLegalText value with
      | false => rfl
      | true =>
          rw [if_pos rfl, later, Bool.true_and, areLegal]
          simp only [shownAttributes, List.map_cons, List.append_assoc, List.singleton_append]

/-- The start of an element is read with its name and its attributes. -/
theorem read_opening {reader next : Reader} {name : String} {attributes : List (String × String)}
    (named : isName name = true) (labelled : Labelled attributes)
    (begun : reader.step '<' = some (next.goTo .opening)) (fresh : next.root = none) {c : Char}
    (turns : isNameChar c = false) (ascii : c.toNat < 0x80) (s : List Char) :
    reader.read (shownChars (opening name attributes ++ c :: s)) =
      if areLegal attributes then
        (next.goTo (.tag ⟨name, shownAttributes attributes⟩ false)).read (c :: shownChars s)
      else none := by
  obtain ⟨first, rest, spelled, start, proper, -⟩ := isName_iff.mp named
  have lead : ∀ d ∈ '<' :: name.toList, d.toNat < 0x80 := by
    rintro d (_ | ⟨_, letter⟩)
    · decide
    · exact ascii_of_isName named d letter
  have starts : (next.goTo .opening).step first = some (next.goTo (.startName [first])) := by
    obtain ⟨-, -, slash⟩ := apart_of_isNameStart start
    simp [step, goTo, slash, start, fresh]
  -- Behind the name the reader is in the tag, as behind an attribute.
  have turn {d : Char} (other : isNameChar d = false) (t : List Char) :
      (next.goTo (.startName (first :: rest).reverse)).read (d :: t) =
        (next.goTo (.tag { name } false)).read (d :: t) := by
    have written : String.ofList (first :: rest).reverse.reverse = name := by
      rw [List.reverse_reverse, ← spelled, String.ofList_toList]
    simp only [read, step, goTo, other, Bool.false_eq_true, if_false, written, inTag, enter]
  have ends : shownChars (c :: s) = c :: shownChars s :=
    shownChars_append_of_ascii (a := [c]) (by simpa using ascii) s
  have labels := @read_attributes next { name } attributes labelled.names
    (by simpa using labelled.once) (c :: s)
  simp only [List.nil_append, ends] at labels
  -- What follows the name is a blank or the character behind the attributes.
  obtain ⟨d, leads, other⟩ : ∃ d, (shownChars (writtenAttributes attributes ++ c :: s)).head? =
      some d ∧ isNameChar d = false := by
    cases attributes with
    | nil => exact ⟨c, congrArg List.head? ends, turns⟩
    | cons label more =>
        refine ⟨' ', ?_, by decide⟩
        rw [writtenAttributes, List.flatMap_cons, List.append_assoc,
          shownChars_attribute ((Bool.and_eq_true _ _).mp labelled.names).1]
        rfl
  obtain ⟨t, follows⟩ := List.head?_eq_some_iff.mp leads
  rw [opening_eq, List.append_assoc, shownChars_append_of_ascii lead, spelled, List.cons_append,
    List.cons_append, read, begun, Option.bind_some, read, starts, Option.bind_some,
    read_startName next proper, follows, turn other, ← follows, labels]

/-- The end of an element closes it. -/
theorem read_closing {reader next : Reader} {name : String}
    (named : isName name = true) (begun : reader.step '<' = some (next.goTo .opening))
    (s : List Char) :
    reader.read (shownChars (closing name ++ s)) =
      (next.leave? name).bind fun after => after.read (shownChars s) := by
  obtain ⟨first, rest, spelled, start, proper, -⟩ := isName_iff.mp named
  have ascii : ∀ d ∈ closing name, d.toNat < 0x80 := by
    intro d among
    simp only [closing, List.mem_append, List.mem_cons, List.not_mem_nil, or_false] at among
    rcases among with ((rfl | rfl) | letter) | rfl
    · decide
    · decide
    · exact ascii_of_isName named d letter
    · decide
  have starts : (next.goTo (.endName [])).step first = some (next.goTo (.endName [first])) := by
    simp [step, goTo, start]
  have written : String.ofList (first :: rest).reverse.reverse = name := by
    rw [List.reverse_reverse, ← spelled, String.ofList_toList]
  calc reader.read (shownChars (closing name ++ s))
    _ = (next.goTo (.endName [])).read (first :: (rest ++ '>' :: shownChars s)) := by
      rw [shownChars_append_of_ascii ascii, closing, spelled]
      simp only [List.cons_append, List.nil_append, List.append_assoc]
      rw [read, begun]
      rfl
    _ = (next.goTo (.endName (first :: rest).reverse)).read ('>' :: shownChars s) := by
      rw [read, starts, Option.bind_some, read_endName next proper]
    _ = (next.leave? (String.ofList (first :: rest).reverse.reverse)).bind fun after =>
        after.read (shownChars s) := by
      have ends : (next.goTo (.endName (first :: rest).reverse)).step '>' =
          next.leave? (String.ofList (first :: rest).reverse.reverse) := by
        have letter : isNameChar '>' = false := by decide
        have blank : isSpace '>' = false := by decide
        simp [step, goTo, letter, afterEndName, blank, leave?, complete]
      rw [read, ends]
    _ = (next.leave? name).bind fun after => after.read (shownChars s) := by rw [written]

/-- An element without content. -/
theorem read_emptied {reader next : Reader} {name : String} {attributes : List (String × String)}
    (named : isName name = true) (labelled : Labelled attributes)
    (begun : reader.step '<' = some (next.goTo .opening)) (fresh : next.root = none)
    (s : List Char) :
    reader.read (shownChars (opening name attributes ++ [' ', '/', '>'] ++ s)) =
      if areLegal attributes then
        (next.complete (.element name (shownAttributes attributes) [])).read (shownChars s)
      else none := by
  have ends : shownChars ('/' :: '>' :: s) = '/' :: '>' :: shownChars s :=
    shownChars_append_of_ascii (a := ['/', '>']) (by simp) s
  have started := read_opening named labelled begun fresh (c := ' ') (by decide) (by decide)
    ('/' :: '>' :: s)
  rw [List.append_assoc]
  refine started.trans ?_
  rw [ends]
  rfl

/-- An element with content is entered. -/
theorem read_entered {reader next : Reader} {name : String} {attributes : List (String × String)}
    (named : isName name = true) (labelled : Labelled attributes)
    (begun : reader.step '<' = some (next.goTo .opening)) (fresh : next.root = none)
    (s : List Char) :
    reader.read (shownChars (opening name attributes ++ '>' :: s)) =
      if areLegal attributes then
        (next.enter ⟨name, shownAttributes attributes⟩).read (shownChars s)
      else none :=
  read_opening named labelled begun fresh (by decide) (by decide) s

/-- Leaving an element that was entered completes it. -/
theorem leave?_entered (next : Reader) (place : Place) (head : Head) (content : List Node) :
    Reader.leave? ⟨place, (head, content) :: next.opened, next.root⟩ head.name =
      some (next.complete (.element head.name head.attributes content.reverse)) := by
  simp only [leave?, if_true]
  rfl

/-- What stands before a tag is kept as a text. -/
theorem step_text (reader : Reader) (raw : List Char) :
    (reader.goTo (.text raw)).step '<' =
      ((reader.goTo (.text raw)).withText? raw).map fun next => next.goTo .opening :=
  rfl

/-- What stands before an end tag becomes part of the content of its element. -/
theorem read_text_closing (reader : Reader) {name : String} (named : isName name = true)
    {raw : List Char} (bare : '<' ∉ raw) (s : List Char) :
    (reader.goTo (.text [])).read (raw ++ shownChars (closing name ++ s)) =
      ((reader.goTo (.text raw.reverse)).withText? raw.reverse).bind fun next =>
        (next.leave? name).bind fun after => after.read (shownChars s) := by
  rw [read_text reader bare]
  have turn := step_text reader raw.reverse
  cases kept : (reader.goTo (.text raw.reverse)).withText? raw.reverse with
  | none =>
      rw [kept] at turn
      have starts : shownChars (closing name ++ s) =
          '<' :: shownChars ('/' :: name.toList ++ ['>'] ++ s) :=
        shownChars_append_of_ascii (a := ['<']) (by simp) _
      rw [starts, read, turn]
      rfl
  | some next =>
      rw [kept] at turn
      exact read_closing named turn s

end Reader

theorem inText_eq_nil {s : List Char} (empty : inText s = []) : codes s = [] := by
  cases listed : codes s with
  | nil => rfl
  | cons code rest =>
      have small : code < 0x110000 := lt_of_mem_codesFrom (listed ▸ List.mem_cons_self)
      have nothing : shownChars (textCode code) = [] := by
        rw [inText, listed, List.flatMap_cons] at empty
        exact (List.append_eq_nil_iff.mp empty).1
      have found := resolved?_textCode small []
      rw [nothing] at found
      cases legal : isLegal code with
      | false => simp [resolved?, legal] at found
      | true => simp [resolved?, legal] at found

/-- What is read of a text that is written between tags. -/
theorem withText?_inText {reader : Reader} {head : Head} {content : List Node}
    {outer : List (Head × List Node)} (within : reader.opened = (head, content) :: outer)
    (text : String) : reader.withText? (inText text.toList).reverse =
      if isLegalText text then
        some { reader with opened := (head, (readText text).reverse ++ content) :: outer }
      else none := by
  by_cases empty : inText text.toList = []
  · have none := inText_eq_nil empty
    have legal : isLegalText text = true := by
      rw [isLegalText, none]
      rfl
    have blank : readText text = [] := by simp [readText, shown, none]
    simp only [empty, legal, blank, List.reverse_nil, List.nil_append, ← within, if_true]
    rfl
  · have filled : (inText text.toList).reverse.isEmpty = false := by simpa using empty
    have shows : (shown text).isEmpty = false := by
      rw [← Bool.not_eq_true, String.isEmpty_iff]
      intro blank
      have listed := toList_shown text
      rw [blank] at listed
      exact empty (by rw [inText, List.map_eq_nil_iff.mp listed.symm]; rfl)
    simp only [Reader.withText?, filled, Bool.false_eq_true, if_false, within, List.reverse_reverse,
      content?_inText]
    cases legal : isLegalText text with
    | false => rfl
    | true =>
        rw [if_pos rfl, if_pos rfl, ← shownChars_of_isLegalText legal, ← toList_shown, readText,
          shows]
        rfl

theorem mem_newLine {level : Nat} {c : Char} (among : c ∈ newLine level) : c = '\n' ∨ c = ' ' := by
  simp only [newLine, List.mem_cons, List.mem_replicate] at among
  exact among.imp id And.right

theorem not_mem_newLine {c : Char} (feed : c ≠ '\n') (blank : c ≠ ' ') (level : Nat) :
    c ∉ newLine level := by
  intro among
  rcases mem_newLine among with same | same
  · exact feed same
  · exact blank same

theorem shownChars_newLine (level : Nat) (s : List Char) :
    shownChars (newLine level ++ s) = newLine level ++ shownChars s := by
  refine shownChars_append_of_ascii (fun c among => ?_) s
  rcases mem_newLine among with rfl | rfl
  all_goals decide

theorem resolved?_newLine {s : List Char} (spaces : ∀ c ∈ s, c = '\n' ∨ c = ' ') :
    resolved? none s = some s := by
  induction s with
  | nil => rfl
  | cons c rest ih =>
      have later := ih fun d among => spaces d (List.mem_cons_of_mem _ among)
      rcases spaces c List.mem_cons_self with rfl | rfl
      all_goals
        rw [resolved?, later]
        rfl

theorem withText?_newLine {reader : Reader} {head : Head} {content : List Node}
    {outer : List (Head × List Node)} (within : reader.opened = (head, content) :: outer)
    (level : Nat) : reader.withText? (newLine level).reverse =
      some { reader with opened := (head, space level :: content) :: outer } := by
  have apart : occursIn "]]>".toList (newLine level) = false :=
    occursIn_eq_false (by decide) (not_mem_newLine (c := '>') (by decide) (by decide) level)
  have plain : plainBreaks (newLine level) = newLine level := by
    refine plainBreaks_eq_self (List.all_eq_true.mpr fun c among => ?_)
    rcases mem_newLine among with rfl | rfl
    all_goals decide
  have filled : (newLine level).reverse.isEmpty = false := by simp [newLine]
  simp only [Reader.withText?, filled, Bool.false_eq_true, if_false, within, List.reverse_reverse,
    content?, apart, plain, resolved?_newLine fun _ => mem_newLine, Option.map_some, space]

mutual

/-- An element that is written is read as its tree. -/
theorem read_write : (xml : Xml) → xml.Named → ∀ (level : Nat) (reader next : Reader)
    (s : List Char), reader.step '<' = some (next.goTo .opening) → next.root = none →
    reader.read (shownChars (write level xml ++ s)) =
      if xml.isReadable then (next.complete (tree level xml)).read (shownChars s) else none
  | .leaf name attributes text, named, level, reader, next, s, begun, fresh => by
      obtain ⟨named, labelled⟩ | _ := named
      rw [write, isReadable, tree]
      by_cases empty : text.isEmpty = true
      · obtain rfl := String.isEmpty_iff.mp empty
        have legal : isLegalText "" = true := rfl
        rw [if_pos empty, Reader.read_emptied named labelled begun fresh, legal, Bool.and_true]
        rfl
      · have bare : '<' ∉ inText text.toList := fun among => by
          simpa using List.all_eq_true.mp (all_inText text.toList) '<' among
        have ended := Reader.read_text_closing (next.enter ⟨name, shownAttributes attributes⟩) named
          bare s
        rw [if_neg empty, List.append_assoc, List.append_assoc, List.cons_append,
          Reader.read_entered named labelled begun fresh, shownChars_inText]
        cases areLegal attributes with
        | false => rfl
        | true =>
            rw [if_pos rfl, Bool.true_and]
            refine ended.trans ?_
            rw [withText?_inText (Eq.refl _)]
            cases isLegalText text with
            | false => rfl
            | true =>
                have left := Reader.leave?_entered next (.text (inText text.toList).reverse)
                  ⟨name, shownAttributes attributes⟩ ((readText text).reverse ++ [])
                rw [List.append_nil, List.reverse_reverse] at left
                simp only [if_true, Option.bind_some, Reader.goTo, Reader.enter, List.append_nil,
                  left]
  | .branch name attributes [], named, level, reader, next, s, begun, fresh => by
      obtain _ | ⟨named, labelled, _⟩ := named
      rw [write, Reader.read_emptied named labelled begun fresh, isReadable, areReadable,
        Bool.and_true, tree]
  | .branch name attributes (child :: rest), named, level, reader, next, s, begun, fresh => by
      obtain _ | ⟨named, labelled, others⟩ := named
      obtain ⟨place, opened, root⟩ := next
      obtain rfl : root = none := fresh
      have inner := read_writeAll (child :: rest) others (level + 1)
        ⟨name, shownAttributes attributes⟩ [] opened (newLine level ++ (closing name ++ s))
      have ended := Reader.read_text_closing
        ⟨.outside, (⟨name, shownAttributes attributes⟩,
          (trees (level + 1) (child :: rest)).reverse) :: opened, none⟩ named
        (not_mem_newLine (by decide) (by decide) level) s
      have left := Reader.leave?_entered ⟨place, opened, none⟩ (.text (newLine level).reverse)
        ⟨name, shownAttributes attributes⟩
        (space level :: (trees (level + 1) (child :: rest)).reverse)
      rw [withText?_newLine (Eq.refl _)] at ended
      rw [List.reverse_cons, List.reverse_reverse] at left
      rw [write, isReadable, tree, List.append_assoc, List.append_assoc, List.append_assoc,
        List.cons_append, Reader.read_entered named labelled begun rfl]
      cases areLegal attributes with
      | false => rfl
      | true =>
          rw [if_pos rfl, Bool.true_and]
          refine inner.trans ?_
          cases areReadable (child :: rest) with
          | false => rfl
          | true =>
              rw [if_pos rfl, if_pos rfl, List.append_nil, shownChars_newLine]
              refine ended.trans ?_
              simp only [Option.bind_some, Reader.goTo, left]

/-- Elements on lines of their own are read as their trees with white space between them. -/
theorem read_writeAll : (children : List Xml) → (∀ child ∈ children, child.Named) →
    ∀ (level : Nat) (head : Head) (content : List Node) (outer : List (Head × List Node))
      (s : List Char),
    (⟨.text [], (head, content) :: outer, none⟩ : Reader).read
        (shownChars (writeAll level children ++ s)) =
      if areReadable children then
        (⟨.text [], (head, (trees level children).reverse ++ content) :: outer, none⟩ : Reader).read
          (shownChars s)
      else none
  | [], _, level, head, content, outer, s => by
      simp [writeAll, areReadable, trees]
  | child :: rest, named, level, head, content, outer, s => by
      have others : ∀ other ∈ rest, other.Named := fun other among =>
        named other (List.mem_cons_of_mem _ among)
      have later := read_writeAll rest others level head
        (tree level child :: space level :: content) outer s
      have collected := Reader.read_text ⟨.outside, (head, content) :: outer, none⟩
        (not_mem_newLine (by decide) (by decide) level)
        (shownChars (write level child ++ (writeAll level rest ++ s)))
      have begun :=
        Reader.step_text ⟨.outside, (head, content) :: outer, none⟩ (newLine level).reverse
      rw [withText?_newLine (Eq.refl _), Option.map_some] at begun
      have first := read_write child (named child List.mem_cons_self) level _ _
        (writeAll level rest ++ s) begun rfl
      rw [writeAll, areReadable, trees, List.append_assoc, List.append_assoc, shownChars_newLine]
      refine collected.trans (first.trans ?_)
      cases isReadable child with
      | false => rfl
      | true =>
          rw [if_pos rfl, Bool.true_and]
          refine later.trans ?_
          simp only [List.reverse_cons, List.append_assoc, List.nil_append, List.cons_append]

end

/-- The first line of every document that is written. -/
def declaration : List Char :=
  "<?xml version='1.0' encoding='utf-8'?>\n".toList

theorem toList_document (xml : Xml) : xml.document.toList = declaration ++ write 0 xml := by
  have body : (String.ofList (write 0 xml)).toList = write 0 xml := String.toList_ofList
  unfold document declaration
  rw [String.toList_append, body]

theorem shownChars_document (xml : Xml) :
    (shown xml.document).toList = declaration ++ shownChars (write 0 xml) := by
  have ascii : declaration.all (fun c => c.toNat < 0x80) = true := rfl
  rw [toList_shown, toList_document]
  exact shownChars_append_of_ascii
    (fun c among => of_decide_eq_true (List.all_eq_true.mp ascii c among)) _

/-- The declaration is one that a reader takes, and leaves the reader at the end of its line. -/
theorem root?_declaration (s : List Char) : root? (declaration ++ s) = body? ('\n' :: s) :=
  rfl

theorem body?_write {xml : Xml} (named : xml.Named) :
    body? ('\n' :: shownChars (write 0 xml)) =
      if xml.isReadable then some (xml.tree 0) else none := by
  have read := read_write xml named 0 ⟨.outside, [], none⟩ ⟨.outside, [], none⟩ [] rfl rfl
  rw [List.append_nil] at read
  have line : body? ('\n' :: shownChars (write 0 xml)) =
      (Reader.read ⟨.outside, [], none⟩ (shownChars (write 0 xml))).bind Reader.root? := rfl
  rw [line, read]
  cases xml.isReadable with
  | false => rfl
  | true => rfl

/-- **Reading a document that is written.** It reads as the tree of its root if all texts have only
characters that may stand in a document, and is none otherwise. -/
theorem root?_document {xml : Xml} (named : xml.Named) :
    root? (shown xml.document).toList = if xml.isReadable then some (xml.tree 0) else none := by
  rw [shownChars_document, root?_declaration, body?_write named]

end Walkthrough.Xml
