/-!
# Words of a command

A command is given in words, some of which are options. An option has a name behind two dashes, or a
single letter behind one. The value of an option is the next word, unless it stands behind an equals
sign after the name, or right behind the letter. Letters can share a word, and two dashes alone end
the options.
-/

namespace Walkthrough

/-- What an option does to the choices made so far. -/
inductive OptionUse (α : Type) where
  | flag (choose : α → α)
  | value (choose : String → α → α)

/-- An option with all its names. -/
structure OptionRule (α : Type) where
  names : List String
  use : OptionUse α

/-- Words that are sorted out: the choices that the options make, and the other words. -/
structure SortedWords (α : Type) where
  choices : α
  arguments : List String

namespace OptionRule

variable {α : Type}

/-- What the option of a name does. -/
def find? (rules : List (OptionRule α)) (name : String) : Option (OptionUse α) :=
  (rules.find? fun rule => rule.names.contains name).map (·.use)

/-- Whether a word is one for options. -/
def isOptionWord (word : String) : Bool :=
  match word.toList with
  | '-' :: _ :: _ => true
  | _ => false

/-- The choices after a word of letters, and what to do with the next word if the last letter needs
a value from it. -/
def useLetters (rules : List (OptionRule α)) (choices : α) :
    List Char → Option (α × Option (String → α → α))
  | [] => some (choices, none)
  | letter :: rest =>
    match find? rules (String.ofList ['-', letter]) with
    | none => none
    | some (.flag choose) => useLetters rules (choose choices) rest
    | some (.value choose) =>
      if rest.isEmpty then some (choices, some choose)
      else some (choose (String.ofList rest) choices, none)

/-- The choices after a word with a whole name, and what to do with the next word if the option
needs a value from it. -/
def useName (rules : List (OptionRule α)) (choices : α) (word : List Char) :
    Option (α × Option (String → α → α)) :=
  let name := String.ofList (word.takeWhile (· != '='))
  match find? rules name, word.dropWhile (· != '=') with
  | some (.flag choose), [] => some (choose choices, none)
  | some (.value choose), [] => some (choices, some choose)
  | some (.value choose), _ :: value => some (choose (String.ofList value) choices, none)
  | _, _ => none

/-- The choices after a word for options. -/
def useWord (rules : List (OptionRule α)) (choices : α) (word : String) :
    Option (α × Option (String → α → α)) :=
  match word.toList with
  | '-' :: '-' :: _ => useName rules choices word.toList
  | _ => useLetters rules choices (word.toList.drop 1)

/-- Sorts words out; nothing if an option is unknown, lacks its value or has one that it does not
take. Unless options are allowed anywhere, the first other word ends them. `waiting` is the use of
the next word, if an option needs its value from it. -/
def sort (rules : List (OptionRule α)) (anywhere : Bool) (choices : α)
    (waiting : Option (String → α → α)) : List String → Option (SortedWords α)
  | [] => if waiting.isSome then none else some ⟨choices, []⟩
  | word :: rest =>
    match waiting with
    | some choose => sort rules anywhere (choose word choices) none rest
    | none =>
      if word = "--" then some ⟨choices, rest⟩
      else if isOptionWord word then
        (useWord rules choices word).bind fun (choices, waiting) =>
          sort rules anywhere choices waiting rest
      else if anywhere then
        (sort rules anywhere choices none rest).map fun sorted =>
          { sorted with arguments := word :: sorted.arguments }
      else some ⟨choices, word :: rest⟩

end OptionRule

end Walkthrough
