import Walkthrough.Console.Prompt
import Walkthrough.Console.Result
import Walkthrough.Proofs.Console.Tags
import Walkthrough.Proofs.Decimal.Figures

/-!
# What is printed as it is

The error and the notes of a step are escaped before they are printed, so that the line about them
has no tags but its own. Descriptions, the fields of a step and the messages of issues are put into
their lines as they are, so that these have the tags of such a text, too
(`Walkthrough.Printed.tags_of_texts`).
-/

namespace Walkthrough

namespace Printed

/-- The texts that the console takes as markup. -/
def markups : Printed → List String
  | blank => []
  | line markup _ => [markup]
  | panel markup title _ => title.toList ++ [markup]
  | table title _ columns rows => title :: (columns.map (·.title) ++ rows.flatten)

/-- The tags in what is printed. -/
def tags (printed : Printed) : List String :=
  printed.markups.flatMap Markup.tags

theorem tags_plain (markup : String) : (plain markup).tags = Markup.tags markup :=
  List.append_nil _

end Printed

open Text

namespace Markup

/-- A tag right behind a text: it keeps its meaning unless the text ends with an odd number of
backslashes. -/
def closing (text tag : String) : List String :=
  if byOdd (slashesAfter 0 text.toList) then [] else [tag]

/-- Markup with known tags that leaves no bracket open and no backslash at its end. -/
structure Settled (markup : String) (found : List String) : Prop where
  found_eq : tags markup = found
  closed : lastBracket markup.toList ≠ some '['
  clear : slashesAfter 0 markup.toList = 0

instance (markup : String) (found : List String) : Decidable (Settled markup found) :=
  decidable_of_iff (tags markup = found ∧ lastBracket markup.toList ≠ some '[' ∧
      slashesAfter 0 markup.toList = 0)
    ⟨fun parts => ⟨parts.1, parts.2.1, parts.2.2⟩,
      fun settled => ⟨settled.found_eq, settled.closed, settled.clear⟩⟩

variable {first second text : String} {found more : List String}

/-- Behind such markup a text has its own tags. -/
theorem Settled.tags_append (settled : Settled first found) (text : String) :
    tags (first ++ text) = found ++ tags text := by
  rw [tags_eq, String.toList_append, tagsFrom_append (Or.inl settled.closed), settled.clear,
    List.map_append, ← tags_eq, ← tags_eq, settled.found_eq]

theorem Settled.append (settled : Settled first found) (other : Settled second more) :
    Settled (first ++ second) (found ++ more) where
  found_eq := by rw [settled.tags_append, other.found_eq]
  closed := by
    have closed := other.closed
    rw [String.toList_append, lastBracket_append]
    cases last : lastBracket second.toList with
    | none => exact settled.closed
    | some bracket => rwa [last] at closed
  clear := by rw [String.toList_append, slashesAfter_append, settled.clear, other.clear]

/-- So has it in the midst of markup that opens and closes brackets of its own behind it. -/
theorem Settled.around (settled : Settled first found) (text : String)
    (starts : firstBracket second.toList ≠ some ']') (ends : lastBracket second.toList = some ']')
    (clear : ∀ slashes, slashesAfter slashes second.toList = 0) :
    Settled (first ++ text ++ second) (found ++ Markup.tags text ++
      (tagsFrom (slashesAfter 0 text.toList) second.toList).map String.ofList) where
  found_eq := by
    rw [String.append_assoc, settled.tags_append, List.append_assoc, tags_eq,
      String.toList_append, tagsFrom_append (Or.inr starts), List.map_append, ← tags_eq]
  closed := by
    rw [String.toList_append, lastBracket_append, ends, Option.some_or]
    decide
  clear := by rw [String.toList_append, slashesAfter_append, clear]

/-- Behind a text in such markup stands a tag. -/
theorem Settled.closing (settled : Settled first found) (text : String) {tag : String}
    (isTag : tag? tag.toList = some tag.toList) :
    Markup.tags (first ++ text ++ tag) =
      found ++ Markup.tags text ++ Markup.closing text tag := by
  have apart : Apart text.toList tag.toList := by
    obtain ⟨body, _, shape, -⟩ := tag?_eq_some_iff.mp isTag
    rw [shape]
    exact Or.inr (by rintro ⟨⟩)
  have own (slashes : Nat) : (tagsFrom slashes tag.toList).map String.ofList =
      if byOdd slashes then [] else [tag] := by
    have whole := tagsFrom_tag (by rwa [List.append_nil]) slashes
    rw [List.append_nil] at whole
    rw [whole]
    cases byOdd slashes <;> simp [tagsFrom, scan]
  rw [String.append_assoc, settled.tags_append, tags_eq, String.toList_append,
    tagsFrom_append apart, List.map_append, own, ← tags_eq, List.append_assoc]
  rfl

theorem Settled.append_plain (settled : Settled first found) (plain : Settled second []) :
    Settled (first ++ second) found := by
  simpa using settled.append plain

example : Settled "[bold green]✓[/bold green]" ["[bold green]", "[/bold green]"] := by decide

/-- A text without brackets and backslashes. -/
theorem settled_of_plain (bracketless : ∀ c ∈ text.toList, isBracket c = false)
    (clear : slashesAfter 0 text.toList = 0) : Settled text [] where
  found_eq := by
    have openless : '[' ∉ text.toList := fun member => absurd (bracketless _ member) (by decide)
    have whole := tagsFrom_append_of_openless openless 0 []
    rw [List.append_nil] at whole
    rw [tags_eq, whole]
    rfl
  closed := by
    rw [lastBracket_eq_none_iff.mpr (firstBracket_of_bracketless bracketless)]
    decide
  clear := clear

/-- Numbers, times and names are such texts. -/
theorem settled_of_areFigures (figures : areFigures text = true) : Settled text [] := by
  have other {c d : Char} (member : c ∈ text.toList) (odd : isFigure d = false) : c ≠ d :=
    ne_of_isFigure (List.all_eq_true.mp figures c member) odd
  refine settled_of_plain (fun c member => ?_) (slashesAfter_of_backslashless fun member => ?_)
  · have opens : c ≠ '[' := other member (by decide)
    have closes : c ≠ ']' := other member (by decide)
    simp [isBracket, opens, closes]
  · exact other member (by decide) rfl

end Markup

open Markup

namespace StepReport

/-- The icon of a step. -/
def icon (report : StepReport) : String :=
  if report.passed then "[bold green]✓[/bold green]" else "[bold red]✗[/bold red]"

/-- The word for how a step ended, behind its description. -/
def status (report : StepReport) : String :=
  "  " ++ if report.passed then "[green]PASS[/green]" else "[red]FAIL[/red]"

/-- The tags of the icon of a step. -/
def iconTags (report : StepReport) : List String :=
  if report.passed then ["[bold green]", "[/bold green]"] else ["[bold red]", "[/bold red]"]

/-- The tags of the word for how a step ended. -/
def statusTags (report : StepReport) : List String :=
  if report.passed then ["[green]", "[/green]"] else ["[red]", "[/red]"]

theorem settled_icon (report : StepReport) : Settled report.icon report.iconTags := by
  unfold icon iconTags
  split <;> decide

theorem settled_status {markup : String} {found : List String} (settled : Settled markup found)
    (report : StepReport) (text : String) :
    Settled (markup ++ text ++ report.status) (found ++ Markup.tags text ++ report.statusTags) := by
  have own : (tagsFrom (slashesAfter 0 text.toList) report.status.toList).map String.ofList =
      report.statusTags := by
    unfold status statusTags
    split <;> rfl
  rw [← own]
  unfold status
  split
  · exact settled.around text (by decide) (by decide) fun _ => rfl
  · exact settled.around text (by decide) (by decide) fun _ => rfl

/-- The line of a step has its own tags and those of the description and the name in it. -/
theorem tags_headLine (total : Int) (report : StepReport) :
    (report.headLine total).tags =
      report.iconTags ++ Markup.tags report.description ++ report.statusTags ++
        "[dim]" :: Markup.tags report.action ++ closing report.action "[/dim]" := by
  have figures {text : String} (figures : areFigures text = true) : Settled text [] :=
    settled_of_areFigures figures
  -- The line is put together from its front: whatever stands before the description, between it and
  -- the name of the action, and behind that leaves nothing open.
  have icon : Settled ("  " ++ report.icon) report.iconTags :=
    (by decide : Settled "  " []).append report.settled_icon
  have lead : Settled ("  " ++ report.icon ++ " Step " ++ toString report.ordinal ++ "/" ++
      toString total ++ ": ") report.iconTags :=
    ((((icon.append_plain (by decide)).append_plain (figures (areFigures_int _))).append_plain
      (by decide)).append_plain (figures (areFigures_int _))).append_plain (by decide)
  have middle := ((settled_status lead report report.description).append
    (by decide : Settled "  [dim]" ["[dim]"])).append_plain
      (figures (areFigures_fixed 1 report.seconds))
  have last := (middle.append_plain (by decide : Settled "s  " [])).closing report.action
    (by decide : tag? "[/dim]".toList = some "[/dim]".toList)
  have whole : report.headLine total = .plain ("  " ++ report.icon ++ " Step " ++
      toString report.ordinal ++ "/" ++ toString total ++ ": " ++ report.description ++
      report.status ++ "  [dim]" ++ report.seconds.fixed 1 ++ "s  " ++ report.action ++
      "[/dim]") := by
    refine congrArg Printed.plain ?_
    simp only [status, String.append_assoc]
    rfl
  rw [whole, Printed.tags_plain, last]
  simp

/-- The tags that the line of a step has of its own. -/
def ownTags (report : StepReport) : List String :=
  report.iconTags ++ report.statusTags ++
    "[dim]" :: Markup.tags report.action ++ closing report.action "[/dim]"

/-- It has these alone exactly if the description has no tag. -/
theorem tags_headLine_eq_ownTags_iff (total : Int) (report : StepReport) :
    (report.headLine total).tags = report.ownTags ↔ Markup.tags report.description = [] := by
  rw [tags_headLine, ownTags]
  simp only [List.append_assoc, List.append_cancel_left_eq]
  exact List.append_left_eq_self

/-- What is shown below the line of a step, and in which style: the error of a step that failed, cut
to a length, else the notes if there are any. -/
def noted (report : StepReport) : List (String × String) :=
  match nonEmpty? report.error with
  | some error => if report.passed then notes else [("dim red", shortened 120 error)]
  | none => notes
where
  /-- The notes, if there are any. -/
  notes : List (String × String) :=
    if report.notes.isEmpty then [] else [("dim", report.notes)]

/-- A text in a style. -/
def styled (style text : String) : String :=
  s!"    [{style}]{escape text}[/{style}]"

theorem styled_eq {style opening ending : String} (opens : "    [" ++ style ++ "]" = opening)
    (ends : "[/" ++ style ++ "]" = ending) (text : String) :
    styled style text = opening ++ escape text ++ ending := by
  have parts : styled style text =
      "    [" ++ style ++ "]" ++ escape text ++ "[/" ++ style ++ "]" := rfl
  rw [parts, ← opens, ← ends]
  simp only [String.append_assoc]

theorem styled_dimRed (text : String) :
    styled "dim red" text = "    [dim red]" ++ escape text ++ "[/dim red]" :=
  styled_eq (by decide) (by decide) text

theorem styled_dim (text : String) : styled "dim" text = "    [dim]" ++ escape text ++ "[/dim]" :=
  styled_eq (by decide) (by decide) text

theorem noteLines_eq (report : StepReport) :
    report.noteLines = report.noted.map fun note => .plain (styled note.1 note.2) := by
  have notes : noteLines.notes report =
      (noted.notes report).map fun note => .plain (styled note.1 note.2) := by
    unfold noteLines.notes noted.notes
    split
    · rfl
    · rw [List.map_singleton, styled_dim]
      rfl
  cases said : nonEmpty? report.error with
  | none => simpa only [noteLines, noted, said] using notes
  | some error =>
      cases passed : report.passed with
      | true => simpa only [noteLines, noted, said, passed, if_true] using notes
      | false =>
          simp only [noteLines, noted, said, passed, Bool.false_eq_true, if_false, List.map_cons,
            List.map_nil, styled_dimRed]
          rfl

theorem style_of_mem_noted {report : StepReport} {note : String × String}
    (among : note ∈ report.noted) : note.1 = "dim red" ∨ note.1 = "dim" := by
  have notes (among : note ∈ noted.notes report) : note.1 = "dim" := by
    unfold noted.notes at among
    split at among
    · cases among
    · rw [List.mem_singleton.mp among]
  unfold noted at among
  split at among
  · split at among
    · exact Or.inr (notes among)
    · rw [List.mem_singleton.mp among]
      exact Or.inl rfl
  · exact Or.inr (notes among)

/-- The line of an escaped text has its own tags alone. -/
theorem tags_styled {style : String} (text : String) (known : style = "dim red" ∨ style = "dim") :
    Markup.tags (styled style text) = s!"[{style}]" :: closing (escape text) s!"[/{style}]" := by
  have own (lead : Settled ("    [" ++ style ++ "]") [s!"[{style}]"])
      (isTag : tag? s!"[/{style}]".toList = some s!"[/{style}]".toList) :
      Markup.tags (styled style text) = s!"[{style}]" :: closing (escape text) s!"[/{style}]" := by
    have parts : styled style text =
        "    [" ++ style ++ "]" ++ escape text ++ s!"[/{style}]" := by
      simp only [styled, String.append_assoc]
      rfl
    rw [parts, lead.closing (escape text) isTag, tags_escape, List.append_nil,
      List.singleton_append]
  rcases known with rfl | rfl
  · exact own (by decide) (by decide)
  · exact own (by decide) (by decide)

theorem tags_noteLines (report : StepReport) :
    report.noteLines.flatMap Printed.tags =
      report.noted.flatMap fun note =>
        s!"[{note.1}]" :: closing (escape note.2) s!"[/{note.1}]" := by
  rw [noteLines_eq, List.flatMap_map]
  refine List.flatMap_congr fun note among => ?_
  rw [Printed.tags_plain, tags_styled note.2 (style_of_mem_noted among)]

end StepReport

/-- The tags of the name of an action in the table of the steps. -/
def Action.nameTags (action : Action) : List String :=
  if action = .unknown then ["[yellow]", "[/yellow]"] else []

/-- The row of a step has the tags of its action, and those of the description and the fields. -/
theorem Step.tags_row (step : Step) :
    step.row.flatMap Markup.tags = step.action.nameTags ++ Markup.tags step.description ++
      Markup.tags step.details.summary := by
  have ordinal := (settled_of_areFigures (areFigures_int step.ordinal)).found_eq
  have name : Markup.tags (if step.action = .unknown then s!"[yellow]{step.action.name}[/yellow]"
      else step.action.name) = step.action.nameTags := by
    cases step.action <;> decide
  simp only [row, List.flatMap_cons, List.flatMap_nil, ordinal, name]
  simp

/-- The table of the steps has no tags besides those of its rows. -/
theorem Document.tags_table (document : Document) :
    document.table.tags = document.steps.flatMap fun step =>
      step.action.nameTags ++ Markup.tags step.description ++ Markup.tags step.details.summary := by
  have titles : (["Parsed Steps", "#", "Action", "Description", "Details"].flatMap Markup.tags) =
      [] := by decide
  have rows : (document.steps.map Step.row).flatten.flatMap Markup.tags =
      document.steps.flatMap fun step => step.row.flatMap Markup.tags := by
    rw [← List.flatMap_def, List.flatMap_assoc]
  have whole : document.table.tags =
      ["Parsed Steps", "#", "Action", "Description", "Details"].flatMap Markup.tags ++
        (document.steps.map Step.row).flatten.flatMap Markup.tags := by
    rw [← List.flatMap_append]
    rfl
  rw [whole, titles, rows, List.nil_append]
  exact List.flatMap_congr fun step _ => step.tags_row

theorem length_flatMap_le {α β : Type} {first second : α → List β}
    (longer : ∀ item, (second item).length ≤ (first item).length) (items : List α) :
    (items.flatMap second).length ≤ (items.flatMap first).length := by
  induction items with
  | nil => exact Nat.le_refl 0
  | cons item items further =>
      have here := longer item
      rw [List.flatMap_cons, List.flatMap_cons, List.length_append, List.length_append]
      omega

/-- Parts that are nowhere shorter make up the same only if each is the same. -/
theorem flatMap_eq_flatMap_iff {α β : Type} {first second : α → List β} {items : List α}
    (longer : ∀ item, (second item).length ≤ (first item).length) :
    items.flatMap first = items.flatMap second ↔ ∀ item ∈ items, first item = second item := by
  refine ⟨fun same => ?_, List.flatMap_congr⟩
  induction items with
  | nil => simp
  | cons item items further =>
      have rest := length_flatMap_le longer items
      have lengths := congrArg List.length same
      rw [List.flatMap_cons, List.flatMap_cons] at same lengths
      have here := longer item
      rw [List.length_append, List.length_append] at lengths
      obtain ⟨heads, tails⟩ := List.append_inj same (by omega)
      exact List.forall_mem_cons.mpr ⟨heads, further tails⟩

/-- It has the tags of the actions alone exactly if no description and no field has a tag. -/
theorem Document.tags_table_eq_iff (document : Document) :
    document.table.tags = document.steps.flatMap (·.action.nameTags) ↔
      ∀ step ∈ document.steps,
        Markup.tags step.description = [] ∧ Markup.tags step.details.summary = [] := by
  have longer (step : Step) : step.action.nameTags.length ≤ (step.action.nameTags ++
      Markup.tags step.description ++ Markup.tags step.details.summary).length := by
    simp only [List.length_append]
    omega
  rw [document.tags_table, flatMap_eq_flatMap_iff longer]
  refine forall₂_congr fun step _ => ?_
  rw [List.append_assoc, List.append_right_eq_self, List.append_eq_nil_iff]

/-- The tags of the label of a severity with a meaning; any other word is its own label. -/
def Severity.labelTags? : Severity → Option (List String)
  | error => some ["[bold red]", "[/bold red]"]
  | warning => some ["[yellow]", "[/yellow]"]
  | info => some ["[dim]", "[/dim]"]
  | other _ => none

theorem Severity.settled_label {severity : Severity} {found : List String}
    (known : severity.labelTags? = some found) : Settled severity.label found := by
  cases severity with
  | other => cases known
  | _ =>
      cases known
      decide

namespace Issue

/-- The words for where an issue is, as they are printed. -/
def placeMarkup (issue : Issue) : String :=
  if issue.place.isEmpty then "" else s!"[dim] ({issue.place})[/dim]"

/-- The tags of these words. -/
def placeTags (issue : Issue) : List String :=
  if issue.place.isEmpty then [] else "[dim]" :: Markup.tags issue.place ++ ["[/dim]"]

theorem line_eq (issue : Issue) :
    issue.line =
      .plain ("      " ++ issue.severity.label ++ issue.placeMarkup ++ "  " ++ issue.message) := rfl

theorem settled_place {markup : String} {found : List String} (settled : Settled markup found)
    (issue : Issue) : Settled (markup ++ issue.placeMarkup) (found ++ issue.placeTags) := by
  unfold placeMarkup placeTags
  split
  · exact settled.append (by decide)
  · have around : Settled (markup ++ "[dim] (" ++ issue.place ++ ")[/dim]")
        (found ++ ["[dim]"] ++ Markup.tags issue.place ++ ["[/dim]"]) :=
      (settled.append (by decide)).around issue.place (by decide) (by decide) fun _ => rfl
    have parts : markup ++ s!"[dim] ({issue.place})[/dim]" =
        markup ++ "[dim] (" ++ issue.place ++ ")[/dim]" := by
      simp only [String.append_assoc]
      rfl
    rw [parts]
    simpa using around

/-- The tags in the line of an issue. Where the label is a word without a meaning, the line is such
a text as a whole. -/
def lineTags (issue : Issue) : List String :=
  match issue.severity.labelTags? with
  | some found => found ++ issue.placeTags ++ Markup.tags issue.message
  | none => Markup.tags
      ("      " ++ issue.severity.label ++ issue.placeMarkup ++ "  " ++ issue.message)

/-- The line of an issue has the tags of its label and those of the message. -/
theorem tags_line (issue : Issue) : issue.line.tags = issue.lineTags := by
  rw [line_eq, Printed.tags_plain, lineTags]
  cases known : issue.severity.labelTags? with
  | none => rfl
  | some found =>
      have lead : Settled ("      " ++ issue.severity.label) found :=
        (by decide : Settled "      " []).append (Severity.settled_label known)
      exact ((settled_place lead issue).append_plain (by decide)).tags_append issue.message

/-- The tags that the words for the place have of their own. -/
def ownPlaceTags (issue : Issue) : List String :=
  if issue.place.isEmpty then [] else ["[dim]", "[/dim]"]

/-- The tags that the line of an issue has of its own, if its severity has a label. -/
def ownTags? (issue : Issue) : Option (List String) :=
  issue.severity.labelTags?.map (· ++ issue.ownPlaceTags)

theorem placeTags_append_eq_iff (issue : Issue) (text : List String) :
    issue.placeTags ++ text = issue.ownPlaceTags ↔ Markup.tags issue.place = [] ∧ text = [] := by
  unfold placeTags ownPlaceTags
  split
  case isTrue placeless =>
    have none : Markup.tags issue.place = [] := by
      rw [String.isEmpty_iff.mp placeless]
      decide
    rw [none, List.nil_append]
    exact (and_iff_right rfl).symm
  case isFalse =>
    constructor
    · intro same
      have lengths := congrArg List.length same
      simp only [List.length_append, List.length_cons, List.length_nil] at lengths
      exact ⟨List.length_eq_zero_iff.mp (by omega), List.length_eq_zero_iff.mp (by omega)⟩
    · rintro ⟨place, rest⟩
      rw [place, rest]
      rfl

/-- Where the severity has a label, the line has its own tags alone exactly if the place and the
message have none. -/
theorem tags_line_eq_ownTags?_iff (issue : Issue) :
    some issue.line.tags = issue.ownTags? ↔ issue.severity.labelTags?.isSome ∧
      Markup.tags issue.place = [] ∧ Markup.tags issue.message = [] := by
  rw [issue.tags_line, lineTags, ownTags?]
  cases issue.severity.labelTags? with
  | none => simp
  | some found =>
      simp only [Option.map_some, Option.some_inj, Option.isSome_some, true_and, List.append_assoc,
        List.append_cancel_left_eq]
      exact issue.placeTags_append_eq_iff (Markup.tags issue.message)

/-- Sorting the issues leaves their tags as they are. -/
theorem tags_lines (issues : List Issue) :
    ((lines issues).flatMap Printed.tags).Perm (issues.flatMap lineTags) := by
  rw [lines, List.flatMap_map]
  simp only [tags_line]
  exact (List.mergeSort_perm issues _).flatMap_right _

end Issue

/-- **What is printed as it is.** The line of a step has its own tags and those of its description,
and so have the rows of the table of steps, besides those of the fields, and the lines of issues,
besides those of their messages: these texts are not escaped, so that there are no other tags than
those of the templates exactly if such a text has none. Only the error or the notes below the line
of a step are escaped, and this line has no tags but its own; of these the last one has its meaning
unless the escaped text ends with an odd number of backslashes. -/
theorem Printed.tags_of_texts (total : Int) (report : StepReport) (document : Document)
    (issues : List Issue) :
    ((report.headLine total).tags =
        report.iconTags ++ Markup.tags report.description ++ report.statusTags ++
          "[dim]" :: Markup.tags report.action ++ closing report.action "[/dim]" ∧
      ((report.headLine total).tags = report.ownTags ↔ Markup.tags report.description = [])) ∧
    (report.noteLines = report.noted.map (fun note => .plain (StepReport.styled note.1 note.2)) ∧
      report.noteLines.flatMap Printed.tags = report.noted.flatMap fun note =>
        s!"[{note.1}]" :: closing (escape note.2) s!"[/{note.1}]") ∧
    (document.table.tags = document.steps.flatMap (fun step =>
        step.action.nameTags ++ Markup.tags step.description ++ Markup.tags step.details.summary) ∧
      (document.table.tags = document.steps.flatMap (·.action.nameTags) ↔
        ∀ step ∈ document.steps,
          Markup.tags step.description = [] ∧ Markup.tags step.details.summary = [])) ∧
    ((Issue.lines issues).flatMap Printed.tags).Perm (issues.flatMap Issue.lineTags) ∧
    ∀ issue ∈ issues, issue.line.tags = issue.lineTags ∧
      (some issue.line.tags = issue.ownTags? ↔ issue.severity.labelTags?.isSome ∧
        Markup.tags issue.place = [] ∧ Markup.tags issue.message = []) :=
  ⟨⟨report.tags_headLine total, report.tags_headLine_eq_ownTags_iff total⟩,
    ⟨report.noteLines_eq, report.tags_noteLines⟩,
    ⟨document.tags_table, document.tags_table_eq_iff⟩,
    Issue.tags_lines issues,
    fun issue _ => ⟨issue.tags_line, issue.tags_line_eq_ownTags?_iff⟩⟩

/-- **A description with brackets.** What stands in the brackets is taken for a tag, in the line of
the step, in its row and in the line of an issue about it. -/
theorem Printed.tags_of_brackets :
    let report : StepReport :=
      { ordinal := 1, description := "Click the [save] button", action := "UI_CLICK"
        passed := true, seconds := .int 0 }
    let step : Step :=
      { ordinal := 1, description := "Click the [save] button", action := .uiClick, details := {} }
    let issue : Issue :=
      { severity := .info, place := "line 1", message := "Click the [save] button" }
    (report.headLine 1).tags =
        ["[bold green]", "[/bold green]", "[save]", "[green]", "[/green]", "[dim]", "[/dim]"] ∧
      step.row.flatMap Markup.tags = ["[save]"] ∧
      issue.line.tags = ["[dim]", "[/dim]", "[dim]", "[/dim]", "[save]"] := by
  decide +kernel

end Walkthrough
