import Mathlib.Data.List.Forall2
import Walkthrough.Proofs.Xml.Document
import Walkthrough.Report.Junit

/-!
# What a test suite reads as

The document of a test suite is one exactly if all texts in it have only characters that may stand
in a document; then it reads as one suite with its counts and a case for each report, in order
(`Walkthrough.root?_testSuite`). Other characters are written as they are, so that a report with
one of them spoils the whole document.
-/

namespace Walkthrough

open Text

namespace Xml

/-- A value that has been read is a text, code by code. -/
def Decodes (value text : String) : Prop :=
  value.toList.map Char.toNat = codes text.toList

namespace Node

/-- Whether something read is an element. -/
def isElement : Node → Bool
  | .element _ _ _ => true
  | .text _ => false

/-- The name of an element. -/
def name? : Node → Option String
  | .element name _ _ => some name
  | .text _ => none

/-- The value of an attribute of a name. -/
def attribute? (name : String) : Node → Option String
  | .element _ attributes _ => Fields.get? name attributes
  | .text _ => none

/-- The elements that lie in an element. -/
def elements : Node → List Node
  | .element _ _ content => content.filter isElement
  | .text _ => []

end Node

/-- Whether a text consists of characters of ASCII that are shown. -/
def isPlain (text : String) : Bool :=
  text.toList.all fun c => 0x20 ≤ c.toNat && c.toNat < 0x7F

theorem ascii_of_isPlain {text : String} (plain : isPlain text = true) :
    ∀ c ∈ text.toList, c.toNat < 0x80 := by
  intro c among
  have bounds := List.all_eq_true.mp plain c among
  simp only [Bool.and_eq_true, decide_eq_true_eq] at bounds
  omega

theorem isPlain_append {first second : String} :
    isPlain (first ++ second) = (isPlain first && isPlain second) := by
  rw [isPlain, String.toList_append, List.all_append]
  rfl

/-- A plain text before another one does no harm to it. -/
theorem isLegalText_append {lead : String} (plain : isPlain lead = true) (text : String) :
    isLegalText (lead ++ text) = isLegalText text := by
  have legal : (lead.toList.map Char.toNat).all isLegal = true := by
    rw [List.all_map]
    refine List.all_eq_true.mpr fun c among => ?_
    have bounds := List.all_eq_true.mp plain c among
    simp only [Bool.and_eq_true, decide_eq_true_eq] at bounds
    simp only [Function.comp_apply, isLegal, Bool.or_eq_true, Bool.and_eq_true, decide_eq_true_eq,
      beq_iff_eq]
    omega
  rw [isLegalText, String.toList_append, codes_append_of_ascii (ascii_of_isPlain plain),
    List.all_append, legal, Bool.true_and, isLegalText]

theorem isPlain_of_areFigures {text : String} (figures : areFigures text = true) :
    isPlain text = true := by
  refine List.all_eq_true.mpr fun c among => ?_
  obtain ⟨range, member, within⟩ := List.any_eq_true.mp (List.all_eq_true.mp figures c among)
  simp only [List.mem_cons, List.not_mem_nil, or_false] at member
  simp only [Bool.and_eq_true, decide_eq_true_eq] at within ⊢
  rcases member with rfl | rfl | rfl | rfl | rfl | rfl <;> simp only at within <;> omega

theorem isLegalText_of_isPlain {text : String} (plain : isPlain text = true) :
    isLegalText text = true := by
  have alone := isLegalText_append plain ""
  rw [String.append_empty] at alone
  exact alone

theorem shown_of_isPlain {text : String} (plain : isPlain text = true) : shown text = text := by
  rw [← String.toList_inj, toList_shown, shownChars_of_ascii (ascii_of_isPlain plain)]

/-- A text of which all characters may stand in a document is read as it was. -/
theorem decodes_shown {text : String} (legal : isLegalText text = true) :
    Decodes (shown text) text := by
  have found (code : Nat) (among : code ∈ codes text.toList) : (Char.ofNat code).toNat = code := by
    refine toNat_ofNat_of_whole (lt_of_mem_codesFrom among) ?_
    rw [Bool.eq_false_iff]
    intro half
    have stands := List.all_eq_true.mp legal code among
    rw [isLegal_of_isHalf half] at stands
    cases stands
  rw [Decodes, toList_shown, shownChars_of_isLegalText legal, List.map_map]
  exact (List.map_congr_left found).trans (List.map_id _)

theorem get?_shownAttributes (name : String) (attributes : List (String × String)) :
    Fields.get? name (shownAttributes attributes) = (Fields.get? name attributes).map shown := by
  induction attributes with
  | nil => rfl
  | cons label rest ih =>
      by_cases same : label.1 = name
      · simp [shownAttributes, Fields.get?, same]
      · simpa [shownAttributes, Fields.get?, same] using ih

theorem isElement_tree (level : Nat) (xml : Xml) : (tree level xml).isElement = true := by
  cases xml with
  | leaf name attributes text => rfl
  | branch name attributes children =>
      cases children with
      | nil => rfl
      | cons child rest => rfl

theorem filter_trees (level : Nat) (children : List Xml) :
    (trees level children).filter Node.isElement = children.map (tree level) := by
  induction children with
  | nil => rfl
  | cons child rest ih =>
      have blank : (space level).isElement = false := rfl
      rw [trees, List.filter_cons_of_neg (by rw [blank]; decide),
        List.filter_cons_of_pos (isElement_tree level child), ih, List.map_cons]

/-- The elements in an element with elements in it are these. -/
theorem elements_branch (level : Nat) (name : String) (attributes : List (String × String))
    (children : List Xml) : (tree level (.branch name attributes children)).elements =
      children.map (tree (level + 1)) := by
  cases children with
  | nil => rfl
  | cons child rest =>
      have blank : [space level].filter Node.isElement = [] := rfl
      rw [tree, Node.elements, List.filter_append, filter_trees, blank, List.append_nil]

theorem name?_branch (level : Nat) (name : String) (attributes : List (String × String))
    (children : List Xml) : (tree level (.branch name attributes children)).name? = some name := by
  cases children with
  | nil => rfl
  | cons child rest => rfl

theorem attribute?_branch (label : String) (level : Nat) (name : String)
    (attributes : List (String × String)) (children : List Xml) :
    (tree level (.branch name attributes children)).attribute? label =
      (Fields.get? label attributes).map shown := by
  rw [← get?_shownAttributes]
  cases children with
  | nil => rfl
  | cons child rest => rfl

end Xml

namespace StepReport

/-- What the failure of a report is told as. -/
def failure (report : StepReport) : String :=
  if (report.error.getD "").isEmpty then "Step failed" else report.error.getD ""

/-- The case of a report in what has been read. -/
structure ReadsAs (report : StepReport) (node : Xml.Node) : Prop where
  named : node.name? = some "testcase"
  title : ∃ value, node.attribute? "name" = some value ∧
    Xml.Decodes value s!"Step {report.ordinal}: {report.description}"
  passed : report.passed = true → node.elements = []
  failed : report.passed = false → ∃ child message, node.elements = [child] ∧
    child.name? = some "failure" ∧ child.attribute? "message" = some message ∧
    Xml.Decodes message report.failure

/-- The texts of a report that are written as they are. -/
def texts (report : StepReport) : List String :=
  report.description :: if report.passed then [] else [report.error.getD ""]

end StepReport

/-- The test suite of some reports in what has been read: its counts, and a case for each report. -/
structure SuiteReadsAs (reports : List StepReport) (root : Xml.Node) : Prop where
  named : root.name? = some "testsuite"
  tests : root.attribute? "tests" = some (toString reports.length)
  failures : root.attribute? "failures" =
    some (toString (reports.filter fun report => !report.passed).length)
  listed : List.Forall₂ StepReport.ReadsAs reports root.elements

/-- The texts of a test suite that are written as they are. -/
def suiteTexts (promptName : String) (reports : List StepReport) : List String :=
  promptName :: reports.flatMap StepReport.texts

open Xml

theorem labelled_of_names {attributes : List (String × String)} (names : List String)
    (listed : attributes.map (·.1) = names) (proper : names.all isName = true)
    (once : names.Nodup) : Labelled attributes :=
  ⟨listed ▸ proper, listed ▸ once⟩

theorem named_testCase (promptName : String) (report : StepReport) :
    (report.testCase promptName).Named := by
  refine .branch rfl (labelled_of_names ["name", "classname", "time"] rfl rfl (by decide)) ?_
  intro child among
  split at among
  · cases among
  · obtain rfl := List.mem_singleton.mp among
    exact .leaf rfl (labelled_of_names ["message"] rfl rfl (by decide))

theorem named_testSuite (promptName : String) (seconds : Number) (reports : List StepReport) :
    (testSuite promptName seconds reports).Named := by
  refine .branch rfl
    (labelled_of_names ["name", "tests", "time", "failures"] rfl rfl (by decide)) ?_
  intro child among
  obtain ⟨report, _, rfl⟩ := List.mem_map.mp among
  exact named_testCase promptName report

theorem isLegalText_title (report : StepReport) :
    isLegalText s!"Step {report.ordinal}: {report.description}" =
      isLegalText report.description := by
  have plain : isPlain ("Step " ++ toString report.ordinal ++ ": ") = true := by
    have lead : isPlain "Step " = true := rfl
    have colon : isPlain ": " = true := rfl
    rw [isPlain_append, isPlain_append, lead, colon, isPlain_of_areFigures (areFigures_int _)]
    rfl
  exact isLegalText_append plain report.description

theorem isLegalText_failure (report : StepReport) :
    isLegalText report.failure = isLegalText (report.error.getD "") := by
  unfold StepReport.failure
  split
  · next empty =>
      rw [String.isEmpty_iff.mp empty]
      exact (isLegalText_of_isPlain rfl).trans (isLegalText_of_isPlain rfl).symm
  · rfl

theorem isReadable_testCase (promptName : String) (report : StepReport) :
    (report.testCase promptName).isReadable =
      (isLegalText promptName && report.texts.all isLegalText) := by
  have lead : isPlain "promptqa." = true := rfl
  have place : isLegalText s!"promptqa.{promptName}" = isLegalText promptName :=
    isLegalText_append lead promptName
  have time : isLegalText (report.seconds.fixed 2) = true :=
    isLegalText_of_isPlain (isPlain_of_areFigures (areFigures_fixed 2 report.seconds))
  have failure := isLegalText_failure report
  unfold StepReport.failure at failure
  cases passed : report.passed with
  | true =>
      simp only [StepReport.testCase, StepReport.texts, passed, if_true, isReadable, areReadable,
        areLegal, List.all_cons, List.all_nil, isLegalText_title, place, time, Bool.and_true]
      exact Bool.and_comm _ _
  | false =>
      simp only [StepReport.testCase, StepReport.texts, passed, Bool.false_eq_true, if_false,
        isReadable, areReadable, areLegal, List.all_cons, List.all_nil, isLegalText_title, place,
        time, failure, Bool.and_true, Bool.and_self]
      rw [Bool.and_comm (isLegalText report.description), Bool.and_assoc]

theorem isReadable_testSuite (promptName : String) (seconds : Number) (reports : List StepReport) :
    (testSuite promptName seconds reports).isReadable =
      (suiteTexts promptName reports).all isLegalText := by
  have lead : isPlain "promptqa-" = true := rfl
  have name : isLegalText s!"promptqa-{promptName}" = isLegalText promptName :=
    isLegalText_append lead promptName
  have time : isLegalText (seconds.fixed 2) = true :=
    isLegalText_of_isPlain (isPlain_of_areFigures (areFigures_fixed 2 seconds))
  have count (n : Nat) : isLegalText (toString n) = true :=
    isLegalText_of_isPlain (isPlain_of_areFigures (areFigures_nat n))
  have cases (legal : isLegalText promptName = true) :
      areReadable (reports.map (StepReport.testCase promptName)) =
        (reports.flatMap StepReport.texts).all isLegalText := by
    induction reports with
    | nil => rfl
    | cons report rest ih =>
        rw [List.map_cons, areReadable, isReadable_testCase, legal, Bool.true_and, ih,
          List.flatMap_cons, List.all_append]
  simp only [testSuite, isReadable, areLegal, suiteTexts, List.all_cons, List.all_nil, name, time,
    count, Bool.and_true]
  cases legal : isLegalText promptName with
  | false => rfl
  | true => rw [Bool.true_and, Bool.true_and, cases legal]

theorem readsAs_testCase {promptName : String} {report : StepReport}
    (readable : (report.testCase promptName).isReadable = true) (level : Nat) :
    report.ReadsAs (tree level (report.testCase promptName)) := by
  rw [isReadable_testCase, Bool.and_eq_true, StepReport.texts, List.all_cons, Bool.and_eq_true]
    at readable
  obtain ⟨-, description, error⟩ := readable
  have title : isLegalText s!"Step {report.ordinal}: {report.description}" = true :=
    (isLegalText_title report).trans description
  refine ⟨name?_branch level _ _ _, ⟨_, attribute?_branch "name" level _ _ _, decodes_shown title⟩,
    ?_, ?_⟩
  · intro passed
    rw [StepReport.testCase, elements_branch, if_pos passed]
    rfl
  · intro failed
    rw [failed] at error
    have message : isLegalText report.failure = true := by
      rw [isLegalText_failure]
      simpa using error
    have child : (tree level (report.testCase promptName)).elements =
        [tree (level + 1)
          (.leaf "failure" [("message", report.failure)] (report.error.getD ""))] := by
      rw [StepReport.testCase, elements_branch, failed]
      rfl
    exact ⟨_, shown report.failure, child, rfl, rfl, decodes_shown message⟩

theorem suiteReadsAs_testSuite {promptName : String} {seconds : Number} {reports : List StepReport}
    (readable : (testSuite promptName seconds reports).isReadable = true) :
    SuiteReadsAs reports (tree 0 (testSuite promptName seconds reports)) := by
  have cases : areReadable (reports.map (StepReport.testCase promptName)) = true :=
    ((Bool.and_eq_true _ _).mp readable).2
  have counted (n : Nat) : some (shown (toString n)) = some (toString n) :=
    congrArg some (shown_of_isPlain (isPlain_of_areFigures (areFigures_nat n)))
  refine ⟨name?_branch 0 _ _ _, (attribute?_branch "tests" 0 _ _ _).trans (counted _),
    (attribute?_branch "failures" 0 _ _ _).trans (counted _), ?_⟩
  rw [testSuite, elements_branch, List.map_map]
  clear readable
  induction reports with
  | nil => exact .nil
  | cons report rest ih =>
      rw [List.map_cons, areReadable, Bool.and_eq_true] at cases
      exact .cons (readsAs_testCase cases.1 1) (ih cases.2)

/-- **What a test suite reads as.** Its document is one exactly if each text that is written as it
is, the prompt's name, the steps' descriptions and the errors of those that failed, has only
characters that may stand in a document. It then reads as one suite with the counts of reports and
of failures and with a case for each report, in order, that tells its step and has a failure exactly
if it failed. -/
theorem root?_testSuite (promptName : String) (seconds : Number) (reports : List StepReport) :
    ((∃ root,
        Xml.root? (shown (testSuite promptName seconds reports).document).toList = some root) ↔
      ∀ text ∈ suiteTexts promptName reports, ∀ code ∈ codes text.toList, isLegal code = true) ∧
    ∀ root, Xml.root? (shown (testSuite promptName seconds reports).document).toList = some root →
      SuiteReadsAs reports root := by
  rw [root?_document (named_testSuite promptName seconds reports)]
  have legal : (testSuite promptName seconds reports).isReadable = true ↔
      ∀ text ∈ suiteTexts promptName reports, ∀ code ∈ codes text.toList, isLegal code = true := by
    simp only [isReadable_testSuite, isLegalText, List.all_eq_true]
  rw [← legal]
  cases readable : (testSuite promptName seconds reports).isReadable with
  | false => simp
  | true =>
      refine ⟨by simp, ?_⟩
      rintro root ⟨⟩
      exact suiteReadsAs_testSuite readable

/-- An error with a colour code in it, as a browser tells it, makes the document none. -/
theorem root?_testSuite_colour : Xml.root? (shown (testSuite "login" (.int 1)
    [{ ordinal := 1, description := "Open the page", action := "UI", passed := false,
       seconds := .int 1, error := some "\x1b[31mTimeout" }]).document).toList = none := by
  rw [root?_document (named_testSuite _ _ _), isReadable_testSuite]
  decide

end Walkthrough
