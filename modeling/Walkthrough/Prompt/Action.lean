import Walkthrough.Text.Letters
import Walkthrough.Text.Lines

/-!
# What a step does

A step's action is read off its title by an ordered list of rules: the first rule whose words occur
in the title, letters in either case, decides. A title that no rule fits has an unknown action.
-/

namespace Walkthrough

/-- The kinds of action a step can ask for. -/
inductive Action where
  | apiLogin
  | apiGet
  | apiCreate
  /-- Another name for creating, which no title leads to. -/
  | apiPost
  | apiDelete
  | uiNavigate
  | uiLogin
  | uiClick
  | uiVerify
  | unknown
  deriving DecidableEq

namespace Action

/-- The name an action is reported by. -/
def name : Action → String
  | apiLogin => "API_LOGIN"
  | apiGet => "API_GET"
  | apiCreate => "API_CREATE"
  | apiPost => "API_POST"
  | apiDelete => "API_DELETE"
  | uiNavigate => "UI_NAVIGATE"
  | uiLogin => "UI_LOGIN"
  | uiClick => "UI_CLICK"
  | uiVerify => "UI_VERIFY"
  | unknown => "UNKNOWN"

/-- All actions. -/
def every : List Action :=
  [apiLogin, apiGet, apiCreate, apiPost, apiDelete, uiNavigate, uiLogin, uiClick, uiVerify, unknown]

/-- The action of a name. -/
def ofName? (name : String) : Option Action :=
  every.find? fun action => action.name = name

/-- A rule of the classifier: every word of `all` and, unless it is empty, some word of `any`. -/
structure Rule where
  all : List String
  any : List String
  action : Action

/-- The rules, the most binding first. -/
def rules : List Rule :=
  [⟨["login", "api"], [], apiLogin⟩,
    ⟨["create", "api"], [], apiCreate⟩,
    ⟨["retrieve", "api"], [], apiGet⟩,
    ⟨["delete", "api"], [], apiDelete⟩,
    ⟨[], ["launch", "open", "navigate"], uiNavigate⟩,
    ⟨["login", "ui"], [], uiLogin⟩,
    ⟨[], ["click"], uiClick⟩,
    ⟨[], ["verify", "validate", "check"], uiVerify⟩]

/-- Whether a rule fits a title in small letters. -/
def Rule.fits (rule : Rule) (title : List Char) : Bool :=
  rule.all.all (fun word => Text.occursIn word.toList title) &&
    (rule.any.isEmpty || rule.any.any fun word => Text.occursIn word.toList title)

/-- The action of a title: that of the first rule that fits. -/
def ofTitle (title : String) : Action :=
  match rules.find? (·.fits (Text.lower title.toList)) with
  | some rule => rule.action
  | none => unknown

end Action

end Walkthrough
