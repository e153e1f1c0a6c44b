import Walkthrough.Disk.Path
import Walkthrough.Outside.Locator
import Walkthrough.Outside.Mishap
import Walkthrough.Yaml.Value

/-!
# The outside world

All that a run asks of the world outside: API requests, the page and its elements, the browser and
the clock. A call has a type of answers of its own, and the world answers it or fails, and changes.
-/

namespace Walkthrough

/-- The methods of API requests. -/
inductive HttpMethod where
  | get
  | post
  | put
  | delete
  deriving DecidableEq

/-- The name of a method. -/
def HttpMethod.name : HttpMethod → String
  | get => "GET"
  | post => "POST"
  | put => "PUT"
  | delete => "DELETE"

/-- What an API answers. -/
structure HttpReply where
  status : Int
  headers : List (String × String)
  body : String

/-- The parts of an element that it is recognised by. -/
structure ElementLabel where
  tag : String
  id : String
  className : String

/-- What can be done to the elements of a locator. -/
inductive ElementAct where
  | count
  | click (timeout : Option Int)
  | fill (value : String)
  | textContent
  | attributeOf (name : String)
  | inputValue
  | label
  | isVisible
  | waitVisible (timeout : Int)
  | rows

/-- The name of an element act. -/
def ElementAct.name : ElementAct → String
  | count => "count"
  | click _ => "click"
  | fill _ => "fill"
  | textContent => "text_content"
  | attributeOf _ => "get_attribute"
  | inputValue => "input_value"
  | label => "evaluate"
  | isVisible => "is_visible"
  | waitVisible _ => "wait_for"
  | rows => "all"

/-- What an element act answers. -/
abbrev ElementAct.Answer : ElementAct → Type
  | count => Int
  | click _ => Unit
  | fill _ => Unit
  | textContent => Option String
  | attributeOf _ => Option String
  | inputValue => String
  | label => ElementLabel
  | isVisible => Bool
  | waitVisible _ => Unit
  | rows => Nat

/-- What can be asked of the browser. -/
inductive BrowserCall where
  | startDriver
  | launch (headless : Bool) (slowMo : Int)
  | newContext (width height : Yaml)
  | setTimeout (milliseconds : Int)
  | newPage
  | closeContext
  | closeBrowser
  | stopDriver

/-- The name of a browser call. -/
def BrowserCall.name : BrowserCall → String
  | startDriver => "driver.start"
  | launch _ _ => "launch"
  | newContext _ _ => "new_context"
  | setTimeout _ => "set_default_timeout"
  | newPage => "new_page"
  | closeContext => "context.close"
  | closeBrowser => "browser.close"
  | stopDriver => "driver.stop"

/-- A call to the outside world. -/
inductive Call where
  | request (method : HttpMethod) (url : String) (timeout : Number) (body : Option Json)
  | closeClient
  | goto (url : String)
  | awaitIdle
  | screenshot (path : Path)
  /-- Makes a locator, which can fail but leaves no trace. -/
  | locate (locator : Locator)
  | element (locator : Locator) (act : ElementAct)
  | browser (call : BrowserCall)

namespace Call

/-- What a call answers. -/
abbrev Answer : Call → Type
  | request _ _ _ _ => HttpReply
  | closeClient => Unit
  | goto _ => Unit
  | awaitIdle => Unit
  | screenshot _ => Unit
  | locate _ => Unit
  | element _ act => act.Answer
  | browser _ => Unit

/-- Whether a call leaves a trace. -/
def isTraced : Call → Bool
  | locate _ => false
  | _ => true

end Call

/-- A world that answers calls, with a clock. -/
class Outside (σ : Type) where
  /-- The answer to a call, or why there is none, and the world afterwards. -/
  reply : (call : Call) → σ → Except Mishap call.Answer × σ
  /-- The seconds on the clock. -/
  clock : σ → Float
  /-- The date and time. -/
  now : σ → Instant
  /-- What tells apart runs that start in the same second. -/
  mark : σ → String

end Walkthrough
