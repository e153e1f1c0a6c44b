import Walkthrough.Json.Basic
import Walkthrough.Outside.Call
import Walkthrough.Text.Letters

/-!
# A scripted world

A world whose answers are laid down beforehand: the replies of the API in order, the elements of a
page by their keys, what fails, and how many seconds each act takes. Its clock stands still but for
those seconds.
-/

namespace Walkthrough

/-- A row of a table: its text, or why it cannot be read. -/
inductive ScriptedRow where
  | text (value : Option String)
  | failing (mishap : Mishap)

/-- The elements of one key. -/
structure ScriptedElement where
  count : Int := 1
  /-- Acts that fail, by name, and how. -/
  fails : List (String × Mishap) := []
  text : Option String := none
  attributes : List (String × String) := []
  value : String := ""
  visible : Bool := true
  label : ElementLabel := { tag := "div", id := "", className := "" }
  rows : List ScriptedRow := []
  /-- What a click puts on the page. -/
  onClick : List (String × ScriptedElement) := []

instance : Inhabited ScriptedElement := ⟨{ count := 0 }⟩

/-- A reply of the API, or its failure, after some seconds. -/
structure ScriptedReply where
  seconds : Float := 0.0
  result : Except Mishap HttpReply

/-- A world whose answers are laid down. -/
structure Scripted where
  clock : Float := 0.0
  /-- The date and time when the clock is at zero. -/
  start : Instant := ⟨0, some 0⟩
  mark : String := "once"
  replies : List ScriptedReply := []
  elements : List (String × ScriptedElement) := []
  /-- Acts of the page as a whole that fail, by name, and how. -/
  pageFails : List (String × Mishap) := []
  /-- The seconds that acts take, by name. -/
  seconds : List (String × Float) := []
  /-- What an address puts on the page. -/
  routes : List (String × List (String × ScriptedElement)) := []
  browserFails : List (String × Mishap) := []

/-- Headers with one value for each name, whatever its case: the last, at the place of the first. -/
def mergeHeaders (headers : List (String × String)) : List (String × String) :=
  headers.foldl (fun merged header => put header merged) []
where
  /-- Puts a header in the place of the one of its name, or at the end. -/
  put (header : String × String) : List (String × String) → List (String × String)
    | [] => [header]
    | old :: rest =>
      if Text.sameName old.1 header.1 then header :: rest else old :: put header rest

namespace Scripted

/-- The world some seconds later. -/
def wait (world : Scripted) (seconds : Float) : Scripted :=
  { world with clock := world.clock + seconds }

/-- The world after the seconds that an act takes. -/
def spend (world : Scripted) (name : String) : Scripted :=
  match Fields.get? name world.seconds with
  | some seconds => world.wait seconds
  | none => world

/-- The elements of a key; a key that is not on the page has none. -/
def elementAt (world : Scripted) (key : String) : ScriptedElement :=
  (Fields.get? key world.elements).getD { count := 0 }

/-- The world with elements put on its page. -/
def withElements (world : Scripted) (elements : List (String × ScriptedElement)) : Scripted :=
  { world with
    elements := elements.foldl (fun all (key, element) => Fields.put key element all)
      world.elements }

/-- Fails as laid down for a name, or else goes on. -/
def unlessFails {α : Type} (fails : List (String × Mishap)) (name : String)
    (answer : Except Mishap α) : Except Mishap α :=
  match Fields.get? name fails with
  | some mishap => .error mishap
  | none => answer

/-- An answer that needs an element to be there. -/
def needing {α : Type} (element : ScriptedElement) (locator : Locator) (name : String)
    (answer : α) : Except Mishap α :=
  if element.count < 1 then .error (.failure .page s!"{name}: no element {locator.shown}")
  else .ok answer

/-- What the elements of a locator answer to an act. -/
def answerOf (element : ScriptedElement) (locator : Locator) (act : ElementAct) :
    Except Mishap act.Answer :=
  unlessFails element.fails act.name <|
    match act with
    | .count => .ok element.count
    | .click _ => needing element locator act.name ()
    | .fill _ => needing element locator act.name ()
    | .textContent => needing element locator act.name element.text
    | .attributeOf name => needing element locator act.name (Fields.get? name element.attributes)
    | .inputValue => needing element locator act.name element.value
    | .label => needing element locator act.name element.label
    | .isVisible => .ok (0 < element.count && element.visible)
    | .waitVisible _ =>
      if element.count < 1 || !element.visible then
        .error (.failure .page s!"{act.name}: {locator.shown} not visible")
      else .ok ()
    | .rows => .ok element.rows.length

/-- What a row of a table answers to an act. -/
def rowAnswer (row : ScriptedRow) : (act : ElementAct) → Except Mishap act.Answer
  | .textContent =>
    match row with
    | .text value => .ok value
    | .failing mishap => .error mishap
  | act => answerOf { count := 0 } (.selector "") act

/-- Acts on the elements of a locator. -/
def touch (world : Scripted) (locator : Locator) (act : ElementAct) :
    Except Mishap act.Answer × Scripted :=
  match locator with
  | .row table index =>
    let answer := match (world.elementAt table.key).rows[index]? with
      | some row => rowAnswer row act
      | none => answerOf { count := 0 } locator act
    (answer, world.spend act.name)
  | _ =>
    let element := world.elementAt locator.key
    let answer := answerOf element locator act
    let world := world.spend act.name
    let shown := if act matches .click _ && answer.isOk then element.onClick else []
    (answer, world.withElements shown)

/-- Acts on the page as a whole. -/
def turn (world : Scripted) (name : String) (shown : List (String × ScriptedElement)) :
    Except Mishap Unit × Scripted :=
  let world := world.spend name
  match Fields.get? name world.pageFails with
  | some mishap => (.error mishap, world)
  | none => (.ok (), world.withElements shown)

/-- Takes the next reply of the API. -/
def nextReply (world : Scripted) : Except Mishap HttpReply × Scripted :=
  match world.replies with
  | [] => (.error (.failure .connection "no more responses"), world)
  | reply :: rest => (reply.result, { world with replies := rest }.wait reply.seconds)

/-- The answer to a call. -/
def reply : (call : Call) → Scripted → Except Mishap call.Answer × Scripted
  | .request _ _ _ _, world => world.nextReply
  | .closeClient, world => (.ok (), world)
  | .goto url, world => world.turn "goto" ((Fields.get? url world.routes).getD [])
  | .awaitIdle, world => world.turn "wait_for_load_state" []
  | .screenshot _, world => world.turn "screenshot" []
  | .locate locator, world =>
    (unlessFails (world.elementAt locator.key).fails "locate" (.ok ()), world)
  | .element locator act, world => world.touch locator act
  | .browser call, world => (unlessFails world.browserFails call.name (.ok ()), world)

instance : Outside Scripted where
  reply := reply
  clock := clock
  now world := world.start.later world.clock
  mark := mark

end Scripted

end Walkthrough
