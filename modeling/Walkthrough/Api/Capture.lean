import Walkthrough.Api.Markup
import Walkthrough.Json.Basic

/-!
# Captured values

What a step stores of an API answer: the field of the variable's name, else the field `id`. Nothing
and the empty text count as no value.
-/

namespace Walkthrough.Capture

/-- Whether a value is worth storing. -/
def isValue : Json → Bool
  | .null => false
  | .text value => value != ""
  | _ => true

/-- The first value among the fields of given names. -/
def firstField (fields : List (String × Json)) (names : List String) : Option Json :=
  names.findSome? fun name => (Fields.get? name fields).filter isValue

/-- The value in marked-up text: the element of the variable's name, else the element `id`. -/
def ofMarkup (text name : String) : Option Json :=
  if occurs "<" text then
    ([name, "id"].findSome? fun name => (Markup.extract? text name).filter (· != "")).map .text
  else none

/-- The first object among items. -/
def firstObject (items : List Json) : Option (List (String × Json)) :=
  items.findSome? fun
    | .object fields => some fields
    | _ => none

/-- What a request that reads captures: a list stands for its first object. -/
def ofRead (body : Json) (name : String) : Option Json :=
  match body with
  | .text text => ofMarkup text name
  | .object fields => firstField fields [name, "id"]
  | .list items => (firstObject items).bind fun fields => firstField fields [name, "id"]
  | _ => none

/-- What a request that creates captures: without a field, the whole body. -/
def ofCreated (body : Json) (name : String) : Option Json :=
  match body with
  | .text text => ofMarkup text name
  | .object fields => some ((firstField fields [name, "id"]).getD body)
  | body => some body

end Walkthrough.Capture
