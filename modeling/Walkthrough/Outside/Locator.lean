/-!
# Locators

How elements of a page are pointed at. A locator has a key, by which the page knows the elements,
and a form that it is shown in; taking the first element changes the form alone.
-/

namespace Walkthrough

/-- A way to point at elements of a page. -/
inductive Locator where
  | selector (expression : String)
  | role (kind : String) (name : Option String)
  | withText (text : String)
  | within (outer : Locator) (expression : String)
  | first (elements : Locator)
  | row (table : Locator) (index : Nat)
  deriving DecidableEq

namespace Locator

/-- The key by which the page knows the elements. -/
def key : Locator → String
  | selector expression => expression
  | role kind none => "role=" ++ kind
  | role kind (some name) => "role=" ++ kind ++ "[name=" ++ name ++ "]"
  | withText text => "text~" ++ text
  | within outer expression => outer.key ++ " >> " ++ expression
  | first elements => elements.key
  | row table index => table.key ++ "[" ++ toString index ++ "]"

/-- The form that a locator is shown in. -/
def shown : Locator → String
  | first elements => elements.key ++ ".first"
  | other => other.key

/-- A locator without the choice of the first element. -/
def plain : Locator → Locator
  | first elements => elements.plain
  | other => other

end Locator

end Walkthrough
