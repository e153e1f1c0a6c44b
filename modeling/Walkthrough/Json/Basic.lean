import Walkthrough.Decimal.Number

/-!
# JSON values

The values that API responses hold and that variables keep. The members of an object are ordered,
and a name has one value: writing it again keeps its place.
-/

namespace Walkthrough

/-- A JSON value. -/
inductive Json where
  | null
  | bool (value : Bool)
  | number (value : Number)
  | text (value : String)
  | list (items : List Json)
  | object (fields : List (String × Json))

instance : Inhabited Json := ⟨.null⟩

namespace Fields

variable {α : Type}

/-- The value of the first field of a name. -/
def get? (name : String) : List (String × α) → Option α
  | [] => none
  | (key, value) :: rest => if key = name then some value else get? name rest

/-- Gives a name a value, in its place if it has one and at the end if it has none. -/
def put (name : String) (value : α) : List (String × α) → List (String × α)
  | [] => [(name, value)]
  | (key, old) :: rest =>
    if key = name then (key, value) :: rest else (key, old) :: put name value rest

/-- The fields without those of a name. -/
def erase (name : String) (fields : List (String × α)) : List (String × α) :=
  fields.filter fun field => field.1 ≠ name

/-- Whether there is a field of a name. -/
def has (name : String) (fields : List (String × α)) : Bool :=
  fields.any fun field => field.1 = name

theorem get?_put (name other : String) (value : α) (fields : List (String × α)) :
    get? other (put name value fields) =
      if other = name then some value else get? other fields := by
  induction fields with
  | nil =>
    simp only [put, get?, eq_comm]
  | cons field rest ih =>
    obtain ⟨key, old⟩ := field
    by_cases same : key = name <;> by_cases here : key = other <;>
      simp_all [put, get?, eq_comm]

end Fields

namespace Json

/-- The value of a field of an object. -/
def field? (name : String) : Json → Option Json
  | object fields => Fields.get? name fields
  | _ => none

/-- A whole number. -/
def int (value : Int) : Json := .number (.int value)

/-- A double. -/
def float (value : Float) : Json := .number (.float value)

end Json

end Walkthrough
