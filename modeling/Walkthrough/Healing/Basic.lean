import Walkthrough.Instant
import Walkthrough.Outside.Locator

/-!
# Healing

When a reference leads to no element, an ordered list of strategies proposes candidates in its
place. A strategy accepts a candidate by the count of its matches, so that a candidate that is too
general is not bound to the wrong element. What was healed, and what was tried, is kept.
-/

namespace Walkthrough

/-- The counts of matches that are accepted, both ends included; no greatest count means any. -/
structure Acceptance where
  least : Int := 1
  greatest : Option Int := none

/-- Whether a count of matches is accepted. -/
def Acceptance.accepts (rule : Acceptance) (count : Int) : Bool :=
  rule.least ≤ count && match rule.greatest with
    | some greatest => count ≤ greatest
    | none => true

/-- A locator that a strategy proposes: an expression, or a role of elements. -/
inductive Candidate where
  | selector (expression : String)
  | ofRole (role : String)
  deriving DecidableEq

namespace Candidate

/-- How a candidate is written down. -/
def expression : Candidate → String
  | selector expression => expression
  | ofRole role => "role=" ++ role

/-- The role that a candidate asks for. -/
def role? : Candidate → Option String
  | selector _ => none
  | ofRole role => some role

/-- The locator of a candidate. -/
def locator : Candidate → Locator
  | selector expression => .selector expression
  | ofRole role => .role role none

end Candidate

/-- A named source of candidates for a reference and a description. One that proposes nothing by its
nature has no list of candidates at all. -/
structure Strategy where
  name : String
  description : String
  acceptance : Acceptance := {}
  propose : (reference description : String) → Option (List Candidate)

/-- A reference that a fallback stood in for. -/
structure HealingRecord where
  reference : String
  healed : String
  strategy : String
  time : Instant
  deriving DecidableEq

/-- How a strategy ended. -/
inductive Outcome where
  | notApplicable
  | noMatch
  | healed
  deriving DecidableEq

/-- The word for an outcome. -/
def Outcome.name : Outcome → String
  | notApplicable => "not_applicable"
  | noMatch => "no_match"
  | healed => "healed"

/-- What one strategy did in one look-up: the candidates it tried, in order, and how it ended. -/
structure Attempt where
  strategy : String
  outcome : Outcome
  tried : List String
  deriving DecidableEq

/-- The strategies in use, what they healed so far, and what they tried in the last look-up. -/
structure Healer where
  strategies : List Strategy
  records : List HealingRecord := []
  attempts : List Attempt := []

namespace Healer

/-- The record of healing in words, a line for each. -/
def summary (records : List HealingRecord) : List String :=
  if records.isEmpty then ["No selector healing occurred in this test"]
  else s!"Total healed selectors: {records.length}" :: numbered 1 records
where
  /-- The lines of records, numbered from `index` on. -/
  numbered (index : Nat) : List HealingRecord → List String
    | [] => []
    | record :: rest =>
      (s!"Healing #{index}: {record.reference} -> {record.healed} " ++
        s!"({record.strategy}, {record.time.iso})") :: numbered (index + 1) rest

end Healer

end Walkthrough
