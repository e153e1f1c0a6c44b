/-!
# What goes wrong outside

The outside world fails for reasons of its own, or interrupts the run. An interrupt is no failure
that a fallback may answer: it ends whatever is going on.
-/

namespace Walkthrough

/-- The kinds of failure of the outside world. -/
inductive MishapKind where
  /-- The page or the browser. -/
  | page
  /-- The connection to the API. -/
  | connection
  /-- An API that does not answer in time. -/
  | slowAnswer
  /-- Anything else that does not happen in time. -/
  | timeout
  /-- Anything else. -/
  | other
  deriving DecidableEq

/-- A failure of the outside world, or an interrupt. -/
inductive Mishap where
  | failure (kind : MishapKind) (message : String)
  | interrupt (message : String)
  deriving DecidableEq

/-- What a mishap says. -/
def Mishap.message : Mishap → String
  | failure _ message => message
  | interrupt message => message

end Walkthrough
