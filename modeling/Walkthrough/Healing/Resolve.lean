import Walkthrough.Healing.Strategy
import Walkthrough.Session.Basic

/-!
# Resolving a reference

The reference itself is tried first. If it fails or matches nothing, the candidates of the
strategies are tried in order, and the first one accepted by its strategy is taken; nothing is tried
after it. Every healing is recorded, and every look-up leaves a note of what each strategy did.
-/

namespace Walkthrough.Play

variable {σ : Type}

/-- Changes the healer, if there is one. -/
def updateHealer (change : Healer → Healer) : Play σ Unit :=
  modify fun session => { session with healer := session.healer.map change }

/-- Empties the record of healing. -/
def forgetHealing : Play σ Unit :=
  updateHealer fun healer => { healer with records := [] }

/-- Adds what a strategy did in this look-up. -/
def noteAttempt (attempt : Attempt) : Play σ Unit :=
  updateHealer fun healer => { healer with attempts := healer.attempts ++ [attempt] }

variable [Outside σ]

/-- The count of elements that a locator matches, once the page has made it. -/
def probe (locator : Locator) : Play σ Int := do
  act (← locate locator) .count

/-- The first element of the reference itself, if it matches anything. -/
def resolvePrimary (reference : String) : Play σ (Option Locator) :=
  recover
    (do
      let count ← probe (.selector reference)
      if 0 < count then
        note .info .healing s!"Primary selector worked: {reference}"
        return some (.first (.selector reference))
      else return none)
    fun fault => do
      note .debug .healing s!"Primary selector errored: {reference} ({fault.message})"
      return none

/-- The count of matches of a candidate, or nothing if it cannot be tried. -/
def probeCandidate (candidate : Candidate) : Play σ (Option Int) :=
  recover (do return some (← probe candidate.locator)) fun fault => do
    note .debug .healing s!"Candidate errored: {candidate.expression} ({fault.message})"
    return none

/-- Tries candidates in order: those that were tried, and the one that was accepted. -/
def tryCandidates (strategy : Strategy) (tried : List String) :
    List Candidate → Play σ (List String × Option Candidate)
  | [] => pure (tried, none)
  | candidate :: rest => do
    let tried := tried ++ [candidate.expression]
    match ← probeCandidate candidate with
    | none => tryCandidates strategy tried rest
    | some count =>
      if strategy.acceptance.accepts count then
        note .info .healing
          s!"{strategy.name} succeeded: {candidate.expression} (found {count} elements)"
        return (tried, some candidate)
      else
        note .debug .healing (s!"Candidate rejected: {candidate.expression} " ++
          s!"(found {count} elements - too generic or none)")
        tryCandidates strategy tried rest

/-- What a strategy did, and the candidate it accepted. -/
def tryStrategy (strategy : Strategy) (reference description : String) :
    Play σ (Attempt × Option Candidate) := do
  match strategy.propose reference description with
  | none => throw .proposesNothing
  | some [] =>
    note .info .healing s!"Strategy {strategy.name} not applicable for selector: {reference}"
    return (⟨strategy.name, .notApplicable, []⟩, none)
  | some candidates =>
    match ← tryCandidates strategy [] candidates with
    | (tried, some candidate) => return (⟨strategy.name, .healed, tried⟩, some candidate)
    | (tried, none) =>
      note .info .healing s!"Strategy {strategy.name} failed"
      return (⟨strategy.name, .noMatch, tried⟩, none)

/-- A short name for an element: its id, its first class, or its tag. -/
def labelText (label : ElementLabel) : String :=
  if label.id != "" then "#" ++ label.id
  else match wordsOf label.className with
    | className :: _ => "." ++ className
    | [] => if label.tag != "" then label.tag else "unknown"

/-- The short name of the element of a locator, which is unknown if the page cannot tell. -/
def labelOf (locator : Locator) : Play σ String :=
  recover (do return labelText (← act locator .label)) fun _ => pure "unknown"

/-- Records that a candidate stands in for a reference. -/
def recordHealing (reference healed strategy : String) : Play σ Unit := do
  let time ← now
  updateHealer fun healer =>
    { healer with records := healer.records ++ [⟨reference, healed, strategy, time⟩] }
  note .info .healing (s!"HEALED SELECTOR: original={reference} healed={healed} " ++
    s!"strategy={strategy} time={time.iso}")

/-- Tries strategies in order, numbered from `index` on; there is an element or a fault. -/
def tryStrategies (reference description : String) (index : Nat) :
    List Strategy → Play σ Locator
  | [] => refuse (.unresolved description reference)
  | strategy :: rest => do
    note .info .healing s!"Strategy {index}: {strategy.name} - {strategy.description}"
    let (attempt, accepted) ← tryStrategy strategy reference description
    noteAttempt attempt
    match accepted with
    | some candidate =>
      let element := Locator.first candidate.locator
      recordHealing reference (← labelOf element) strategy.name
      return element
    | none => tryStrategies reference description (index + 1) rest

/-- The first element of a reference, or of the first candidate that stands in for it. -/
def resolve (strategies : List Strategy) (reference description : String) : Play σ Locator := do
  note .info .healing s!"Attempting to locate: {description}"
  note .debug .healing s!"Primary selector: {reference}"
  updateHealer fun healer => { healer with attempts := [] }
  match ← resolvePrimary reference with
  | some element => return element
  | none =>
    note .info .healing s!"Primary selector failed: {reference} -- trying fallback strategies"
    tryStrategies reference description 1 strategies

end Walkthrough.Play
