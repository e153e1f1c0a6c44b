import Walkthrough.Api.Capture
import Walkthrough.Api.Client
import Walkthrough.Prompt.Target

/-!
# Steps that talk to the API

A step with an endpoint makes one request, and may store a value of the answer. An answer that tells
of an error does not fail the step.
-/

namespace Walkthrough.Play

variable {σ : Type}

/-- The endpoint of a step with values in place of placeholders; `verb` names the kind of step. -/
def endpointOf (details : Details) (verb : String) : Play σ String := do
  match Details.present? details.endpoint with
  | none => refuse (.missingEndpoint s!"No endpoint specified for API {verb}")
  | some endpoint => expand endpoint

/-- Stores what was captured, if it is a value. -/
def storeCaptured (name : String) (captured : Option Json) : Play σ Unit := do
  match captured.filter Capture.isValue with
  | some value => setVariable name value
  | none =>
    note .warning .steps
      s!"Nothing to store into {name}: response has no matching field or id"

/-- Stores what a step asks for, captured in the given way. -/
def storeFrom (details : Details) (body : Json) (capture : Json → String → Option Json) :
    Play σ Unit := do
  match Details.present? details.storeAs with
  | some name => storeCaptured name (capture body name)
  | none => pure ()

/-- The note for a response. -/
def statusNote (response : ApiResponse) : Play σ String := do
  if !response.ok then note .warning .steps s!"API call returned HTTP {response.status}"
  return s!"HTTP {response.status}"

variable [Outside σ]

/-- Reads from the API. -/
def carryOutRead (details : Details) : Play σ String := do
  let response ← apiGet (← endpointOf details "GET")
  storeFrom details response.body Capture.ofRead
  statusNote response

/-- Creates something by the API. -/
def carryOutCreate (details : Details) : Play σ String := do
  let response ← apiPost (← endpointOf details "POST") none
  storeFrom details response.body Capture.ofCreated
  statusNote response

/-- Deletes something by the API. -/
def carryOutDelete (details : Details) : Play σ String := do
  let response ← apiDelete (← endpointOf details "DELETE")
  statusNote response

end Walkthrough.Play
