import Walkthrough.Decimal.Fixed
import Walkthrough.Json.Reading
import Walkthrough.Session.Variables

/-!
# The API client

Requests to the API of a run. A relative endpoint is joined to the client's address; an answer that
declares JSON is read as such, and any other stays text.
-/

namespace Walkthrough

open Text Text.Pattern

/-- The answer to a request. -/
structure ApiResponse where
  status : Int
  body : Json
  headers : List (String × String)
  milliseconds : Float

/-- Whether a request went well. -/
def ApiResponse.ok (response : ApiResponse) : Bool :=
  response.status < 400

namespace Client

/-- The client for an address, whose slashes at the end mean nothing. -/
def ofAddress (address : String) (timeout : Number) : Client where
  baseUrl := String.ofList (address.toList.reverse.dropWhile (· == '/')).reverse
  timeout

/-- The kinds of body that every request asks for. -/
def acceptHeader : String × String :=
  ("Accept", "application/json, application/xml, text/xml, */*")

/-- The start of an absolute address. -/
def absolutePattern : Pattern :=
  all [word "http", optional (word "s"), word "://"]

/-- The address of an endpoint: its own if it is absolute, else one below the client's. -/
def urlOf (client : Client) (endpoint : String) : Except StepFault String :=
  if (absolutePattern.front? endpoint.toList).isSome then .ok endpoint
  else if client.baseUrl.isEmpty then
    .error (.missingEndpoint
      s!"Endpoint {quoted endpoint} is relative and no API base URL is configured")
  else .ok (client.baseUrl ++ "/" ++ String.ofList (endpoint.toList.dropWhile (· == '/')))

end Client

/-- The value of a header, whatever the case of its name. -/
def headerOf? (name : String) (headers : List (String × String)) : Option String :=
  (headers.find? fun header => sameName header.1 name).map (·.2)

/-- Whether an answer declares that its body is JSON. -/
def HttpReply.declaresJson (reply : HttpReply) : Bool :=
  occurs "application/json" ((headerOf? "Content-Type" reply.headers).getD "")

namespace Play

variable {σ : Type}

/-- Says where the client's requests go. -/
def openClient (client : Client) : Play σ Unit := do
  modify fun session => { session with client }
  note .info .api ("API client initialized with base URL: " ++
    (if client.baseUrl.isEmpty then "<none>" else client.baseUrl))

/-- The address of an endpoint. -/
def urlOf (endpoint : String) : Play σ String := do
  match (← get).client.urlOf endpoint with
  | .ok url => return url
  | .error cause => refuse cause

/-- The body of an answer. -/
def decodeBody (reply : HttpReply) : Play σ Json := do
  if reply.declaresJson then
    match Json.read reply.body with
    | .ok value => return value
    | .error (.tooDeep collection) => throw (.tooDeep collection)
    | .error .malformed =>
      note .warning .api "Response declared JSON but could not be decoded"
      return .text reply.body
  else return .text reply.body

variable [Outside σ]

/-- Sends a request and reads its answer. -/
def request (method : HttpMethod) (endpoint : String) (data : Option Json) :
    Play σ ApiResponse := do
  let url ← urlOf endpoint
  note .info .api s!"API {method.name} {url}"
  let start ← clock
  let reply : HttpReply ← ask (.request method url (← get).client.timeout data)
  let milliseconds := ((← clock) - start) * 1000.0
  let body ← decodeBody reply
  note .info .api (s!"API response: status={reply.status} " ++
    s!"duration={Decimal.fixedText 0 milliseconds}ms")
  return {
    status := reply.status
    body
    headers := reply.headers
    milliseconds := Decimal.roundTo 1 milliseconds }

/-- Reads from an endpoint. -/
def apiGet (endpoint : String) : Play σ ApiResponse :=
  request .get endpoint none

/-- Deletes at an endpoint. -/
def apiDelete (endpoint : String) : Play σ ApiResponse :=
  request .delete endpoint none

/-- Sends data to an endpoint. -/
def apiPost (endpoint : String) (data : Option Json) : Play σ ApiResponse := do
  match data with
  | some value => note .info .api s!"API POST body: {value.display}"
  | none => pure ()
  request .post endpoint data

/-- Replaces what is at an endpoint. -/
def apiPut (endpoint : String) (data : Option Json) : Play σ ApiResponse :=
  request .put endpoint data

/-- The text with the client's values in place of placeholders. -/
def expandForApi (text : String) : Play σ String := do
  let session ← get
  expandWith (session.client.own.getD session.vars) text

/-- Ends the client's connections. -/
def closeClient : Play σ Unit := do
  ask .closeClient
  note .info .api "API client closed"

end Play

end Walkthrough
