import Relay.Base64
import Relay.Http.Header
import Relay.Http.Uri
import Relay.Headers
import Relay.Inbound
import Relay.Journal
import Relay.Query

/-!
Requests as an HTTP client sends them, and how they become requests of the relay: one value for each
header, and a body that is text if it can be.
-/

namespace Relay.Http

inductive RequestError
  | invalidMethod
  | invalidUri (cause : UriError)
  | invalidHeaderName
  | invalidHeaderValue
deriving DecidableEq, Repr

def RequestError.message : RequestError → String
  | .invalidMethod => "invalid HTTP method"
  | .invalidUri cause => cause.message
  | .invalidHeaderName => "invalid HTTP header name"
  | .invalidHeaderValue => "failed to parse header value"

inductive BodyArrival
  | complete (bytes : Bytes)
  | broken (cause : String)
  | stalled
deriving DecidableEq, Repr

structure Request where
  method : String
  uri : Uri
  headers : Headers
  body : BodyArrival
deriving DecidableEq, Repr

namespace Request

def checkHeader (h : String × Bytes) : Except RequestError (String × Bytes) :=
  if !isHeaderName h.1 then .error .invalidHeaderName
  else if !isHeaderValue h.2 then .error .invalidHeaderValue
  else .ok (Ascii.lower h.1, h.2)

def build (method uri : String) (headers : List (String × Bytes)) (body : BodyArrival) :
    Except RequestError Request := do
  if !isToken method then throw .invalidMethod
  let uri ← (Uri.parse uri).mapError .invalidUri
  let headers ← headers.mapM checkHeader
  return ⟨method, uri, headers, body⟩

/-- The headers whose values are text. Of several values of a name the last holds. -/
def textHeaders (hs : Headers) : TextMap :=
  .ofList (hs.filterMap fun h => (headerText? h.2).map fun text => (h.1, text))

def dropLog (hs : Headers) : List LogEvent :=
  (hs.filter fun h => (headerText? h.2).isNone).map fun _ =>
    ⟨.debug, "Dropping non-text header value", []⟩

def bodyText (bytes : Bytes) : Option String × Bool :=
  if bytes = [] then (none, false)
  else match Utf8.decode? bytes with
    | some text => (some text, false)
    | none => (some (Base64.encode bytes), true)

def method? (r : Request) : Except Refusal Method :=
  match Method.ofName? r.method with
  | some m => .ok m
  | none => .error (.unsupportedMethod r.method)

def toInbound (r : Request) (body : Bytes) (maxBodyBytes : UInt64) : Except Refusal Inbound := do
  let method ← r.method?
  if body.length > maxBodyBytes.toNat then throw .bodyTooLarge
  let (text, encoded) := bodyText body
  return {
    method
    path := r.uri.path
    query := (r.uri.query.map Query.parse).getD .empty
    headers := textHeaders r.headers
    body := text
    isBase64Encoded := encoded }

def toInboundLog (r : Request) : List LogEvent :=
  match r.method? with
  | .ok _ => dropLog r.headers
  | .error _ => []

end Relay.Http.Request
