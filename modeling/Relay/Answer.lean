import Relay.Headers
import Relay.Journal
import Relay.Json.Record

/-!
The answer handed back to the hosting platform: a status, one value for each header, and a body
that is text or the Base64 form of bytes.
-/

namespace Relay

structure Answer where
  status : UInt16
  headers : TextMap
  body : String
  isBase64Encoded : Bool
deriving DecidableEq

structure Received where
  status : UInt16
  headers : Http.Headers
  body : Bytes
deriving DecidableEq, Repr

namespace Answer

def header? (a : Answer) (name : String) : Option String := a.headers.lookup? name

def decodedBody (a : Answer) : Except Base64.DecodeError Bytes :=
  if a.isBase64Encoded then Base64.decodeText a.body else .ok (Utf8.encode a.body)

def defaultContentType : String := "application/json"

def contentType (received : Http.Headers) : String :=
  ((received.get? "content-type").bind Http.headerText?).getD defaultContentType

def relay (received : Received) (mergeHeaders : Bool) : Answer where
  status := received.status
  headers :=
    let merged := if mergeHeaders then Headers.merge received.headers .empty else .empty
    Headers.allowAll (Headers.set merged "Content-Type" (contentType received.headers))
  body := Base64.encode received.body
  isBase64Encoded := true

def errorBody (f : Fault) : Json :=
  .object [("error", .string "Proxy failed"), ("details", .string f.message)]

def ofFault (f : Fault) : Answer where
  status := f.status
  headers := Headers.allowAll (Headers.set .empty "Content-Type" defaultContentType)
  body := (errorBody f).compact
  isBase64Encoded := false

/-! ### As JSON -/

def headersJson (m : TextMap) : Json := .object (m.entries.map fun e => (e.1, .string e.2))

def toJson (a : Answer) : Json :=
  .object [("statusCode", .number (.integer a.status.toNat)), ("headers", headersJson a.headers),
    ("body", .string a.body), ("isBase64Encoded", .bool a.isBase64Encoded)]

structure Draft where
  status : Option UInt16 := none
  headers : Option TextMap := none
  body : Option String := none
  isBase64Encoded : Option Bool := none

def field {α : Type} (name : String) (isSet : Draft → Bool) (read : Json.Reader α)
    (put : Draft → α → Draft) : Json.Field Draft where
  name
  required := true
  isSet
  read := fun d cs => do
    let (v, rest) ← read cs
    return (put d v, rest)

def schema : Json.Schema Draft where
  title := "struct ProxyResponse"
  fields := [
    field "statusCode" (·.status.isSome) Json.word16Field fun d v => { d with status := some v },
    field "headers" (·.headers.isSome) Json.mapField fun d v => { d with headers := some v },
    field "body" (·.body.isSome) Json.textField fun d v => { d with body := some v },
    field "isBase64Encoded" (·.isBase64Encoded.isSome) Json.flagField
      fun d v => { d with isBase64Encoded := some v }]

def Draft.answer (d : Draft) : Answer :=
  ⟨d.status.getD 0, d.headers.getD .empty, d.body.getD "", d.isBase64Encoded.getD false⟩

def ofJsonText (text : String) : Except Json.Error Answer :=
  (Json.readDocument (schema.read {}) text).map Draft.answer

/-! ### As an HTTP response -/

structure Response where
  status : UInt16
  headers : Http.Headers
  body : Bytes
deriving DecidableEq, Repr

def isStatus (n : UInt16) : Bool := 100 ≤ n.toNat && n.toNat ≤ 999

def isSendable (h : String × String) : Bool :=
  Http.isHeaderName h.1 && Http.isHeaderValue (Utf8.encode h.2)

/-- The response: raw bytes, lower-case names, and no header that cannot be sent. A status that
cannot be sent becomes 502, and a body that is not Base64 is sent as text. -/
def toResponse (a : Answer) : Response where
  status := if isStatus a.status then a.status else 502
  headers := (a.headers.entries.filter isSendable).map fun h => (Ascii.lower h.1, Utf8.encode h.2)
  body := match a.decodedBody with
    | .ok bytes => bytes
    | .error _ => Utf8.encode a.body

def responseLog (a : Answer) : List LogEvent :=
  let body := match a.decodedBody with
    | .ok _ => []
    | .error e => [⟨.warn, "Response body not valid base64, sending as text", [("error", .text e.message)]⟩]
  let headers := (a.headers.entries.filter (!isSendable ·)).map fun h =>
    ⟨.warn, "Dropping invalid response header", [("header", .text h.1)]⟩
  body ++ headers

end Relay.Answer
