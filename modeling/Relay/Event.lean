import Relay.Answer

/-!
Events: requests as a function platform delivers them, in JSON.
-/

namespace Relay

structure Event where
  method : String
  path : String
  query : Option TextMap := none
  headers : Option TextMap := none
  body : Option String := none
  isBase64Encoded : Bool := false
deriving DecidableEq

namespace Event

/-- An event under construction. The outer option of a field says whether it was mentioned. -/
structure Draft where
  method : Option String := none
  path : Option String := none
  query : Option (Option TextMap) := none
  headers : Option (Option TextMap) := none
  body : Option (Option String) := none
  isBase64Encoded : Option Bool := none

def field {α : Type} (name : String) (required : Bool) (isSet : Draft → Bool) (read : Json.Reader α)
    (put : Draft → α → Draft) : Json.Field Draft where
  name
  required
  isSet
  read := fun d cs => do
    let (v, rest) ← read cs
    return (put d v, rest)

def schema : Json.Schema Draft where
  title := "struct FunctionEvent"
  fields := [
    field "httpMethod" true (·.method.isSome) Json.textField fun d v => { d with method := some v },
    field "path" true (·.path.isSome) Json.textField fun d v => { d with path := some v },
    field "queryStringParameters" false (·.query.isSome) (Json.optional Json.mapField)
      fun d v => { d with query := some v },
    field "headers" false (·.headers.isSome) (Json.optional Json.mapField)
      fun d v => { d with headers := some v },
    field "body" false (·.body.isSome) (Json.optional Json.textField)
      fun d v => { d with body := some v },
    field "isBase64Encoded" false (·.isBase64Encoded.isSome) Json.flagField
      fun d v => { d with isBase64Encoded := some v }]

def Draft.event (d : Draft) : Event where
  method := d.method.getD ""
  path := d.path.getD ""
  query := d.query.join
  headers := d.headers.join
  body := d.body.join
  isBase64Encoded := d.isBase64Encoded.getD false

def ofJsonText (text : String) : Except Json.Error Event :=
  (Json.readDocument (schema.read {}) text).map Draft.event

def toJson (e : Event) : Json :=
  let map := fun (m : Option TextMap) => (m.map Answer.headersJson).getD .null
  .object [("httpMethod", .string e.method), ("path", .string e.path),
    ("queryStringParameters", map e.query), ("headers", map e.headers),
    ("body", (e.body.map Json.string).getD .null), ("isBase64Encoded", .bool e.isBase64Encoded)]

/-- The request of an event. Header names become lower case; of names that then agree the last in
order holds. -/
def toInbound (e : Event) : Except Refusal Inbound :=
  match Method.ofName? e.method with
  | none => .error (.unsupportedMethod e.method)
  | some method => .ok {
      method
      path := e.path
      -- null is as good as nothing, here and below
      query := e.query.getD .empty
      headers := .ofList ((e.headers.getD .empty).entries.map fun h => (Ascii.lower h.1, h.2))
      body := e.body
      isBase64Encoded := e.isBase64Encoded }

def ofInbound (r : Inbound) : Event where
  method := r.method.name
  path := r.path
  query := some r.query
  headers := some r.headers
  body := r.body
  isBase64Encoded := r.isBase64Encoded

end Relay.Event
