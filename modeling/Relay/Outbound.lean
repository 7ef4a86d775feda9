import Relay.Headers
import Relay.Journal
import Relay.Json.Reader
import Relay.Text.Blank
import Relay.Url.Basic

/-!
The request sent to the origin server, and how its body is found. A JSON body is parsed and written
anew, all others are passed on as bytes; what cannot be decoded or parsed is passed on as it came.
-/

namespace Relay

namespace Outbound

inductive Body
  | empty
  | raw (bytes : Bytes)
  | json (value : Json)

namespace Body

def isEmpty : Body → Bool
  | .empty => true
  | _ => false

def bytes : Body → Bytes
  | .empty => []
  | .raw bytes => bytes
  | .json value => Utf8.encode value.compact

def isJsonType (contentType : Option String) : Bool :=
  match contentType with
  | none => false
  | some text =>
    Ascii.sameName (trimBlanks (String.ofList (text.toList.takeWhile (· ≠ ';')))) "application/json"

def parseJson? (body : String) (encoded : Bool) : Option Json :=
  if encoded then
    match Base64.decodeText body with
    | .ok bytes => (Utf8.decode? bytes).bind fun text => (Json.parse text).toOption
    | .error _ => none
  else (Json.parse body).toOption

def normalize (body : Option String) (encoded : Bool) (contentType : Option String) : Body :=
  match body with
  | none => .empty
  | some body =>
    if body = "" then .empty
    else if isJsonType contentType then
      match parseJson? body encoded with
      | some value => .json value
      -- as it came, also if what came is Base64
      | none => .raw (Utf8.encode body)
    else if encoded then
      match Base64.decodeText body with
      | .ok bytes => .raw bytes
      | .error _ => .raw (Utf8.encode body)
    else .raw (Utf8.encode body)

def normalizeLog (body : Option String) (encoded : Bool) (contentType : Option String) :
    List LogEvent :=
  match body with
  | none => []
  | some body =>
    if body = "" then []
    else if isJsonType contentType then
      match parseJson? body encoded with
      | some _ => []
      | none => [⟨.debug, "JSON body not parseable, forwarding as-is", []⟩]
    else if encoded then
      match Base64.decodeText body with
      | .ok _ => []
      | .error _ => [⟨.debug, "Body flagged as base64 but not decodable, forwarding as-is", []⟩]
    else []

end Body

end Outbound

structure Outbound where
  method : Method
  url : Url
  headers : Http.Headers
  body : Outbound.Body

end Relay
