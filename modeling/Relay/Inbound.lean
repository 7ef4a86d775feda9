import Relay.Http.Method
import Relay.Base64
import Relay.TextMap

/-!
A request as the hosting platform hands it over: one value for each query name and each header, and
a body that is text or the Base64 form of bytes.
-/

namespace Relay

structure Inbound where
  method : Method
  path : String
  query : TextMap := .empty
  headers : TextMap := .empty
  body : Option String := none
  isBase64Encoded : Bool := false
deriving DecidableEq

def TextMap.lookup? (m : TextMap) (name : String) : Option String :=
  (m.entries.find? fun e => Ascii.sameName e.1 name).map (·.2)

namespace Inbound

def header? (r : Inbound) (name : String) : Option String := r.headers.lookup? name

def withHeader (r : Inbound) (name value : String) : Inbound :=
  { r with headers := r.headers.insert (Ascii.lower name) value }

def withQuery (r : Inbound) (name value : String) : Inbound :=
  { r with query := r.query.insert name value }

def withBody (r : Inbound) (body : String) : Inbound :=
  { r with body := some body, isBase64Encoded := false }

def withBinaryBody (r : Inbound) (body : Bytes) : Inbound :=
  { r with body := some (Base64.encode body), isBase64Encoded := true }

def hasBody (r : Inbound) : Bool :=
  match r.body with
  | some body => body ≠ ""
  | none => false

end Relay.Inbound
