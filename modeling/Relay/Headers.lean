import Relay.Fault
import Relay.Http.Header
import Relay.Inbound

/-!
Headers in both directions. To the origin server go three headers and no others; back come those
that do not belong to the connection, when the configuration asks for them, and always the headers
that let any site call the relay.
-/

namespace Relay.Headers

def forwarded : List String := ["authorization", "content-type", "accept"]

def select (r : Inbound) : Except Refusal Http.Headers :=
  go forwarded
where
  go : List String → Except Refusal Http.Headers
    | [] => .ok []
    | name :: names =>
      match r.header? name with
      | none => go names
      | some value =>
        if Http.isHeaderValue (Utf8.encode value) then do
          return (name, Utf8.encode value) :: (← go names)
        else .error (.invalidHeaderValue name)

/-- Headers of the connection, and the length, which the encoding of the body changes. -/
def stripped : List String :=
  ["connection", "keep-alive", "proxy-authenticate", "proxy-authorization", "te", "trailer",
    "transfer-encoding", "upgrade", "content-length"]

def isStripped (name : String) : Bool := stripped.any (Ascii.sameName · name)

def set (m : TextMap) (name value : String) : TextMap :=
  (m.filterKeys fun k => !Ascii.sameName k name).insert name value

def cors : List (String × String) :=
  [("Access-Control-Allow-Origin", "*"),
    ("Access-Control-Allow-Headers", "Content-Type, Authorization, Accept"),
    ("Access-Control-Allow-Methods", "GET, POST, PUT, DELETE, PATCH, OPTIONS")]

def allowAll (m : TextMap) : TextMap :=
  cors.foldl (fun m h => set m h.1 h.2) m

def joinedText? (received : Http.Headers) (name : String) : Option String :=
  match (received.values name).filterMap Http.headerText? with
  | [] => none
  | texts => some (", ".intercalate texts)

def mergeName (received : Http.Headers) (m : TextMap) (name : String) : TextMap :=
  if isStripped name then m
  else match joinedText? received name with
    | some text => set m name text
    | none => m

def merge (received : Http.Headers) (m : TextMap) : TextMap :=
  received.names.foldl (mergeName received) m

end Relay.Headers
