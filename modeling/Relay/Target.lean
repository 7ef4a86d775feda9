import Relay.Fault
import Relay.Mount
import Relay.Query
import Relay.Url.Origin

/-!
The URL a request is relayed to: the configured origin, the path without its mount prefix, and the
query of the request alone.
-/

namespace Relay

structure Target where
  origin : Url
  mounts : List String
deriving DecidableEq, Repr

namespace Target

def ofText (origin : String) (mounts : List String) : Except Url.ParseError Target := do
  return ⟨← Url.parse origin, mounts⟩

def logicalPath (t : Target) (path : String) : String := Mount.strip t.mounts path

def resolve (t : Target) (path : String) (query : TextMap) : Except Refusal Url :=
  let logical := t.logicalPath path
  if logical.toList ≠ [] ∧ logical.toList.head? ≠ some '/' then .error (.relativePath logical)
  else
    match t.origin.extend logical with
    | .error e => .error (.malformedPath e)
    | .ok url =>
      if url.sameOrigin t.origin then .ok (url.setQuery (Query.serialize query))
      else .error .foreignTarget

end Relay.Target
