import Relay.Answer
import Relay.Url.Origin

/-!
The world beyond the relay: whether a connection can be made, what comes back over it, and which
headers the HTTP library repeats when a reply sends it on.
-/

namespace Relay

inductive Dial
  | connected
  | refused
  | unreachable
deriving DecidableEq, Repr

inductive HeadFault
  | closed
  | version
  | status
  | header
  | contentLength
deriving DecidableEq, Repr

def HeadFault.message : HeadFault → String
  | .closed => "connection closed before message completed"
  | .version => "invalid HTTP version parsed"
  | .status => "invalid HTTP status-code parsed"
  | .header => "invalid HTTP header parsed"
  | .contentLength => "invalid content-length parsed"

inductive BodyFault
  | cutShort
  | chunkSize
deriving DecidableEq, Repr

def BodyFault.message : BodyFault → String
  | .cutShort => "end of file before message length reached"
  | .chunkSize => "Invalid chunk size line: missing size digit"

inductive Reply
  | answer (status : UInt16) (headers : Http.Headers) (body : Except BodyFault Bytes)
  | unreadable (fault : HeadFault)
  | silent

/-- A request as it was sent: the target of its first line, and its headers as they were spelled. -/
structure Sent where
  method : String
  url : Url
  target : String
  headers : List (String × Bytes)
  body : Bytes
deriving DecidableEq, Repr

/-- The headers that a request starts from when it follows a redirect: those of the first request, or
those of the request just before. Releases of the HTTP library differ in this. -/
inductive HeaderCopy
  | first
  | previous
deriving DecidableEq, Repr

structure Network where
  dial : Url → Dial
  reply : Nat → Reply
  headerCopy : HeaderCopy := .first

def Network.isolated : Network where
  dial := fun _ => .unreachable
  reply := fun _ => .silent

/-- A network where every server is reached, and the replies are given; the last one repeats. -/
def Network.scripted (replies : List Reply) : Network where
  dial := fun _ => .connected
  reply := fun i => (replies[i]?).getD ((replies.getLast?).getD (.answer 200 [] (.ok [])))

def Network.held (net : Network) (isHeld : Nat → Bool) : Network where
  dial := net.dial
  reply := fun i => if isHeld i then .silent else net.reply i
  headerCopy := net.headerCopy

end Relay
