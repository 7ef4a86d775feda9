import Relay.Json.Error
import Relay.Url.Error

/-!
Why a request was not relayed. An origin server that answers with an error status has answered:
only a request that cannot be passed on, a connection that fails, and a caller or a clock that
stops the wait are faults.
-/

namespace Relay

inductive Refusal
  | unsupportedMethod (name : String)
  | relativePath (path : String)
  | malformedPath (cause : Url.ParseError)
  | foreignTarget
  | invalidHeaderValue (name : String)
  | malformedEvent (cause : Json.Error)
  | bodyTooLarge
  | unreadableBody (cause : String)
  | stated (text : String)
deriving DecidableEq, Repr

def Refusal.message : Refusal → String
  | .unsupportedMethod name => s!"unsupported method \x60{name}\x60"
  | .relativePath path => s!"path \x60{path}\x60 must start with '/'"
  | .malformedPath cause => s!"malformed path: {cause.message}"
  | .foreignTarget => "path resolves outside the upstream origin"
  | .invalidHeaderValue name => s!"invalid value for header \x60{name}\x60"
  | .malformedEvent cause => s!"malformed event: {cause.message}"
  | .bodyTooLarge => "failed to read request body: length limit exceeded"
  | .unreadableBody cause => s!"failed to read request body: {cause}"
  | .stated text => text

inductive Fault
  | refused (reason : Refusal)
  /-- The connection failed; the status is known when it failed after the status line. -/
  | transport (status : Option UInt16) (message : String)
  | cancelled
  | timedOut (seconds : UInt64)
deriving DecidableEq, Repr

namespace Fault

def message : Fault → String
  | .refused reason => s!"invalid request: {reason.message}"
  | .transport _ message => message
  | .cancelled => "request cancelled"
  | .timedOut seconds => s!"request timed out after {seconds.toNat}s"

def status : Fault → UInt16
  | .refused _ => 400
  | .transport (some status) _ => status
  | .transport none _ => 500
  | .cancelled => 500
  | .timedOut _ => 504

def kind : Fault → String
  | .refused _ => "resolution"
  | .transport _ _ => "transport"
  | .cancelled => "cancelled"
  | .timedOut _ => "timeout"

end Relay.Fault
