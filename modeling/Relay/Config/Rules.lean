import Relay.Config.Basic
import Relay.SocketAddress
import Relay.Url.Parser

/-!
The rules a configuration has to satisfy, and every violation of them in order.
-/

namespace Relay.Config

inductive OriginFault
  | notUrl (cause : Url.ParseError)
  | unsupportedScheme (scheme : String)
  | missingHost
  | hasPath
  | hasQueryOrFragment
deriving DecidableEq, Repr

def OriginFault.message : OriginFault → String
  | .notUrl cause => cause.message
  | .unsupportedScheme scheme => s!"unsupported scheme \x60{scheme}\x60"
  | .missingHost => "missing host"
  | .hasPath => "must not contain a path"
  | .hasQueryOrFragment => "must not contain a query or fragment"

inductive Violation
  | origin (text : String) (fault : OriginFault)
  | mountPrefix (text : String)
  | bindAddress (text : String)
  | metricsAddress (text : String)
  | zeroTimeout
deriving DecidableEq, Repr

def Violation.message : Violation → String
  | .origin text fault => s!"upstream.origin \x60{text}\x60 is invalid: {fault.message}"
  | .mountPrefix text =>
    s!"upstream.mount_prefixes entry \x60{text}\x60 must start with '/' and not end with '/'"
  | .bindAddress text => s!"listener.bind_address \x60{text}\x60 is not a valid socket address"
  | .metricsAddress text => s!"observability.metrics_address \x60{text}\x60 is not a valid socket address"
  | .zeroTimeout => "timeouts.request_secs must be greater than zero"

/-- An origin names a web server and nothing on it; a slash at its end would be a path. -/
def originFault? (text : String) : Option OriginFault :=
  match Url.parse text with
  | .error e => some (.notUrl e)
  | .ok url =>
    if url.scheme ≠ "http" ∧ url.scheme ≠ "https" then some (.unsupportedScheme url.scheme)
    else if url.host?.isNone then some .missingHost
    else if url.path.text ≠ "/" ∨ text.toList.getLast? = some '/' then some .hasPath
    else if url.query.isSome ∨ url.fragment.isSome then some .hasQueryOrFragment
    else none

def isMountPrefix (text : String) : Bool :=
  text.toList.head? == some '/' && text.toList.getLast? != some '/'

def violations (c : Config) : List Violation :=
  ((originFault? c.origin.origin).map (Violation.origin c.origin.origin)).toList ++
    (c.origin.mountPrefixes.filter (!isMountPrefix ·)).map .mountPrefix ++
    (if SocketAddress.isValid c.listener.bindAddress then []
      else [.bindAddress c.listener.bindAddress]) ++
    (if c.observability.metricsEnabled ∧ ¬SocketAddress.isValid c.observability.metricsAddress then
      [.metricsAddress c.observability.metricsAddress] else []) ++
    (if c.timeouts.requestSeconds = 0 then [.zeroTimeout] else [])

def validate (c : Config) : Except (List Violation) Config :=
  match c.violations with
  | [] => .ok c
  | vs => .error vs

end Relay.Config
