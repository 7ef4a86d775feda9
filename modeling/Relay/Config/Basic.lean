/-!
The configuration: where requests are accepted, where they go and how, how long they may take, and
what is recorded. Everything has a default.
-/

namespace Relay

structure ListenerConfig where
  bindAddress : String := "0.0.0.0:8080"
  /-- The largest body accepted, in bytes. -/
  maxBodyBytes : UInt64 := 6291456
deriving DecidableEq, Repr, Inhabited

structure OriginConfig where
  origin : String := "https://www.memverse.com"
  mountPrefixes : List String := ["/.netlify/functions/api", "/api"]
  /-- Whether answers carry the headers of the origin server. -/
  mergeHeaders : Bool := false
  userAgent : Option String := none
  useSystemProxy : Bool := false
deriving DecidableEq, Repr, Inhabited

structure TimeoutConfig where
  requestSeconds : UInt64 := 30
deriving DecidableEq, Repr, Inhabited

inductive LogFormat
  | pretty | json
deriving DecidableEq, Repr, Inhabited

structure ObservabilityConfig where
  logLevel : String := "info"
  logFormat : LogFormat := .pretty
  metricsEnabled : Bool := false
  metricsAddress : String := "0.0.0.0:9090"
deriving DecidableEq, Repr, Inhabited

structure Config where
  listener : ListenerConfig := {}
  origin : OriginConfig := {}
  timeouts : TimeoutConfig := {}
  observability : ObservabilityConfig := {}
deriving DecidableEq, Repr, Inhabited

def ObservabilityConfig.directive (level : String) : String :=
  s!"memverse_proxy={level},proxy_invoke={level},tower_http={level}"

end Relay
