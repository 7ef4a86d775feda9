import Relay.Client
import Relay.Config.Basic
import Relay.Event
import Relay.Target

/-!
The forwarder: one inbound request in, one answer out, and a record of what was done.
-/

namespace Relay

structure Forwarder where
  target : Target
  client : Client
  mergeHeaders : Bool
deriving DecidableEq, Repr

structure Record where
  logs : List LogEvent := []
  samples : List Sample := []
  sent : List Sent := []
deriving DecidableEq, Repr

inductive Stop
  | never
  /-- Before anything is sent. -/
  | atOnce (fault : Fault)
  /-- While the reply is awaited. -/
  | whileWaiting (fault : Fault)
deriving DecidableEq, Repr

namespace Forwarder

inductive SetupError
  | invalidOrigin (cause : Url.ParseError)
  | invalidUserAgent
deriving DecidableEq, Repr

def SetupError.message : SetupError → String
  | .invalidOrigin cause => s!"invalid upstream origin: {cause.message}"
  | .invalidUserAgent => "failed to build upstream client: builder error"

def ofConfig (c : OriginConfig) : Except SetupError Forwarder := do
  let target ← (Target.ofText c.origin c.mountPrefixes).mapError .invalidOrigin
  if c.userAgent.any (!Client.isUserAgent ·) then throw .invalidUserAgent
  return ⟨target, ⟨c.userAgent, c.useSystemProxy⟩, c.mergeHeaders⟩

def prepare (f : Forwarder) (r : Inbound) : Except Refusal Outbound := do
  let url ← f.target.resolve r.path r.query
  let headers ← Headers.select r
  return ⟨r.method, url, headers, .normalize r.body r.isBase64Encoded (r.header? "content-type")⟩

/-! ### Records -/

def startEvent (f : Forwarder) (r : Inbound) : LogEvent where
  level := .info
  message := "Proxying request"
  fields := [("method", .text r.method.name), ("path", .text (f.target.logicalPath r.path)),
    ("has_query", .flag (!r.query.isEmpty)),
    ("has_authorization", .flag (r.header? "authorization").isSome), ("has_body", .flag r.hasBody)]

def bodyLog (f : Forwarder) (r : Inbound) : List LogEvent :=
  match f.prepare r with
  | .ok _ => Outbound.Body.normalizeLog r.body r.isBase64Encoded (r.header? "content-type")
  | .error _ => []

def successRecord (f : Forwarder) (r : Inbound) (received : Received) : Record where
  logs := [⟨.info, "Upstream responded",
    [("method", .text r.method.name), ("path", .text (f.target.logicalPath r.path)),
      ("status", .number received.status.toNat), ("bytes", .number received.body.length)]⟩]
  samples := [.request r.method.name received.status "upstream", .duration r.method.name]

def failureRecord (f : Forwarder) (r : Inbound) (fault : Fault) : Record where
  logs := [⟨.error, "Proxy failed",
    [("method", .text r.method.name), ("path", .text (f.target.logicalPath r.path)),
      ("kind", .text fault.kind), ("error", .text fault.message)]⟩]
  samples := [.failure fault.kind, .request r.method.name fault.status fault.kind,
    .duration r.method.name]

/-! ### Forwarding -/

inductive Result
  | received (reply : Received)
  | fault (fault : Fault)
  | waiting
deriving DecidableEq

def attempt (f : Forwarder) (net : Network) (r : Inbound) : List Sent × Result :=
  match f.prepare r with
  | .error refusal => ([], .fault (.refused refusal))
  | .ok out =>
    match f.client.exchange net out with
    | (sent, .received reply) => (sent, .received reply)
    | (sent, .failed status failure) => (sent, .fault (.transport status failure.message))
    | (sent, .waiting) => (sent, .waiting)

def finish (f : Forwarder) (r : Inbound) : Result → Option Answer × Record
  | .received reply => (some (.relay reply f.mergeHeaders), f.successRecord r reply)
  | .fault fault => (some (.ofFault fault), f.failureRecord r fault)
  | .waiting => (none, {})

/-- Forwards a request unless it is given up. There is no answer only while a reply is awaited that
never comes, and nothing stops the wait. -/
def forwardUntil (f : Forwarder) (net : Network) (r : Inbound) (stop : Stop) : Option Answer × Record :=
  let start := f.startEvent r
  match stop with
  | .atOnce fault =>
    -- nothing has been prepared, so there is nothing to say about the body
    let (answer, record) := f.finish r (.fault fault)
    (answer, { record with logs := start :: record.logs })
  | _ =>
    let (sent, result) := f.attempt net r
    let result := match result, stop with
      | .waiting, .whileWaiting fault => .fault fault
      | result, _ => result
    let (answer, record) := f.finish r result
    (answer, { record with logs := start :: f.bodyLog r ++ record.logs, sent })

def forward (f : Forwarder) (net : Network) (r : Inbound) : Option Answer × Record :=
  f.forwardUntil net r .never

/-! ### Events -/

def handleEvent (f : Forwarder) (net : Network) (text : String) : Option Answer × Record :=
  match Event.ofJsonText text with
  | .error e =>
    (some (.ofFault (.refused (.malformedEvent e))),
      { logs := [⟨.warn, "Malformed function event", [("error", .text e.message)]⟩] })
  | .ok event =>
    match event.toInbound with
    | .error refusal => (some (.ofFault (.refused refusal)), {})
    | .ok r => f.forward net r

end Relay.Forwarder
