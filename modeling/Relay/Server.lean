import Relay.Handler

/-!
The HTTP host: it routes requests, runs each under the settings in force when it started, takes
configuration updates until it has ended, and cancels what is in flight when it stops.
-/

namespace Relay

/-! ### Routing -/

def requestIdHeader : String := "x-request-id"

def requestId (r : Http.Request) (freshId : String) : Bytes :=
  (r.headers.get? requestIdHeader).getD (Utf8.encode freshId)

def spanEntry (r : Http.Request) (freshId : String) : LogEntry :=
  .span r.method ((Http.headerText? (requestId r freshId)).getD "unknown")

def isRouted (r : Http.Request) : Bool := r.uri.path.toList.head? == some '/'

/-- The response as it leaves the router: with its length and the id of the request, and without a
body if only the head was asked for. -/
def finishResponse (r : Http.Request) (freshId : String) (response : Answer.Response) :
    Answer.Response :=
  let length := Utf8.encode (toString response.body.length)
  let headers := if response.headers.contains "content-length" then response.headers
    else response.headers ++ [("content-length", length)]
  let headers := if headers.contains requestIdHeader then headers
    else headers ++ [(requestIdHeader, requestId r freshId)]
  { response with headers, body := if r.method = "HEAD" then [] else response.body }

inductive Delivery
  | response (response : Answer.Response)
  | crashed
  | waiting
deriving DecidableEq, Repr

structure Service where
  delivery : Delivery
  logs : List LogEntry
  samples : List Sample := []
  sent : List Sent := []

def Service.since (later earlier : Service) : Service where
  delivery := later.delivery
  logs := later.logs.drop earlier.logs.length
  samples := later.samples.drop earlier.samples.length
  sent := later.sent.drop earlier.sent.length

/-! ### Requests in flight -/

structure InFlight where
  request : Http.Request
  freshId : String
  /-- There is none if no route leads to one. -/
  handler : Option Handler

namespace InFlight

def start (settings : Settings) (net : Network) (now : Nat) (freshId : String) (r : Http.Request) :
    InFlight where
  request := r
  freshId
  handler := if isRouted r then some { settings, network := net, request := r, now } else none

def poll (f : InFlight) (m : Moment) : InFlight :=
  { f with handler := f.handler.map (·.poll m) }

def run (f : InFlight) (ms : List Moment) : InFlight := ms.foldl poll f

def service (f : InFlight) : Service :=
  let span := spanEntry f.request f.freshId
  match f.handler with
  | none =>
    { delivery := .response (finishResponse f.request f.freshId ⟨404, [], []⟩), logs := [span] }
  | some h =>
    let served := fun delivery extra =>
      { delivery
        logs := span :: (h.record.logs ++ extra).map .event
        samples := h.record.samples
        sent := h.record.sent }
    match h.phase with
    | .answered answer =>
      served (.response (finishResponse f.request f.freshId answer.toResponse)) answer.responseLog
    | .crashed => served .crashed []
    | _ => served .waiting []

end InFlight

/-! ### The running server -/

/-- How far a server has come. While it drains, what is in flight is cancelled, but requests can still
start on open connections, and updates are still taken. -/
inductive Stage
  | serving
  | draining
  | ended
deriving DecidableEq, Repr

structure Server where
  settings : Settings
  /-- The configuration that was accepted last. -/
  baseline : Config
  stage : Stage := .serving
  /-- The requests that have started and not completed, each under its number. -/
  inFlight : Nat → Option InFlight := fun _ => none

namespace Server

def start (c : Config) : Except Forwarder.SetupError Server := do
  return { settings := ← Settings.ofConfig c, baseline := c }

def isStopping (s : Server) : Bool := s.stage != .serving

def restartOnlyChanges (old new : Config) : List String :=
  (if old.listener.bindAddress ≠ new.listener.bindAddress then ["listener.bind_address"] else []) ++
  (if old.observability.logLevel ≠ new.observability.logLevel then ["observability.log_level"] else []) ++
  (if old.observability.logFormat ≠ new.observability.logFormat then ["observability.log_format"]
    else []) ++
  (if old.observability.metricsEnabled ≠ new.observability.metricsEnabled then
    ["observability.metrics_enabled"] else []) ++
  (if old.observability.metricsAddress ≠ new.observability.metricsAddress then
    ["observability.metrics_address"] else [])

def reloadEvent (c : Config) : LogEvent :=
  ⟨.info, "Request settings reloaded",
    [("upstream", .text c.origin.origin),
      ("request_timeout_secs", .number c.timeouts.requestSeconds.toNat),
      ("max_body_bytes", .number c.listener.maxBodyBytes.toNat)]⟩

def restartEvent (field : String) : LogEvent :=
  ⟨.warn, "Changed setting only applies after a restart", [("field", .text field)]⟩

def rejectEvent (e : Forwarder.SetupError) : LogEvent :=
  ⟨.error, "Rejected config update, keeping current settings", [("error", .text e.message)]⟩

/-- Takes a configuration update. Settings and baseline change together, or neither does. -/
def update (s : Server) (c : Config) : Server × List LogEvent :=
  if s.stage = .ended then (s, [])
  else match Settings.ofConfig c with
    | .ok settings =>
      ({ s with settings, baseline := c },
        reloadEvent c :: (restartOnlyChanges s.baseline c).map restartEvent)
    | .error e => (s, [rejectEvent e])

def moment (s : Server) (m : Moment) : Moment := { m with isStopping := s.isStopping }

def setInFlight (s : Server) (id : Nat) (f : Option InFlight) : Server :=
  { s with inFlight := fun n => if n = id then f else s.inFlight n }

def begin (s : Server) (id : Nat) (net : Network) (now : Nat) (freshId : String) (r : Http.Request)
    (m : Moment) : Server × Service :=
  -- the settings go with the request: no later update reaches it
  let f := (InFlight.start s.settings net now freshId r).poll (s.moment m)
  (s.setInFlight id (some f), f.service)

def wake (s : Server) (id : Nat) (m : Moment) : Server × Option Service :=
  match s.inFlight id with
  | none => (s, none)
  | some f =>
    let next := f.poll (s.moment m)
    (s.setInFlight id (some next), some (next.service.since f.service))

/-- Hands over what a request has come to; one that still waits stays in flight. -/
def complete (s : Server) (id : Nat) : Server × Option Delivery :=
  match s.inFlight id with
  | none => (s, none)
  | some f =>
    match f.service.delivery with
    | .waiting => (s, some .waiting)
    | delivery => (s.setInFlight id none, some delivery)

def stopEvent : LogEvent := ⟨.info, "Shutdown requested, cancelling in-flight requests", []⟩

def closeEvent : LogEvent := ⟨.info, "HTTP server stopped", []⟩

def stop (s : Server) : Server × List LogEvent :=
  match s.stage with
  | .serving => ({ s with stage := .draining }, [stopEvent])
  | _ => (s, [])

def close (s : Server) : Server × List LogEvent :=
  match s.stage with
  | .draining => ({ s with stage := .ended }, [closeEvent])
  | _ => (s, [])

def request (s : Server) (net : Network) (now : Nat) (freshId : String) (r : Http.Request)
    (ms : List Moment) : Service :=
  ((InFlight.start s.settings net now freshId r).run (ms.map s.moment)).service

/-! ### Runs -/

inductive Step
  | update (config : Config)
  | begin (id : Nat) (net : Network) (now : Nat) (freshId : String) (request : Http.Request)
    (moment : Moment)
  | wake (id : Nat) (moment : Moment)
  | complete (id : Nat)
  | stop
  | close

def step (s : Server) : Step → Server
  | .update c => (s.update c).1
  | .begin id net now freshId r m => (s.begin id net now freshId r m).1
  | .wake id m => (s.wake id m).1
  | .complete id => (s.complete id).1
  | .stop => s.stop.1
  | .close => s.close.1

def run (s : Server) (steps : List Step) : Server := steps.foldl step s

end Server

end Relay
