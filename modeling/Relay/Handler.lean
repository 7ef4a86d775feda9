import Relay.Forwarder
import Relay.Http.Request

/-!
The handling of one request of an HTTP client: the body is awaited, then the request is forwarded,
and in the end there is an answer. A handler is polled again and again; each time it sees what has
happened by then, and goes as far as it can.
-/

namespace Relay

structure Settings where
  forwarder : Forwarder
  requestSeconds : UInt64
  maxBodyBytes : UInt64
deriving DecidableEq, Repr

namespace Settings

def ofConfig (c : Config) : Except Forwarder.SetupError Settings := do
  return ⟨← Forwarder.ofConfig c.origin, c.timeouts.requestSeconds, c.listener.maxBodyBytes⟩

/-- The deadline of a request has to be a time the clock can show. -/
def deadline? (s : Settings) (now : Nat) : Option Nat :=
  if now + s.requestSeconds.toNat < 0x8000000000000000 then some (now + s.requestSeconds.toNat) else none

def timedOut (s : Settings) : Fault := .timedOut s.requestSeconds

end Settings

structure Moment where
  /-- Whether the body has come to its end, if it ever does. -/
  bodyCame : Bool := true
  /-- The replies that are still to come, by the number of the request they answer. -/
  isHeld : Nat → Bool := fun _ => false
  deadlinePassed : Bool := false
  isStopping : Bool := false
  /-- Whether the stop is noticed first when the deadline has passed too. -/
  noticesStop : Bool := true

inductive Phase
  | fresh
  | reading
  /-- The replies that were still to come when it was looked at last are kept. -/
  | forwarding (inbound : Inbound) (isHeld : Nat → Bool)
  | answered (answer : Answer)
  | crashed

structure Handler where
  settings : Settings
  network : Network
  request : Http.Request
  /-- The time it starts at, in seconds of a clock that counts up to `2 ^ 63`. -/
  now : Nat
  phase : Phase := .fresh
  /-- What has been done so far. -/
  record : Record := {}

namespace Handler

def refuse (h : Handler) (message : String) (fault : Fault) : Handler :=
  { h with
    phase := .answered (.ofFault fault)
    record.logs := h.record.logs ++ [⟨.warn, message, [("error", .text fault.message)]⟩] }

def reject (h : Handler) (refusal : Refusal) : Handler :=
  h.refuse "Rejected inbound request" (.refused refusal)

def interruption? (h : Handler) (m : Moment) : Option Fault :=
  if m.isStopping && (m.noticesStop || !m.deadlinePassed) then some .cancelled
  else if m.deadlinePassed then some h.settings.timedOut
  else none

def forwardUntil (h : Handler) (inbound : Inbound) (isHeld : Nat → Bool) (stop : Stop) : Handler :=
  let (answer, record) :=
    h.settings.forwarder.forwardUntil (h.network.held isHeld) inbound stop
  { h with
    phase := match answer with
      | some answer => .answered answer
      | none => .forwarding inbound isHeld
    record := { record with logs := Http.Request.dropLog h.request.headers ++ record.logs } }

/-- Begins to forward. What interrupts the request now does so before anything is sent. -/
def forward (h : Handler) (inbound : Inbound) (m : Moment) : Handler :=
  match h.interruption? m with
  | some fault => h.forwardUntil inbound m.isHeld (.atOnce fault)
  | none => h.forwardUntil inbound m.isHeld .never

/-- Looks at a request that waits for replies. One that is interrupted does not look at replies that
have come since. -/
def await (h : Handler) (inbound : Inbound) (isHeld : Nat → Bool) (m : Moment) : Handler :=
  match h.interruption? m with
  | some fault => h.forwardUntil inbound isHeld (.whileWaiting fault)
  | none => h.forwardUntil inbound m.isHeld .never

/-- Looks at the body. One that has come is taken even if the deadline has passed. -/
def read (h : Handler) (m : Moment) : Handler :=
  match h.request.body, m.bodyCame with
  | .complete bytes, true =>
    match h.request.toInbound bytes h.settings.maxBodyBytes with
    | .error refusal => h.reject refusal
    | .ok inbound => h.forward inbound m
  | .broken cause, true => h.reject (.unreadableBody cause)
  | _, _ =>
    if m.deadlinePassed then h.refuse "Inbound body not received in time" h.settings.timedOut
    else { h with phase := .reading }

def poll (h : Handler) (m : Moment) : Handler :=
  match h.phase with
  | .fresh =>
    match h.settings.deadline? h.now with
    | none => { h with phase := .crashed }
    | some _ =>
      -- an unknown method is turned away before the body is awaited
      match h.request.method? with
      | .error refusal => h.reject refusal
      | .ok _ => { h with record.logs := Http.Request.dropLog h.request.headers }.read m
  | .reading => h.read m
  | .forwarding inbound isHeld => h.await inbound isHeld m
  | .answered _ => h
  | .crashed => h

def run (h : Handler) (ms : List Moment) : Handler := ms.foldl poll h

end Relay.Handler
