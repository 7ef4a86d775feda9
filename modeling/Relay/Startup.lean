import Relay.Server
import Relay.Shutdown

/-!
The start of the long-running program, as two tasks that take turns in any order. One waits for a
termination signal and then triggers the shutdown; the main one builds the server, and hands it a
receiver of the shutdown when it begins to run.
-/

namespace Relay

inductive SignalTask
  | waiting
  | notified
  /-- The flag of the shutdown is set, and the message is still to be sent. -/
  | raised
  | done
deriving DecidableEq, Repr

inductive MainTask
  | building (config : Config)
  | built (server : Server)
  /-- The server runs, and listens with the receiver of this number. -/
  | running (server : Server) (receiver : Nat)
  /-- The message has come, and the receiver is gone. -/
  | stopping (server : Server)
  | failed (cause : Forwarder.SetupError)

structure Startup where
  shutdown : Shutdown := {}
  signalTask : SignalTask := .waiting
  mainTask : MainTask

namespace Startup

def ofConfig (c : Config) : Startup := { mainTask := .building c }

inductive Turn
  | signal
  | signalTask
  | mainTask
deriving DecidableEq, Repr

/-- Only the first signal is awaited. -/
def notify (t : Startup) : Startup :=
  match t.signalTask with
  | .waiting => { t with signalTask := .notified }
  | _ => t

/-- Triggers the shutdown, the flag before the message. -/
def signalStep (t : Startup) : Startup :=
  match t.signalTask with
  | .notified => { t with shutdown := t.shutdown.raise, signalTask := .raised }
  | .raised => { t with shutdown := t.shutdown.send, signalTask := .done }
  | _ => t

def listen (t : Startup) (server : Server) (receiver : Nat) : Startup :=
  match t.shutdown.receive receiver with
  | (_, .empty) => t
  -- to have missed a message says as much as to get it
  | (shutdown, _) =>
    { t with
      shutdown := (shutdown.step (.dropReceiver receiver)).1
      mainTask := .stopping server.stop.1 }

def mainStep (t : Startup) : Startup :=
  match t.mainTask with
  | .building c =>
    match Server.start c with
    | .ok server => { t with mainTask := .built server }
    | .error cause => { t with mainTask := .failed cause }
  | .built server =>
    { t with
      shutdown := (t.shutdown.step .subscribe).1
      mainTask := .running server t.shutdown.receivers.length }
  | .running server receiver => t.listen server receiver
  | .stopping _ => t
  | .failed _ => t

def step (t : Startup) : Turn → Startup
  | .signal => t.notify
  | .signalTask => t.signalStep
  | .mainTask => t.mainStep

def run (t : Startup) (turns : List Turn) : Startup := turns.foldl step t

end Startup

end Relay
