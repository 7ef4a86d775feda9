/-!
The shutdown signal: a flag that stays set, and a channel that holds the newest message for those
who subscribed before it was sent. A message sent while nobody listens is lost, and one that was not
picked up in time is counted as missed.
-/

namespace Relay

/-- Waits for the shutdown. It listens from its creation on, and looks at the flag when it is asked
for the first time. -/
structure Waiter where
  next : Nat
  started : Bool := false
deriving DecidableEq, Repr

/-- Receivers and waiters keep their places; `none` marks one that is gone. A receiver is the number
of the next message it gets. -/
structure Shutdown where
  triggered : Bool := false
  messages : Nat := 0
  receivers : List (Option Nat) := []
  waiters : List (Option Waiter) := []
deriving DecidableEq, Repr

namespace Shutdown

inductive Step
  | subscribe
  | wait
  | trigger
  | poll (index : Nat)
  | receive (index : Nat)
  | dropReceiver (index : Nat)
  | dropWaiter (index : Nat)
deriving DecidableEq, Repr

inductive Outcome
  | subscribed
  | created
  | triggered
  | ready
  | pending
  | gone
  | value
  | empty
  | lagged (missed : Nat)
  | dropped (wasThere : Bool)
deriving DecidableEq, Repr

def receiverCount (s : Shutdown) : Nat :=
  s.receivers.countP (·.isSome) + s.waiters.countP (·.isSome)

def raise (s : Shutdown) : Shutdown := { s with triggered := true }

def send (s : Shutdown) : Shutdown :=
  -- without anyone who listens there is no message
  { s with messages := if s.receiverCount = 0 then s.messages else s.messages + 1 }

def trigger (s : Shutdown) : Shutdown := s.raise.send

def isDone (s : Shutdown) (w : Waiter) : Bool :=
  (!w.started && s.triggered) || w.next < s.messages

def poll (s : Shutdown) (index : Nat) : Shutdown × Outcome :=
  match s.waiters[index]? with
  | some (some w) =>
    if s.isDone w then ({ s with waiters := s.waiters.set index none }, .ready)
    else ({ s with waiters := s.waiters.set index (some { w with started := true }) }, .pending)
  | _ => (s, .gone)

/-- The newest message; a receiver that missed some is told so first. -/
def receive (s : Shutdown) (index : Nat) : Shutdown × Outcome :=
  match s.receivers[index]? with
  | some (some next) =>
    let advance := fun n => { s with receivers := s.receivers.set index (some n) }
    if s.messages ≤ next then (s, .empty)
    else if s.messages = next + 1 then (advance s.messages, .value)
    else (advance (s.messages - 1), .lagged (s.messages - 1 - next))
  | _ => (s, .gone)

def isTaken {α : Type} (places : List (Option α)) (index : Nat) : Bool :=
  (places[index]?).join.isSome

def step (s : Shutdown) : Step → Shutdown × Outcome
  | .subscribe => ({ s with receivers := s.receivers ++ [some s.messages] }, .subscribed)
  | .wait => ({ s with waiters := s.waiters ++ [some { next := s.messages }] }, .created)
  | .trigger => (s.trigger, .triggered)
  | .poll i => s.poll i
  | .receive i => s.receive i
  | .dropReceiver i =>
    ({ s with receivers := s.receivers.set i none }, .dropped (isTaken s.receivers i))
  | .dropWaiter i => ({ s with waiters := s.waiters.set i none }, .dropped (isTaken s.waiters i))

def run (s : Shutdown) : List Step → List (Shutdown × Outcome)
  | [] => []
  | st :: rest =>
    let (next, outcome) := s.step st
    (next, outcome) :: next.run rest

end Relay.Shutdown
