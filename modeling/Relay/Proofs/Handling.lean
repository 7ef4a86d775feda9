import Relay.Proofs.Answer
import Relay.Proofs.Polling
import Relay.Proofs.Upload

/-!
Every caller gets one answer, over HTTP or as an event. What is answered is a reply of the network or
a fault that is due, any site may read it, and nothing is sent for what is turned away.
-/

namespace Relay

/-! ### Proper answers -/

/-- Every reply has a status of three digits, as all that are read from a connection have. -/
def Network.IsRegular (net : Network) : Prop :=
  ∀ i status headers body, net.reply i = .answer status headers body → Answer.isStatus status = true

theorem Forwarder.Fails.isStatus {net : Network} (hnet : net.IsRegular) {f : Forwarder} {r : Inbound}
    {fault : Fault} (h : f.Fails net r fault) : Answer.isStatus fault.status = true := by
  cases h with
  | refused => rfl
  | cutShort hreply => exact hnet _ _ _ _ hreply
  | failed => rfl

theorem Handler.Due.isStatus {net : Network} (hnet : net.IsRegular) {s : Settings} {r : Http.Request}
    {m : Moment} {fault : Fault} (h : Handler.Due s net r m fault) :
    Answer.isStatus fault.status = true := by
  cases h with
  | forwarded _ hfault => exact hfault.isStatus hnet
  | _ => rfl

namespace Forwarder

inductive EventDue (f : Forwarder) (net : Network) (text : String) : Fault → Prop
  | malformed {e : Json.Error} (h : Event.ofJsonText text = .error e) :
    EventDue f net text (.refused (.malformedEvent e))
  | method {event : Event} {reason : Refusal} (h : Event.ofJsonText text = .ok event)
    (hreason : event.toInbound = .error reason) : EventDue f net text (.refused reason)
  | forwarded {event : Event} {inbound : Inbound} {fault : Fault} (h : Event.ofJsonText text = .ok event)
    (hin : event.toInbound = .ok inbound) (hfault : f.Fails net inbound fault) :
    EventDue f net text fault

theorem EventDue.isStatus {net : Network} (hnet : net.IsRegular) {f : Forwarder} {text : String}
    {fault : Fault} (h : f.EventDue net text fault) : Answer.isStatus fault.status = true := by
  cases h with
  | forwarded _ _ hfault => exact hfault.isStatus hnet
  | _ => rfl

theorem handleEvent_cases (f : Forwarder) (net : Network) (text : String) :
    (∃ fault, f.EventDue net text fault ∧ (f.handleEvent net text).1 = some (.ofFault fault) ∧
      (f.handleEvent net text).2.sent = []) ∨
    ∃ event inbound, Event.ofJsonText text = .ok event ∧ event.toInbound = .ok inbound ∧
      f.handleEvent net text = f.forward net inbound := by
  unfold handleEvent
  cases hevent : Event.ofJsonText text with
  | error e => exact .inl ⟨_, .malformed hevent, rfl, rfl⟩
  | ok event =>
    dsimp only
    cases hin : event.toInbound with
    | error reason => exact .inl ⟨_, .method hevent hin, rfl, rfl⟩
    | ok inbound => exact .inr ⟨event, inbound, rfl, hin, rfl⟩

theorem forward_ends (f : Forwarder) (net : Network) (r : Inbound) :
    ((f.forward net r).1 = none ∧ ∃ i, (f.forward net r).2.sent.length = i + 1 ∧ net.reply i = .silent) ∨
    (∃ i status headers bytes, net.reply i = .answer status headers (.ok bytes) ∧
      (f.forward net r).1 = some (.relay ⟨status, headers, bytes⟩ f.mergeHeaders)) ∨
    ∃ fault, f.Fails net r fault ∧ (f.forward net r).1 = some (.ofFault fault) := by
  have hends := f.attempt_ends net r
  have hlate : ∀ fault, Stop.never ≠ .atOnce fault := fun fault hfault => nomatch hfault
  obtain ⟨hanswer, hsent⟩ := f.forwardUntil_begun net r hlate
  unfold forward
  rw [hanswer, hsent]
  generalize f.attempt net r = attempt at hends
  cases hends with
  | received hreply sent => exact .inr (.inl ⟨_, _, _, _, hreply, rfl⟩)
  | fault hfails sent => exact .inr (.inr ⟨_, hfails, rfl⟩)
  | waiting hlast hreply => exact .inl ⟨rfl, _, hlast, hreply⟩

theorem handleEvent_eq_none {f : Forwarder} {net : Network} {text : String}
    (h : (f.handleEvent net text).1 = none) :
    ∃ i, (f.handleEvent net text).2.sent.length = i + 1 ∧ net.reply i = .silent := by
  rcases f.handleEvent_cases net text with ⟨fault, -, hanswer, -⟩ | ⟨event, inbound, -, -, hforward⟩
  · rw [h] at hanswer
    cases hanswer
  · rw [hforward] at h ⊢
    rcases f.forward_ends net inbound with ⟨-, hsilent⟩ | ⟨i, status, headers, bytes, -, hanswer⟩ |
      ⟨fault, -, hanswer⟩
    · exact hsilent
    · rw [h] at hanswer
      cases hanswer
    · rw [h] at hanswer
      cases hanswer

end Forwarder

/-! ### Every caller is answered -/

theorem InFlight.service_answered {f : InFlight} {h : Handler} (hf : f.handler = some h) {a : Answer}
    (ha : h.answer? = some a) :
    f.service.delivery = .response (finishResponse f.request f.freshId a.toResponse) := by
  unfold service
  rw [hf]
  dsimp only
  cases hphase : h.phase with
  | answered answer =>
    rw [Handler.answer?, hphase] at ha
    obtain rfl := Option.some.inj ha
    rfl
  | _ =>
    rw [Handler.answer?, hphase] at ha
    cases ha

theorem InFlight.service_waiting {f : InFlight} {h : Handler} (hf : f.handler = some h)
    (hsound : h.Sound) (hopen : h.answer? = none) : f.service.delivery = .waiting := by
  unfold service
  rw [hf]
  dsimp only
  cases hphase : h.phase with
  | answered answer =>
    rw [Handler.answer?, hphase] at hopen
    cases hopen
  | crashed => exact absurd hphase hsound.running
  | _ => rfl

end Relay
