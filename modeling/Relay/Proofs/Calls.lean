import Relay.Proofs.Handling

/-!
Calls of the forwarder. A handler makes a call when it forwards a request, and looks at it again until it
returns; an event makes one at once. What is counted are the samples of a call that has returned, and
who is turned away before makes no call.
-/

namespace Relay

/-! ### A call of the forwarder -/

namespace Forwarder

structure Call where
  forwarder : Forwarder
  network : Network
  inbound : Inbound
  stop : Stop

namespace Call

def method (c : Call) : String := c.inbound.method.name

def answer? (c : Call) : Option Answer := (c.forwarder.forwardUntil c.network c.inbound c.stop).1

def samples (c : Call) : List Sample := (c.forwarder.forwardUntil c.network c.inbound c.stop).2.samples

def result (c : Call) : Result :=
  match c.stop, (c.forwarder.attempt c.network c.inbound).2 with
  | .atOnce fault, _ => .fault fault
  | .whileWaiting fault, .waiting => .fault fault
  | _, result => result

/-- The status and the outcome that the call has returned with, if it has. -/
def returned? (c : Call) : Option (UInt16 × String) :=
  match c.result with
  | .received reply => some (reply.status, "upstream")
  | .fault fault => some (fault.status, fault.kind)
  | .waiting => none

theorem finish_result (c : Call) :
    c.answer? = (c.forwarder.finish c.inbound c.result).1 ∧
      c.samples = (c.forwarder.finish c.inbound c.result).2.samples := by
  unfold answer? samples result forwardUntil
  cases c.stop with
  | atOnce fault => exact ⟨rfl, rfl⟩
  | _ =>
    dsimp only
    cases (c.forwarder.attempt c.network c.inbound).2 <;> exact ⟨rfl, rfl⟩

theorem answer?_eq (c : Call) :
    c.answer? = match c.result with
      | .received reply => some (.relay reply c.forwarder.mergeHeaders)
      | .fault fault => some (.ofFault fault)
      | .waiting => none := by
  rw [c.finish_result.1]
  cases c.result <;> rfl

theorem samples_eq (c : Call) :
    c.samples = match c.result with
      | .received reply => [.request c.method reply.status "upstream", .duration c.method]
      | .fault fault =>
        [.failure fault.kind, .request c.method fault.status fault.kind, .duration c.method]
      | .waiting => [] := by
  rw [c.finish_result.2]
  cases c.result <;> rfl

theorem isSome_returned? (c : Call) : c.returned?.isSome = c.answer?.isSome := by
  rw [answer?_eq, returned?]
  cases c.result <;> rfl

theorem returned?_of_answer? (c : Call) {answer : Answer} (h : c.answer? = some answer) :
    (∃ reply, answer = .relay reply c.forwarder.mergeHeaders ∧
      c.returned? = some (answer.status, "upstream")) ∨
    ∃ fault, answer = .ofFault fault ∧ c.returned? = some (answer.status, fault.kind) := by
  rw [answer?_eq] at h
  unfold returned?
  cases hresult : c.result with
  | received reply =>
    rw [hresult] at h
    obtain rfl := Option.some.inj h
    exact .inl ⟨reply, rfl, rfl⟩
  | fault fault =>
    rw [hresult] at h
    obtain rfl := Option.some.inj h
    exact .inr ⟨fault, rfl, rfl⟩
  | waiting =>
    rw [hresult] at h
    cases h

theorem samples_of_waiting {c : Call} (h : c.answer? = none) : c.samples = [] := by
  rw [answer?_eq] at h
  rw [samples_eq]
  cases hresult : c.result with
  | waiting => rfl
  | _ =>
    rw [hresult] at h
    cases h

end Call

end Forwarder

/-! ### The calls of a handler -/

namespace Handler

def forwardCall (h : Handler) (inbound : Inbound) (m : Moment) : Forwarder.Call where
  forwarder := h.settings.forwarder
  network := h.network.held m.isHeld
  inbound
  stop := match h.interruption? m with
    | some fault => .atOnce fault
    | none => .never

def awaitCall (h : Handler) (inbound : Inbound) (isHeld : Nat → Bool) (m : Moment) : Forwarder.Call where
  forwarder := h.settings.forwarder
  network := h.network.held (if (h.interruption? m).isSome then isHeld else m.isHeld)
  inbound
  stop := match h.interruption? m with
    | some fault => .whileWaiting fault
    | none => .never

def takesBody (h : Handler) : Bool :=
  match h.phase with
  | .fresh => (h.settings.deadline? h.now).isSome && h.request.method?.isOk
  | .reading => true
  | _ => false

def readCall? (h : Handler) (m : Moment) : Option Forwarder.Call :=
  match h.request.body, m.bodyCame with
  | .complete bytes, true =>
    match h.request.toInbound bytes h.settings.maxBodyBytes with
    | .ok inbound => some (h.forwardCall inbound m)
    | .error _ => none
  | _, _ => none

def call? (h : Handler) (m : Moment) : Option Forwarder.Call :=
  match h.phase with
  | .forwarding inbound isHeld => some (h.awaitCall inbound isHeld m)
  | _ => if h.takesBody then h.readCall? m else none

def given? (h : Handler) (m : Moment) : Option Answer :=
  if h.answer?.isSome then none else (h.poll m).answer?

/-- A request is turned away when its handler is polled, before it is forwarded. -/
inductive Rejects (h : Handler) (m : Moment) : Fault → Prop
  | method {reason : Refusal} (hphase : h.phase = .fresh)
    (hclock : (h.settings.deadline? h.now).isSome = true) (hmethod : h.request.method? = .error reason) :
    Rejects h m (.refused reason)
  | body {bytes : Bytes} {reason : Refusal} (htakes : h.takesBody = true) (hcame : m.bodyCame = true)
    (hbody : h.request.body = .complete bytes)
    (hreason : h.request.toInbound bytes h.settings.maxBodyBytes = .error reason) :
    Rejects h m (.refused reason)
  | unreadable {cause : String} (htakes : h.takesBody = true) (hcame : m.bodyCame = true)
    (hbody : h.request.body = .broken cause) : Rejects h m (.refused (.unreadableBody cause))
  | late (htakes : h.takesBody = true) (hbody : h.request.body = .stalled ∨ m.bodyCame = false)
    (hpassed : m.deadlinePassed = true) : Rejects h m h.settings.timedOut

/-- A handler after a call: it has the answer, or waits for it. -/
structure Made (h : Handler) (c : Forwarder.Call) : Prop where
  answer : h.answer? = c.answer?
  samples : h.record.samples = c.samples
  waits : c.answer? = none → ∃ isHeld, h.phase = .forwarding c.inbound isHeld

theorem forwardUntil_made (h : Handler) (inbound : Inbound) (isHeld : Nat → Bool) (stop : Stop) :
    (h.forwardUntil inbound isHeld stop).Made
      ⟨h.settings.forwarder, h.network.held isHeld, inbound, stop⟩ := by
  constructor
  · unfold forwardUntil answer? Forwarder.Call.answer?
    dsimp only
    cases (h.settings.forwarder.forwardUntil (h.network.held isHeld) inbound stop).1 <;> rfl
  · rfl
  · intro hwaits
    change (h.settings.forwarder.forwardUntil (h.network.held isHeld) inbound stop).1 = none at hwaits
    unfold forwardUntil
    dsimp only
    rw [hwaits]
    exact ⟨isHeld, rfl⟩

theorem forward_made (h : Handler) (inbound : Inbound) (m : Moment) :
    (h.forward inbound m).Made (h.forwardCall inbound m) := by
  unfold forward forwardCall
  cases h.interruption? m <;> exact h.forwardUntil_made inbound m.isHeld _

theorem await_made (h : Handler) (inbound : Inbound) (isHeld : Nat → Bool) (m : Moment) :
    (h.await inbound isHeld m).Made (h.awaitCall inbound isHeld m) := by
  unfold await awaitCall
  cases h.interruption? m <;> exact h.forwardUntil_made inbound _ _

section

variable {h : Handler} {m : Moment}

theorem answer?_of_takesBody (htakes : h.takesBody = true) : h.answer? = none := by
  unfold takesBody at htakes
  unfold answer?
  cases hphase : h.phase with
  | answered answer =>
    rw [hphase] at htakes
    cases htakes
  | _ => rfl

theorem call?_of_takesBody (htakes : h.takesBody = true) : h.call? m = h.readCall? m := by
  unfold call?
  cases hphase : h.phase with
  | forwarding inbound isHeld =>
    unfold takesBody at htakes
    rw [hphase] at htakes
    cases htakes
  | _ => exact if_pos htakes

theorem poll_of_takesBody (htakes : h.takesBody = true) :
    ∃ logs, h.poll m = { h with record.logs := logs }.read m := by
  unfold takesBody at htakes
  unfold poll
  cases hphase : h.phase with
  | fresh =>
    rw [hphase, Bool.and_eq_true] at htakes
    obtain ⟨deadline, hdeadline⟩ := Option.isSome_iff_exists.1 htakes.1
    cases hmethod : h.request.method? with
    | error reason =>
      rw [hmethod] at htakes
      cases htakes.2
    | ok method =>
      dsimp only
      rw [hdeadline]
      exact ⟨_, rfl⟩
  | reading => exact ⟨h.record.logs, rfl⟩
  | _ =>
    rw [hphase] at htakes
    cases htakes

theorem poll_refused {fault : Fault} (htakes : h.takesBody = true) (hcall : h.readCall? m = none)
    (hread : ∀ logs, let h' := { h with record.logs := logs }; ∃ message, h'.read m = h'.refuse message fault) :
    h.answer? = none ∧ h.call? m = none ∧ (h.poll m).answer? = some (.ofFault fault) ∧
      (h.poll m).record.samples = h.record.samples := by
  obtain ⟨logs, hpoll⟩ := poll_of_takesBody (m := m) htakes
  obtain ⟨message, hrefuse⟩ := hread logs
  rw [hpoll, hrefuse, call?_of_takesBody htakes]
  exact ⟨answer?_of_takesBody htakes, hcall, rfl, rfl⟩

theorem Rejects.poll {fault : Fault} (hrejects : h.Rejects m fault) :
    h.answer? = none ∧ h.call? m = none ∧ (h.poll m).answer? = some (.ofFault fault) ∧
      (h.poll m).record.samples = h.record.samples := by
  cases hrejects with
  | @method reason hphase hclock hmethod =>
    -- the body is not looked at
    obtain ⟨deadline, hdeadline⟩ := Option.isSome_iff_exists.1 hclock
    have hpoll : h.poll m = h.reject reason := by
      unfold Handler.poll
      rw [hphase]
      dsimp only
      rw [hdeadline, hmethod]
    have hcall : h.call? m = none := by
      unfold call? takesBody
      rw [hphase, hmethod]
      exact if_neg (by rw [hclock]; exact Bool.false_ne_true)
    rw [hpoll]
    exact ⟨by rw [answer?, hphase], hcall, rfl, rfl⟩
  | body htakes hcame hbody hreason =>
    apply poll_refused htakes
    · rw [readCall?, hbody, hcame]
      dsimp only
      rw [hreason]
    · intro logs h'
      refine ⟨"Rejected inbound request", ?_⟩
      unfold read h'
      dsimp only
      rw [hbody, hcame]
      dsimp only
      rw [hreason]
      rfl
  | unreadable htakes hcame hbody =>
    apply poll_refused htakes
    · rw [readCall?, hbody]
    · intro logs h'
      refine ⟨"Rejected inbound request", ?_⟩
      unfold read h'
      dsimp only
      rw [hbody, hcame]
      rfl
  | late htakes hbody hpassed =>
    apply poll_refused htakes
    · rcases hbody with hstalled | hlate
      · rw [readCall?, hstalled]
      · rw [readCall?, hlate]
        cases h.request.body <;> rfl
    · intro logs h'
      refine ⟨"Inbound body not received in time", ?_⟩
      unfold read h'
      dsimp only
      rw [if_pos hpassed]
      rcases hbody with hstalled | hlate
      · rw [hstalled]
      · rw [hlate]
        cases h.request.body <;> rfl

/-- A poll that changes nothing of what is counted or answered, turns the request away, or makes a call. -/
def Does (h : Handler) (m : Moment) : Prop :=
  (h.call? m = none ∧ (h.poll m).answer? = h.answer? ∧
    (h.poll m).record.samples = h.record.samples) ∨
  (∃ fault, h.Rejects m fault) ∨
  ∃ c, h.call? m = some c ∧ h.answer? = none ∧ (h.poll m).Made c

theorem does_of_takesBody (htakes : h.takesBody = true) : h.Does m := by
  obtain ⟨logs, hpoll⟩ := poll_of_takesBody (m := m) htakes
  unfold Does
  rw [call?_of_takesBody htakes, hpoll, answer?_of_takesBody htakes]
  -- without a body the clock decides
  have hwait : (h.request.body = .stalled ∨ m.bodyCame = false) →
      (∃ fault, h.Rejects m fault) ∨ m.deadlinePassed = false := by
    intro hbody
    cases hpassed : m.deadlinePassed with
    | true => exact .inl ⟨_, .late htakes hbody hpassed⟩
    | false => exact .inr rfl
  unfold readCall? read
  dsimp only
  cases hcame : m.bodyCame with
  | false =>
    rcases hwait (.inr hcame) with hrejects | hclock
    · exact .inr (.inl hrejects)
    · rw [hclock]
      cases h.request.body <;> exact .inl ⟨rfl, rfl, rfl⟩
  | true =>
    cases hbody : h.request.body with
    | complete bytes =>
      dsimp only
      cases hin : h.request.toInbound bytes h.settings.maxBodyBytes with
      | error reason => exact .inr (.inl ⟨_, .body htakes hcame hbody hin⟩)
      | ok inbound => exact .inr (.inr ⟨_, rfl, rfl, forward_made _ inbound m⟩)
    | broken cause => exact .inr (.inl ⟨_, .unreadable htakes hcame hbody⟩)
    | stalled =>
      rcases hwait (.inl hbody) with hrejects | hclock
      · exact .inr (.inl hrejects)
      · rw [hclock]
        exact .inl ⟨rfl, rfl, rfl⟩

theorem poll_does (h : Handler) (m : Moment) : h.Does m := by
  by_cases htakes : h.takesBody = true
  · exact does_of_takesBody htakes
  · -- without a body there is a call only if one was made before, and is waited for
    have hnone : h.takesBody = false := eq_false_of_ne_true htakes
    unfold Does call? poll answer?
    cases hphase : h.phase with
    | fresh =>
      dsimp only
      rw [hnone]
      unfold takesBody at hnone
      rw [hphase] at hnone
      cases hdeadline : h.settings.deadline? h.now with
      | none => exact .inl ⟨rfl, rfl, rfl⟩
      | some deadline =>
        have hclock : (h.settings.deadline? h.now).isSome = true := Option.isSome_of_eq_some hdeadline
        cases hmethod : h.request.method? with
        | error reason => exact .inr (.inl ⟨_, .method hphase hclock hmethod⟩)
        | ok method =>
          rw [hdeadline, hmethod] at hnone
          cases hnone
    | reading =>
      unfold takesBody at hnone
      rw [hphase] at hnone
      cases hnone
    | forwarding inbound isHeld => exact .inr (.inr ⟨_, rfl, rfl, h.await_made inbound isHeld m⟩)
    | answered answer =>
      dsimp only
      rw [hnone, hphase]
      exact .inl ⟨rfl, rfl, rfl⟩
    | crashed =>
      dsimp only
      rw [hnone, hphase]
      exact .inl ⟨rfl, rfl, rfl⟩

/-- Nothing has been counted for a request without an answer. -/
def Uncounted (h : Handler) : Prop := h.answer? = none → h.record.samples = []

theorem Uncounted.poll (huncounted : h.Uncounted) (m : Moment) : (h.poll m).Uncounted := by
  intro hopen
  rcases h.poll_does m with ⟨-, hsame, hsamples⟩ | ⟨fault, hrejects⟩ | ⟨c, -, -, hmade⟩
  · -- nothing was counted before, and nothing is now
    rw [hsame] at hopen
    rw [hsamples]
    exact huncounted hopen
  · rw [hrejects.poll.2.2.1] at hopen
    cases hopen
  · -- the record is that of the call, which has not returned
    rw [hmade.answer] at hopen
    rw [hmade.samples]
    exact Forwarder.Call.samples_of_waiting hopen

end

end Handler

/-! ### Accounts -/

/-- What is counted goes with the call that is made and the answer that is given. Without a call nothing
is counted, and only who is turned away is answered. -/
inductive Accounts (rejects : Fault → Prop) : Option Forwarder.Call → Option Answer → List Sample → Prop
  | idle : Accounts rejects none none []
  | rejected {fault : Fault} (h : rejects fault) : Accounts rejects none (some (.ofFault fault)) []
  | called (c : Forwarder.Call) : Accounts rejects (some c) c.answer? c.samples

theorem Accounts.of_none {rejects : Fault → Prop} {given : Option Answer} {counted : List Sample}
    (h : Accounts rejects none given counted) :
    counted = [] ∧ ∀ a, given = some a → ∃ fault, rejects fault ∧ a = .ofFault fault := by
  cases h with
  | idle => exact ⟨rfl, fun a ha => nomatch ha⟩
  | rejected hrejects => exact ⟨rfl, fun a ha => ⟨_, hrejects, (Option.some.inj ha).symm⟩⟩

theorem Accounts.of_some {rejects : Fault → Prop} {c : Forwarder.Call} {given : Option Answer}
    {counted : List Sample} (h : Accounts rejects (some c) given counted) :
    counted = c.samples ∧ given = c.answer? := by
  cases h with
  | called => exact ⟨rfl, rfl⟩

theorem Handler.Uncounted.accounts {h : Handler} (huncounted : h.Uncounted) (m : Moment) :
    Accounts (h.Rejects m) (h.call? m) (h.given? m)
      ((h.poll m).record.samples.drop h.record.samples.length) := by
  unfold given?
  rcases h.poll_does m with ⟨hcall, hsame, hsamples⟩ | ⟨fault, hrejects⟩ | ⟨c, hcall, hopen, hmade⟩
  · rw [hcall, hsame, hsamples, List.drop_length]
    cases h.answer? <;> exact .idle
  · obtain ⟨hopen, hcall, hanswer, hsamples⟩ := hrejects.poll
    rw [hcall, hanswer, hsamples, List.drop_length, hopen]
    exact .rejected hrejects
  · rw [hcall, hmade.answer, hmade.samples, huncounted hopen, hopen]
    exact .called c

namespace Forwarder

/-- An event is turned away, because it cannot be read or asks for no known method. -/
inductive EventRejects (text : String) : Fault → Prop
  | malformed {e : Json.Error} (h : Event.ofJsonText text = .error e) :
    EventRejects text (.refused (.malformedEvent e))
  | method {event : Event} {reason : Refusal} (h : Event.ofJsonText text = .ok event)
    (hreason : event.toInbound = .error reason) : EventRejects text (.refused reason)

def eventCall? (f : Forwarder) (net : Network) (text : String) : Option Call :=
  match Event.ofJsonText text with
  | .error _ => none
  | .ok event =>
    match event.toInbound with
    | .error _ => none
    | .ok inbound => some ⟨f, net, inbound, .never⟩

theorem handleEvent_accounts (f : Forwarder) (net : Network) (text : String) :
    Accounts (EventRejects text) (f.eventCall? net text) (f.handleEvent net text).1
      (f.handleEvent net text).2.samples := by
  unfold eventCall? handleEvent
  cases hevent : Event.ofJsonText text with
  | error e => exact .rejected (.malformed hevent)
  | ok event =>
    dsimp only
    cases hin : event.toInbound with
    | error reason => exact .rejected (.method hevent hin)
    | ok inbound => exact .called ⟨f, net, inbound, .never⟩

theorem EventRejects.handleEvent {f : Forwarder} {net : Network} {text : String} {fault : Fault}
    (h : EventRejects text fault) :
    f.eventCall? net text = none ∧ (f.handleEvent net text).1 = some (.ofFault fault) := by
  unfold eventCall? Forwarder.handleEvent
  cases h with
  | malformed hevent =>
    rw [hevent]
    exact ⟨rfl, rfl⟩
  | method hevent hin =>
    rw [hevent]
    dsimp only
    rw [hin]
    exact ⟨rfl, rfl⟩

end Forwarder

end Relay
