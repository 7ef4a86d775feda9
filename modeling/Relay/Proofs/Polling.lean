import Relay.Proofs.Exchange
import Relay.Proofs.Reload

/-!
What polling a handler comes to. One poll waits for the body, answers, or forwards as far as the
replies lead; along a run there is one answer, or none as long as something is awaited at every
moment, and nothing is sent unless forwarding could begin at the moment the body came.
-/

namespace Relay

/-! ### Forwarding -/

theorem Network.held_answer {net : Network} {isHeld : Nat → Bool} {i : Nat} {status : UInt16}
    {headers : Http.Headers} {body : Except BodyFault Bytes}
    (h : (net.held isHeld).reply i = .answer status headers body) :
    net.reply i = .answer status headers body := by
  unfold Network.held at h
  dsimp only at h
  split at h
  · cases h
  · exact h

theorem Network.held_silent {net : Network} {isHeld : Nat → Bool} {i : Nat}
    (h : (net.held isHeld).reply i = .silent) : isHeld i = true ∨ net.reply i = .silent := by
  unfold Network.held at h
  dsimp only at h
  split at h
  · exact .inl ‹_›
  · exact .inr h

namespace Forwarder

inductive Fails (f : Forwarder) (net : Network) (r : Inbound) : Fault → Prop
  | refused {reason : Refusal} (h : f.prepare r = .error reason) : Fails f net r (.refused reason)
  | cutShort {i : Nat} {status : UInt16} {headers : Http.Headers} {fault : BodyFault}
    (h : net.reply i = .answer status headers (.error fault)) (message : String) :
    Fails f net r (.transport (some status) message)
  | failed (message : String) : Fails f net r (.transport none message)

/-- What may be sent for a request, and how forwarding it may end. -/
inductive Ends (f : Forwarder) (net : Network) (r : Inbound) : List Sent × Result → Prop
  | received {i : Nat} {status : UInt16} {headers : Http.Headers} {bytes : Bytes}
    (h : net.reply i = .answer status headers (.ok bytes)) (sent : List Sent) :
    Ends f net r (sent, .received ⟨status, headers, bytes⟩)
  | fault {fault : Fault} (h : Fails f net r fault) (sent : List Sent) : Ends f net r (sent, .fault fault)
  | waiting {i : Nat} {sent : List Sent} (hlast : sent.length = i + 1) (h : net.reply i = .silent) :
    Ends f net r (sent, .waiting)

theorem attempt_ends (f : Forwarder) (net : Network) (r : Inbound) : Ends f net r (f.attempt net r) := by
  unfold attempt
  cases hprepare : f.prepare r with
  | error reason => exact .fault (.refused hprepare) []
  | ok out =>
    have haccounted := Client.follow_accounted f.client Client.maxRedirects 0 net (Client.firstHop out)
    unfold Client.exchange
    dsimp only
    generalize Client.follow f.client net Client.maxRedirects 0 (Client.firstHop out) = exchange
      at haccounted
    cases haccounted with
    | received h sent => exact .received h sent
    | cutShort h sent => exact .fault (.cutShort h _) sent
    | failed failure sent => exact .fault (.failed _) sent
    | waiting hlast h =>
      rw [Nat.zero_add] at h
      exact .waiting hlast h

theorem Fails.of_held {f : Forwarder} {net : Network} {isHeld : Nat → Bool} {r : Inbound} {fault : Fault}
    (h : Fails f (net.held isHeld) r fault) : Fails f net r fault := by
  cases h with
  | refused h => exact .refused h
  | cutShort h message => exact .cutShort (Network.held_answer h) message
  | failed message => exact .failed message

theorem forwardUntil_begun (f : Forwarder) (net : Network) (r : Inbound) {stop : Stop}
    (hstop : ∀ fault, stop ≠ .atOnce fault) :
    (f.forwardUntil net r stop).1 =
      (match (f.attempt net r).2, stop with
      | .received reply, _ => some (.relay reply f.mergeHeaders)
      | .fault fault, _ => some (.ofFault fault)
      | .waiting, .whileWaiting fault => some (.ofFault fault)
      | .waiting, _ => none) ∧
    (f.forwardUntil net r stop).2.sent = (f.attempt net r).1 := by
  unfold forwardUntil
  cases stop with
  | atOnce fault => exact absurd rfl (hstop fault)
  | never =>
    dsimp only
    cases (f.attempt net r).2 <;> exact ⟨rfl, rfl⟩
  | whileWaiting fault =>
    dsimp only
    cases (f.attempt net r).2 <;> exact ⟨rfl, rfl⟩

end Forwarder

/-! ### One poll -/

namespace Handler

section

variable (s : Settings) (net : Network) (r : Http.Request)

def Admits (inbound : Inbound) : Prop :=
  ∃ bytes, r.body = .complete bytes ∧ r.toInbound bytes s.maxBodyBytes = .ok inbound

def Forwards (inbound : Inbound) : Prop :=
  Admits s r inbound ∧ ∃ out, s.forwarder.prepare inbound = .ok out

/-- The faults that can end the handling of a request at a moment. -/
inductive Due (m : Moment) : Fault → Prop
  | method {reason : Refusal} (h : r.method? = .error reason) : Due m (.refused reason)
  | body {bytes : Bytes} {reason : Refusal} (h : r.body = .complete bytes)
    (hreason : r.toInbound bytes s.maxBodyBytes = .error reason) : Due m (.refused reason)
  | unreadable {cause : String} (h : r.body = .broken cause) : Due m (.refused (.unreadableBody cause))
  | forwarded {inbound : Inbound} {fault : Fault} (h : Admits s r inbound)
    (hfault : s.forwarder.Fails net inbound fault) : Due m fault
  | cancelled (h : m.isStopping = true) : Due m .cancelled
  | timedOut (h : m.deadlinePassed = true) : Due m (.timedOut s.requestSeconds)

/-- At this moment something is still to come, and there is time for it: the body, or the reply to the
last request that was sent. -/
def Awaits (m : Moment) : Prop :=
  m.deadlinePassed = false ∧
    (r.body = .stalled ∨ m.bodyCame = false ∨
      m.isStopping = false ∧ ∃ inbound i, Admits s r inbound ∧
        (s.forwarder.forward (net.held m.isHeld) inbound).2.sent.length = i + 1 ∧
        (m.isHeld i = true ∨ net.reply i = .silent))

/-- All that a poll of a handler without an answer can come to, with what has been sent by then;
`begun` is what has to hold for anything to be sent. -/
inductive Comes (begun : Prop) (m : Moment) : Phase → List Sent → Prop
  | reading (hclock : m.deadlinePassed = false) (hbody : r.body = .stalled ∨ m.bodyCame = false) :
    Comes begun m .reading []
  | refused {fault : Fault} (hdue : Due s net r m fault) : Comes begun m (.answered (.ofFault fault)) []
  | relayed {inbound : Inbound} {i : Nat} {status : UInt16} {headers : Http.Headers} {bytes : Bytes}
    (hbegun : begun) (hin : Forwards s r inbound) (hreply : net.reply i = .answer status headers (.ok bytes))
    (sent : List Sent) :
    Comes begun m (.answered (.relay ⟨status, headers, bytes⟩ s.forwarder.mergeHeaders)) sent
  | failed {inbound : Inbound} {fault : Fault} (hbegun : begun) (hin : Forwards s r inbound)
    (hdue : Due s net r m fault) (sent : List Sent) : Comes begun m (.answered (.ofFault fault)) sent
  | waiting {inbound : Inbound} (hbegun : begun) (hin : Forwards s r inbound) (hawaits : Awaits s net r m)
    (sent : List Sent) : Comes begun m (.forwarding inbound m.isHeld) sent

end

theorem interruption?_eq_none {h : Handler} {m : Moment} (hnone : h.interruption? m = none) :
    m.isStopping = false ∧ m.deadlinePassed = false := by
  unfold interruption? at hnone
  split at hnone
  · simp at hnone
  · split at hnone
    · simp at hnone
    · simp_all

theorem due_of_interruption? {h : Handler} {m : Moment} {fault : Fault}
    (hfault : h.interruption? m = some fault) : Due h.settings h.network h.request m fault := by
  unfold interruption? at hfault
  split at hfault
  · rename_i hstop
    rw [← Option.some.inj hfault]
    exact .cancelled (Bool.and_eq_true_iff.1 hstop).1
  · split at hfault
    · rename_i hpassed
      rw [← Option.some.inj hfault]
      exact .timedOut hpassed
    · simp at hfault

theorem forwardUntil_comes {h : Handler} {inbound : Inbound} (hin : Admits h.settings h.request inbound)
    {begun : Prop} (hbegun : begun) {m : Moment} {isHeld : Nat → Bool} {stop : Stop}
    (hlate : ∀ fault, stop ≠ .atOnce fault)
    (hgiven : ∀ fault, stop = .whileWaiting fault → Due h.settings h.network h.request m fault)
    (hgoes : stop = .never → isHeld = m.isHeld ∧ m.isStopping = false ∧ m.deadlinePassed = false) :
    Comes h.settings h.network h.request begun m (h.forwardUntil inbound isHeld stop).phase
      (h.forwardUntil inbound isHeld stop).record.sent := by
  obtain ⟨hanswer, hsent⟩ := h.settings.forwarder.forwardUntil_begun (h.network.held isHeld) inbound hlate
  unfold forwardUntil
  dsimp only
  rw [hanswer, hsent]
  cases hprepare : h.settings.forwarder.prepare inbound with
  | error reason =>
    have hattempt : h.settings.forwarder.attempt (h.network.held isHeld) inbound =
        ([], .fault (.refused reason)) := by
      rw [Forwarder.attempt, hprepare]
    rw [hattempt]
    exact .refused (.forwarded hin (.refused hprepare))
  | ok out =>
    have hends := h.settings.forwarder.attempt_ends (h.network.held isHeld) inbound
    have hforward : (h.settings.forwarder.forward (h.network.held isHeld) inbound).2.sent =
        (h.settings.forwarder.attempt (h.network.held isHeld) inbound).1 := rfl
    generalize h.settings.forwarder.attempt (h.network.held isHeld) inbound = attempt at hends hforward
    cases hends with
    | received hreply sent =>
      exact .relayed hbegun ⟨hin, out, hprepare⟩ (Network.held_answer hreply) sent
    | fault hfails sent => exact .failed hbegun ⟨hin, out, hprepare⟩ (.forwarded hin hfails.of_held) sent
    | @waiting i sent hlast hreply =>
      -- only the reply can be missing, so whoever does not give up waits for that
      cases stop with
      | atOnce fault => exact absurd rfl (hlate fault)
      | whileWaiting fault => exact .failed hbegun ⟨hin, out, hprepare⟩ (hgiven fault rfl) sent
      | never =>
        obtain ⟨rfl, hstop, hclock⟩ := hgoes rfl
        have hawaits : Awaits h.settings h.network h.request m :=
          ⟨hclock, .inr (.inr ⟨hstop, inbound, i, hin, hforward ▸ hlast, Network.held_silent hreply⟩)⟩
        exact .waiting hbegun ⟨hin, out, hprepare⟩ hawaits sent

theorem forwardUntil_never_comes {h : Handler} {inbound : Inbound}
    (hin : Admits h.settings h.request inbound) {begun : Prop} (hbegun : begun) {m : Moment}
    (hstop : m.isStopping = false) (hclock : m.deadlinePassed = false) :
    Comes h.settings h.network h.request begun m (h.forwardUntil inbound m.isHeld .never).phase
      (h.forwardUntil inbound m.isHeld .never).record.sent := by
  apply forwardUntil_comes hin hbegun
  · exact fun fault hfault => nomatch hfault
  · exact fun fault hfault => nomatch hfault
  · exact fun _ => ⟨rfl, hstop, hclock⟩

theorem forward_comes {h : Handler} {inbound : Inbound} (hin : Admits h.settings h.request inbound)
    {begun : Prop} {m : Moment} (hbegun : m.isStopping = false → m.deadlinePassed = false → begun) :
    Comes h.settings h.network h.request begun m (h.forward inbound m).phase
      (h.forward inbound m).record.sent := by
  unfold forward
  cases hinterrupt : h.interruption? m with
  | some fault => exact .refused (due_of_interruption? hinterrupt)
  | none =>
    obtain ⟨hstop, hclock⟩ := interruption?_eq_none hinterrupt
    exact forwardUntil_never_comes hin (hbegun hstop hclock) hstop hclock

theorem await_comes {h : Handler} {inbound : Inbound} (hin : Admits h.settings h.request inbound)
    {begun : Prop} (hbegun : begun) (isHeld : Nat → Bool) (m : Moment) :
    Comes h.settings h.network h.request begun m (h.await inbound isHeld m).phase
      (h.await inbound isHeld m).record.sent := by
  unfold await
  cases hinterrupt : h.interruption? m with
  | some fault =>
    apply forwardUntil_comes hin hbegun
    · exact fun fault hfault => nomatch hfault
    · intro other hother
      obtain rfl := Stop.whileWaiting.inj hother
      exact due_of_interruption? hinterrupt
    · exact fun hnever => nomatch hnever
  | none =>
    obtain ⟨hstop, hclock⟩ := interruption?_eq_none hinterrupt
    exact forwardUntil_never_comes hin hbegun hstop hclock

theorem read_comes {h : Handler} (hsent : h.record.sent = []) {begun : Prop} {m : Moment}
    (hbegun : m.bodyCame = true → m.isStopping = false → m.deadlinePassed = false → begun) :
    Comes h.settings h.network h.request begun m (h.read m).phase (h.read m).record.sent := by
  -- a fault that is found here leaves what was sent as it is
  have hrefuse : ∀ message fault, Due h.settings h.network h.request m fault →
      Comes h.settings h.network h.request begun m (h.refuse message fault).phase
        (h.refuse message fault).record.sent := by
    intro message fault hdue
    show Comes _ _ _ begun m (.answered (.ofFault fault)) h.record.sent
    rw [hsent]
    exact .refused hdue
  have hwait : (h.request.body = .stalled ∨ m.bodyCame = false) →
      Comes h.settings h.network h.request begun m
        (if m.deadlinePassed then h.refuse "Inbound body not received in time" h.settings.timedOut
          else { h with phase := .reading }).phase
        (if m.deadlinePassed then h.refuse "Inbound body not received in time" h.settings.timedOut
          else { h with phase := .reading }).record.sent := by
    intro hbody
    by_cases hpassed : m.deadlinePassed = true
    · rw [if_pos hpassed]
      exact hrefuse _ _ (.timedOut hpassed)
    · rw [if_neg hpassed]
      show Comes _ _ _ begun m .reading h.record.sent
      rw [hsent]
      exact .reading (Bool.not_eq_true _ ▸ hpassed) hbody
  unfold read
  cases hbody : h.request.body with
  | complete bytes =>
    by_cases hcame : m.bodyCame = true
    · rw [hcame]
      dsimp only
      cases hin : h.request.toInbound bytes h.settings.maxBodyBytes with
      | error reason => exact hrefuse _ _ (.body hbody hin)
      | ok inbound => exact forward_comes ⟨bytes, hbody, hin⟩ (hbegun hcame)
    · rw [Bool.not_eq_true] at hcame
      rw [hcame]
      exact hwait (.inr hcame)
  | broken cause =>
    by_cases hcame : m.bodyCame = true
    · rw [hcame]
      exact hrefuse _ _ (.unreadable hbody)
    · rw [Bool.not_eq_true] at hcame
      rw [hcame]
      exact hwait (.inr hcame)
  | stalled =>
    dsimp only
    exact hwait (.inl hbody)

/-- What holds of a handler between two polls, unless its deadline is beyond the clock. -/
structure Sound (h : Handler) : Prop where
  clock : (h.settings.deadline? h.now).isSome = true
  running : h.phase ≠ .crashed
  idle : h.phase = .fresh ∨ h.phase = .reading → h.record.sent = []
  admitted : ∀ inbound isHeld, h.phase = .forwarding inbound isHeld → Admits h.settings h.request inbound
  prepared : h.record.sent ≠ [] → ∃ inbound, Forwards h.settings h.request inbound

def answer? (h : Handler) : Option Answer :=
  match h.phase with
  | .answered answer => some answer
  | _ => none

def Begun (h : Handler) (m : Moment) : Prop :=
  (∃ inbound isHeld, h.phase = .forwarding inbound isHeld) ∨
    m.bodyCame = true ∧ m.isStopping = false ∧ m.deadlinePassed = false

theorem poll_comes {h : Handler} (hsound : h.Sound) (hopen : h.answer? = none) (m : Moment) :
    Comes h.settings h.network h.request (h.Begun m) m (h.poll m).phase (h.poll m).record.sent := by
  have hbegun : m.bodyCame = true → m.isStopping = false → m.deadlinePassed = false → h.Begun m :=
    fun hcame hstop hclock => .inr ⟨hcame, hstop, hclock⟩
  unfold poll
  cases hphase : h.phase with
  | fresh =>
    have hsent := hsound.idle (.inl hphase)
    obtain ⟨deadline, hdeadline⟩ := Option.isSome_iff_exists.1 hsound.clock
    dsimp only
    rw [hdeadline]
    dsimp only
    cases hmethod : h.request.method? with
    | error reason =>
      show Comes _ _ _ _ m (.answered (.ofFault (.refused reason))) h.record.sent
      rw [hsent]
      exact .refused (.method hmethod)
    | ok method =>
      exact read_comes (h := { h with record.logs := Http.Request.dropLog h.request.headers }) hsent hbegun
  | reading => exact read_comes (hsound.idle (.inr hphase)) hbegun
  | forwarding inbound isHeld =>
    exact await_comes (hsound.admitted inbound isHeld hphase) (.inl ⟨inbound, isHeld, hphase⟩) isHeld m
  | answered answer =>
    rw [answer?, hphase] at hopen
    cases hopen
  | crashed => exact absurd hphase hsound.running

/-! ### What a poll keeps -/

section

variable {s : Settings} {net : Network} {r : Http.Request} {begun : Prop} {m : Moment} {phase : Phase}
  {sent : List Sent}

theorem Comes.idle (h : Comes s net r begun m phase sent) (hphase : phase = .fresh ∨ phase = .reading) :
    sent = [] := by
  cases h with
  | reading => rfl
  | refused => rfl
  | relayed => simp at hphase
  | failed => simp at hphase
  | waiting => simp at hphase

theorem Comes.prepared (h : Comes s net r begun m phase sent) (hsent : sent ≠ []) :
    begun ∧ ∃ inbound, Forwards s r inbound := by
  cases h with
  | reading => exact absurd rfl hsent
  | refused => exact absurd rfl hsent
  | relayed hbegun hin => exact ⟨hbegun, _, hin⟩
  | failed hbegun hin => exact ⟨hbegun, _, hin⟩
  | waiting hbegun hin => exact ⟨hbegun, _, hin⟩

theorem Comes.admitted {inbound : Inbound} {isHeld : Nat → Bool}
    (h : Comes s net r begun m (.forwarding inbound isHeld) sent) : begun ∧ Admits s r inbound := by
  cases h with
  | waiting hbegun hin => exact ⟨hbegun, hin.1⟩

theorem Comes.running (h : Comes s net r begun m phase sent) : phase ≠ .crashed := by
  rintro rfl
  cases h

end

theorem poll_keeps (h : Handler) (m : Moment) :
    (h.poll m).settings = h.settings ∧ (h.poll m).network = h.network ∧
      (h.poll m).request = h.request ∧ (h.poll m).now = h.now := by
  simpa [task] using h.poll_task m

theorem poll_answered {h : Handler} {a : Answer} (ha : h.answer? = some a) (m : Moment) : h.poll m = h := by
  cases hphase : h.phase with
  | answered answer =>
    unfold poll
    rw [hphase]
  | _ =>
    rw [answer?, hphase] at ha
    cases ha

theorem Sound.poll {h : Handler} (hsound : h.Sound) (m : Moment) : (h.poll m).Sound := by
  cases hanswer : h.answer? with
  | some a =>
    rw [poll_answered hanswer]
    exact hsound
  | none =>
    have hcomes := poll_comes hsound hanswer m
    obtain ⟨hsettings, -, hrequest, hnow⟩ := h.poll_keeps m
    constructor
    · rw [hsettings, hnow]
      exact hsound.clock
    · exact hcomes.running
    · exact hcomes.idle
    · intro inbound isHeld hphase
      rw [hphase] at hcomes
      rw [hsettings, hrequest]
      exact hcomes.admitted.2
    · intro hsent
      rw [hsettings, hrequest]
      exact (hcomes.prepared hsent).2

theorem Sound.run {h : Handler} (hsound : h.Sound) (ms : List Moment) : (h.run ms).Sound := by
  induction ms generalizing h with
  | nil => exact hsound
  | cons m ms ih => exact ih (hsound.poll m)

theorem sound_fresh {h : Handler} (hclock : (h.settings.deadline? h.now).isSome = true)
    (hphase : h.phase = .fresh) (hsent : h.record.sent = []) : h.Sound where
  clock := hclock
  running := by simp [hphase]
  idle := fun _ => hsent
  admitted := by simp [hphase]
  prepared := fun hne => absurd hsent hne

/-! ### Answers along a run -/

def answers (h : Handler) : List Moment → List Answer
  | [] => []
  | m :: ms =>
    (if (h.poll m).answer? = h.answer? then [] else (h.poll m).answer?.toList) ++ (h.poll m).answers ms

theorem run_answered {h : Handler} {a : Answer} (ha : h.answer? = some a) (ms : List Moment) :
    h.run ms = h ∧ h.answers ms = [] := by
  induction ms with
  | nil => exact ⟨rfl, rfl⟩
  | cons m ms ih =>
    have hsame := poll_answered ha m
    constructor
    · show (h.poll m).run ms = h
      rw [hsame]
      exact ih.1
    · rw [answers, hsame, if_pos rfl]
      exact ih.2

/-- An answer that may be given at a moment: a reply of the network, or a fault that is due. -/
inductive Gives (s : Settings) (net : Network) (r : Http.Request) (m : Moment) : Answer → Prop
  | relayed {i : Nat} {status : UInt16} {headers : Http.Headers} {bytes : Bytes}
    (h : net.reply i = .answer status headers (.ok bytes)) :
    Gives s net r m (.relay ⟨status, headers, bytes⟩ s.forwarder.mergeHeaders)
  | fault {fault : Fault} (h : Due s net r m fault) : Gives s net r m (.ofFault fault)

theorem poll_gives {h : Handler} (hsound : h.Sound) (hopen : h.answer? = none) (m : Moment) :
    ((h.poll m).answer? = none ∧ Awaits h.settings h.network h.request m) ∨
      ∃ a, (h.poll m).answer? = some a ∧ Gives h.settings h.network h.request m a := by
  have hcomes := poll_comes hsound hopen m
  unfold answer?
  generalize (h.poll m).phase = phase, (h.poll m).record.sent = sent at hcomes
  cases hcomes with
  | reading hclock hbody => exact .inl ⟨rfl, hclock, hbody.imp_right .inl⟩
  | refused hdue => exact .inr ⟨_, rfl, .fault hdue⟩
  | relayed _ _ hreply => exact .inr ⟨_, rfl, .relayed hreply⟩
  | failed _ _ hdue => exact .inr ⟨_, rfl, .fault hdue⟩
  | waiting _ _ hawaits => exact .inl ⟨rfl, hawaits⟩

/-- Along a run there is one answer, or none as long as something is awaited at every moment. -/
theorem run_gives {h : Handler} (hsound : h.Sound) (hopen : h.answer? = none) (ms : List Moment) :
    (h.answers ms = [] ∧ (h.run ms).answer? = none ∧ ∀ m ∈ ms, Awaits h.settings h.network h.request m) ∨
      ∃ a, h.answers ms = [a] ∧ (h.run ms).answer? = some a ∧
        ∃ m ∈ ms, Gives h.settings h.network h.request m a := by
  induction ms generalizing h with
  | nil => exact .inl ⟨rfl, hopen, by simp⟩
  | cons m ms ih =>
    rw [answers, hopen]
    show (_ ∧ ((h.poll m).run ms).answer? = none ∧ _) ∨ ∃ a, _ ∧ ((h.poll m).run ms).answer? = some a ∧ _
    rcases poll_gives hsound hopen m with ⟨hwaits, hawaits⟩ | ⟨a, ha, hgives⟩
    · -- nothing yet: the rest of the run decides
      obtain ⟨hsettings, hnetwork, hrequest, -⟩ := h.poll_keeps m
      have hrest := ih (hsound.poll m) hwaits
      rw [hsettings, hnetwork, hrequest] at hrest
      rw [hwaits, if_pos rfl, List.nil_append]
      rcases hrest with ⟨hnone, hlast, hall⟩ | ⟨a, ha, hlast, x, hx, hgives⟩
      · refine .inl ⟨hnone, hlast, ?_⟩
        intro x hx
        rcases List.mem_cons.1 hx with rfl | hx
        · exact hawaits
        · exact hall x hx
      · exact .inr ⟨a, ha, hlast, x, List.mem_cons_of_mem m hx, hgives⟩
    · -- the answer is given here, and nothing happens afterwards
      obtain ⟨hsame, hnone⟩ := run_answered ha ms
      rw [hsame, ha, hnone]
      exact .inr ⟨a, rfl, rfl, m, List.mem_cons_self, hgives⟩

/-! ### What is sent along a run -/

def IsQuiet (h : Handler) : Prop :=
  h.record.sent = [] ∧ ∀ inbound isHeld, h.phase ≠ .forwarding inbound isHeld

theorem IsQuiet.poll {h : Handler} (hquiet : h.IsQuiet) (hsound : h.Sound) {m : Moment}
    (hm : ¬(m.bodyCame = true ∧ m.isStopping = false ∧ m.deadlinePassed = false)) : (h.poll m).IsQuiet := by
  cases hanswer : h.answer? with
  | some a =>
    rw [poll_answered hanswer]
    exact hquiet
  | none =>
    have hcomes := poll_comes hsound hanswer m
    have hnot : ¬h.Begun m := by
      rintro (⟨inbound, isHeld, hphase⟩ | hbegins)
      · exact hquiet.2 inbound isHeld hphase
      · exact hm hbegins
    constructor
    · by_contra hsent
      exact hnot (hcomes.prepared hsent).1
    · intro inbound isHeld hphase
      rw [hphase] at hcomes
      exact hnot hcomes.admitted.1

theorem IsQuiet.run {h : Handler} (hquiet : h.IsQuiet) (hsound : h.Sound) {ms : List Moment}
    (hms : ∀ m ∈ ms, m.bodyCame = false) : (h.run ms).IsQuiet := by
  induction ms generalizing h with
  | nil => exact hquiet
  | cons m ms ih =>
    have hm : m.bodyCame = false := hms m List.mem_cons_self
    apply ih
    · exact hquiet.poll hsound (by simp [hm])
    · exact hsound.poll m
    · exact fun x hx => hms x (List.mem_cons_of_mem m hx)

theorem run_append (h : Handler) (front back : List Moment) :
    h.run (front ++ back) = (h.run front).run back := List.foldl_append

end Handler

end Relay
