import Mathlib.Data.List.Induction
import Relay.Startup

/-!
Termination signals while the program starts. The signal reaches the server exactly if the server
listened before the message was sent; otherwise the message is lost, the program runs on, and no later
turn of a task changes that.
-/

namespace Relay

theorem Server.stop_isStopping (s : Server) : s.stop.1.isStopping = true := by
  obtain ⟨settings, baseline, stage, inFlight⟩ := s
  cases stage <;> rfl

def SignalTask.hasRaised : SignalTask → Bool
  | .raised | .done => true
  | _ => false

namespace Startup

def Listens (t : Startup) : Prop :=
  match t.mainTask with
  | .running _ _ | .stopping _ => True
  | _ => False

def IsTriggered (t : Startup) : Prop := t.signalTask = .done

/-- The receiver of the server has the message before it, or has had it. -/
def IsNotified (t : Startup) : Prop :=
  match t.mainTask with
  | .running _ receiver => (t.shutdown.receive receiver).2 = .value
  | .stopping _ => True
  | _ => False

theorem listens_of_running {t : Startup} {server : Server} {receiver : Nat}
    (h : t.mainTask = .running server receiver) : t.Listens := by
  unfold Listens
  rw [h]
  trivial

/-! ### What becomes of the message -/

inductive Stage
  /-- Nobody listens. -/
  | unheard
  /-- The server listens, and the message is still to come. -/
  | awaited
  | pending
  | received
  | lost

def Stage.isHeard : Stage → Bool
  | .unheard | .lost => false
  | _ => true

/-- All that a start can come to. -/
inductive At : Startup → Stage → Prop
  | unheard {signalTask : SignalTask} {mainTask : MainTask}
    (hmain : ∀ shutdown, ¬Listens ⟨shutdown, signalTask, mainTask⟩) :
    At ⟨⟨signalTask.hasRaised, 0, [], []⟩, signalTask, mainTask⟩ .unheard
  | awaited {signalTask : SignalTask} {server : Server} (hsignal : signalTask ≠ .done) :
    At ⟨⟨signalTask.hasRaised, 0, [some 0], []⟩, signalTask, .running server 0⟩ .awaited
  | pending {server : Server} : At ⟨⟨true, 1, [some 0], []⟩, .done, .running server 0⟩ .pending
  | received {shutdown : Shutdown} {server : Server} (hstop : server.isStopping = true) :
    At ⟨shutdown, .done, .stopping server⟩ .received
  | lost {server : Server} : At ⟨⟨true, 0, [some 0], []⟩, .done, .running server 0⟩ .lost

/-- How the message goes on from one stage to the next. -/
inductive Leads : Stage → Stage → Prop
  | stay (stage : Stage) : Leads stage stage
  | listen : Leads .unheard .awaited
  | miss : Leads .unheard .lost
  | send : Leads .awaited .pending
  | receive : Leads .pending .received

theorem Leads.isHeard {stage next : Stage} (h : Leads stage next) (hheard : stage.isHeard = true) :
    next.isHeard = true := by
  cases h with
  | stay => exact hheard
  | listen => rfl
  | miss => cases hheard
  | send => rfl
  | receive => rfl

theorem Leads.awaited_of_isHeard {stage next : Stage} (h : Leads stage next)
    (hheard : next.isHeard = true) : stage.isHeard = true ∨ next = .awaited := by
  cases h with
  | stay => exact .inl hheard
  | listen => exact .inr rfl
  | miss => cases hheard
  | send => exact .inl rfl
  | receive => exact .inl rfl

theorem At.notify {t : Startup} {stage : Stage} (h : At t stage) : At t.notify stage := by
  unfold Startup.notify
  cases h with
  | @unheard signalTask mainTask hmain =>
    cases signalTask with
    | waiting => exact @At.unheard .notified _ hmain
    | _ => exact .unheard hmain
  | @awaited signalTask server hsignal =>
    cases signalTask with
    | waiting => exact @At.awaited .notified _ (by decide)
    | _ => exact .awaited hsignal
  | pending => exact .pending
  | received hstop => exact .received hstop
  | lost => exact .lost

theorem At.signalStep {t : Startup} {stage : Stage} (h : At t stage) :
    ∃ next, At t.signalStep next ∧ Leads stage next := by
  unfold Startup.signalStep
  cases h with
  | @unheard signalTask mainTask hmain =>
    refine ⟨.unheard, ?_, .stay _⟩
    cases signalTask with
    | notified => exact @At.unheard .raised _ hmain
    -- the message is sent to nobody
    | raised => exact @At.unheard .done _ hmain
    | _ => exact .unheard hmain
  | @awaited signalTask server hsignal =>
    cases signalTask with
    | waiting => exact ⟨.awaited, .awaited hsignal, .stay _⟩
    | notified => exact ⟨.awaited, @At.awaited .raised _ (by decide), .stay _⟩
    | raised => exact ⟨.pending, .pending, .send⟩
    | done => exact absurd rfl hsignal
  | pending => exact ⟨.pending, .pending, .stay _⟩
  | received hstop => exact ⟨.received, .received hstop, .stay _⟩
  | lost => exact ⟨.lost, .lost, .stay _⟩

theorem At.mainStep {t : Startup} {stage : Stage} (h : At t stage) :
    ∃ next, At t.mainStep next ∧ Leads stage next := by
  unfold Startup.mainStep
  cases h with
  | @unheard signalTask mainTask hmain =>
    cases mainTask with
    | building c =>
      refine ⟨.unheard, ?_, .stay _⟩
      dsimp only
      cases Server.start c with
      | ok server => exact .unheard fun _ => id
      | error cause => exact .unheard fun _ => id
    | built server =>
      -- it begins to listen after the message was sent, or in time
      by_cases hdone : signalTask = .done
      · subst hdone
        exact ⟨.lost, .lost, .miss⟩
      · exact ⟨.awaited, .awaited hdone, .listen⟩
    | running server receiver => exact absurd trivial (hmain {})
    | stopping server => exact absurd trivial (hmain {})
    | failed cause => exact ⟨.unheard, .unheard hmain, .stay _⟩
  | awaited hsignal => exact ⟨.awaited, .awaited hsignal, .stay _⟩
  | @pending server => exact ⟨.received, .received server.stop_isStopping, .receive⟩
  | received hstop => exact ⟨.received, .received hstop, .stay _⟩
  | lost => exact ⟨.lost, .lost, .stay _⟩

theorem At.step {t : Startup} {stage : Stage} (h : At t stage) (turn : Turn) :
    ∃ next, At (t.step turn) next ∧ Leads stage next := by
  cases turn with
  | signal => exact ⟨stage, h.notify, .stay stage⟩
  | signalTask => exact h.signalStep
  | mainTask => exact h.mainStep

/-! ### Runs -/

theorem run_append (t : Startup) (front back : List Turn) :
    t.run (front ++ back) = (t.run front).run back := List.foldl_append

theorem run_concat (t : Startup) (turns : List Turn) (turn : Turn) :
    t.run (turns ++ [turn]) = (t.run turns).step turn := run_append t turns [turn]

theorem mainStep_building {c : Config} {server : Server} (h : Server.start c = .ok server)
    (shutdown : Shutdown) (signalTask : SignalTask) :
    mainStep ⟨shutdown, signalTask, .building c⟩ = ⟨shutdown, signalTask, .built server⟩ := by
  simp only [mainStep, h]

theorem At.run_isHeard {t : Startup} {stage : Stage} (h : At t stage) (hheard : stage.isHeard = true)
    (turns : List Turn) : ∃ last, At (t.run turns) last ∧ last.isHeard = true := by
  induction turns generalizing t stage with
  | nil => exact ⟨stage, h, hheard⟩
  | cons turn turns ih =>
    obtain ⟨next, hnext, hleads⟩ := h.step turn
    exact ih hnext (hleads.isHeard hheard)

theorem run_at (c : Config) (turns : List Turn) :
    ∃ stage, At ((ofConfig c).run turns) stage ∧
      (stage.isHeard = true → ∃ front back, turns = front ++ back ∧ At ((ofConfig c).run front) .awaited) := by
  induction turns using List.reverseRecOn with
  | nil => exact ⟨.unheard, @At.unheard .waiting _ fun _ => id, fun hheard => by cases hheard⟩
  | append_singleton turns turn ih =>
    obtain ⟨stage, hat, hearlier⟩ := ih
    obtain ⟨next, hnext, hleads⟩ := hat.step turn
    rw [← run_concat] at hnext
    refine ⟨next, hnext, fun hheard => ?_⟩
    rcases hleads.awaited_of_isHeard hheard with hbefore | rfl
    · obtain ⟨front, back, rfl, hawaited⟩ := hearlier hbefore
      exact ⟨front, back ++ [turn], List.append_assoc .., hawaited⟩
    · exact ⟨turns ++ [turn], [], (List.append_nil _).symm, hnext⟩

theorem At.of_awaited {t : Startup} (h : At t .awaited) : t.Listens ∧ ¬t.IsTriggered := by
  cases h with
  | awaited hsignal => exact ⟨trivial, hsignal⟩

theorem At.run_lost {t : Startup} (h : At t .lost) (turns : List Turn) : t.run turns = t := by
  have hstuck : ∀ turn, t.step turn = t := by
    intro turn
    cases h
    cases turn <;> rfl
  induction turns with
  | nil => rfl
  | cons turn turns ih =>
    show (t.step turn).run turns = t
    rw [hstuck, ih]

theorem At.poll_lost {t : Startup} (h : At t .lost) :
    ((t.shutdown.step .wait).1.poll t.shutdown.waiters.length).2 = .ready := by
  cases h
  rfl

theorem At.awaited_of_listens {t : Startup} {stage : Stage} (h : At t stage) (hlistens : t.Listens)
    (hsignal : ¬t.IsTriggered) : stage = .awaited := by
  cases h with
  | unheard hmain => exact absurd hlistens (hmain _)
  | awaited => rfl
  | pending => exact absurd rfl hsignal
  | received => exact absurd rfl hsignal
  | lost => exact absurd rfl hsignal

theorem At.isNotified_iff {t : Startup} {stage : Stage} (h : At t stage) (hlistens : t.Listens)
    (hsignal : t.IsTriggered) :
    (t.IsNotified ↔ stage.isHeard = true) ∧ (¬t.IsNotified → stage = .lost) := by
  cases h with
  | unheard hmain => exact absurd hlistens (hmain _)
  | awaited hearly => exact absurd hsignal hearly
  | pending => exact ⟨⟨fun _ => rfl, fun _ => rfl⟩, fun hnot => absurd rfl hnot⟩
  | received => exact ⟨⟨fun _ => rfl, fun _ => trivial⟩, fun hnot => absurd trivial hnot⟩
  | @lost server =>
    -- its receiver came after the message, and there is no other one
    have hnot : ¬IsNotified ⟨⟨true, 0, [some 0], []⟩, .done, .running server 0⟩ := by
      intro hvalue
      cases hvalue
    exact ⟨⟨fun hvalue => absurd hvalue hnot, fun hheard => nomatch hheard⟩, fun _ => rfl⟩

theorem At.stops {t : Startup} {stage : Stage} (h : At t stage) (hheard : stage.isHeard = true)
    (hsignal : t.IsTriggered) :
    ∃ server, t.mainStep.mainTask = .stopping server ∧ server.isStopping = true := by
  cases h with
  | unheard => cases hheard
  | awaited hearly => exact absurd hsignal hearly
  | @pending server => exact ⟨server.stop.1, rfl, server.stop_isStopping⟩
  | @received shutdown server hstop => exact ⟨server, rfl, hstop⟩
  | lost => cases hheard

/-- Once the trigger has run, a server that listens has been notified exactly if it listened before
the trigger was over; it then stops at its next turn. Otherwise the message is lost on it for good,
although a waiter in the place of its receiver would be done at once. This can happen to every
configuration that the program starts with. -/
theorem notified_iff_in_time (c : Config) :
    (∀ turns, let t := (ofConfig c).run turns
      t.IsTriggered → t.Listens →
        (t.IsNotified ↔ ∃ front back, turns = front ++ back ∧
          ((ofConfig c).run front).Listens ∧ ¬((ofConfig c).run front).IsTriggered) ∧
        (t.IsNotified → ∃ server, t.mainStep.mainTask = .stopping server ∧ server.isStopping = true) ∧
        (¬t.IsNotified → (∀ more, t.run more = t) ∧
          ((t.shutdown.step .wait).1.poll t.shutdown.waiters.length).2 = .ready)) ∧
    ∀ server, Server.start c = .ok server →
      ∃ turns, let t := (ofConfig c).run turns
        t.IsTriggered ∧ t.mainTask = .running server 0 ∧ ¬t.IsNotified := by
  constructor
  · intro turns t hsignal hlistens
    obtain ⟨stage, hat, hearlier⟩ := run_at c turns
    obtain ⟨hheard, hlost⟩ := hat.isNotified_iff hlistens hsignal
    refine ⟨⟨fun hnotified => ?_, ?_⟩, fun hnotified => hat.stops (hheard.1 hnotified) hsignal, ?_⟩
    · obtain ⟨front, back, hturns, hawaited⟩ := hearlier (hheard.1 hnotified)
      exact ⟨front, back, hturns, hawaited.of_awaited⟩
    · rintro ⟨front, back, rfl, hearly, hopen⟩
      obtain ⟨first, hfirst, -⟩ := run_at c front
      obtain rfl := hfirst.awaited_of_listens hearly hopen
      obtain ⟨last, hlast, hheardLast⟩ := hfirst.run_isHeard rfl back
      rw [← run_append] at hlast
      exact (hlast.isNotified_iff hlistens hsignal).1.2 hheardLast
    · intro hnot
      obtain rfl := hlost hnot
      exact ⟨hat.run_lost, hat.poll_lost⟩
  · intro server hstart
    -- the signal is dealt with before the server is built
    refine ⟨[.signal, .signalTask, .signalTask, .mainTask, .mainTask], ?_⟩
    have hlast : (ofConfig c).run [.signal, .signalTask, .signalTask, .mainTask, .mainTask] =
        ⟨⟨true, 0, [some 0], []⟩, .done, .running server 0⟩ := by
      show mainStep (mainStep ⟨⟨true, 0, [], []⟩, .done, .building c⟩) = _
      rw [mainStep_building hstart]
      rfl
    rw [hlast]
    refine ⟨rfl, rfl, ?_⟩
    intro hvalue
    cases hvalue

/-- The server of the default configuration begins to listen between the flag and the message, or
after both. -/
theorem notified_iff_in_time_default :
    let t := (ofConfig {}).run [.signal, .signalTask, .mainTask, .mainTask, .signalTask]
    (t.IsTriggered ∧ t.Listens ∧ t.IsNotified) ∧
      ∃ server turns, Server.start {} = .ok server ∧
        let t := (ofConfig {}).run turns
        t.IsTriggered ∧ t.mainTask = .running server 0 ∧ ¬t.IsNotified ∧ ∀ more, t.run more = t := by
  let settings : Settings :=
    ⟨⟨⟨⟨"https", some { host := .domain "www.memverse.com" }, .segments [""], none, none⟩,
      ["/.netlify/functions/api", "/api"]⟩, {}, false⟩, 30, 6291456⟩
  have hsettings : Settings.ofConfig {} = .ok settings := by decide +kernel
  have hstart : Server.start {} = .ok { settings, baseline := {} } := by
    unfold Server.start
    rw [hsettings]
    rfl
  obtain ⟨hturns, hlost⟩ := notified_iff_in_time {}
  -- the flag is up when the server begins to listen, but the message is still to come
  have hearly : (ofConfig {}).run [.signal, .signalTask, .mainTask, .mainTask] =
      ⟨⟨true, 0, [some 0], []⟩, .raised, .running { settings, baseline := {} } 0⟩ := by
    show mainStep (mainStep ⟨⟨true, 0, [], []⟩, .raised, .building {}⟩) = _
    rw [mainStep_building hstart]
    rfl
  have hlast : (ofConfig {}).run [.signal, .signalTask, .mainTask, .mainTask, .signalTask] =
      ⟨⟨true, 1, [some 0], []⟩, .done, .running { settings, baseline := {} } 0⟩ := by
    show signalStep ((ofConfig {}).run [.signal, .signalTask, .mainTask, .mainTask]) = _
    rw [hearly]
    rfl
  have htriggered := congrArg Startup.signalTask hlast
  have hlistens := listens_of_running (congrArg Startup.mainTask hlast)
  obtain ⟨hiff, -, -⟩ := hturns _ htriggered hlistens
  have hnotified := hiff.2 ⟨_, [.signalTask], rfl,
    listens_of_running (congrArg Startup.mainTask hearly), by rw [hearly]; exact SignalTask.noConfusion⟩
  refine ⟨⟨htriggered, hlistens, hnotified⟩, ?_⟩
  obtain ⟨turns, hdone, hmain, hnot⟩ := hlost _ hstart
  exact ⟨_, turns, hstart, hdone, hmain, hnot,
    ((hturns turns hdone (listens_of_running hmain)).2.2 hnot).1⟩

end Startup

end Relay
