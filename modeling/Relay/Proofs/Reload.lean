import Relay.Proofs.Forwarder
import Relay.Server

/-!
Configuration updates and requests in any order. Until the server has ended, the settings in force and
the baseline are those of the configuration that was accepted last, and a request keeps the settings it
started under: what is done for it later depends on nothing but those and on the moments at which it is
looked at.
-/

namespace Relay

/-! ### Histories -/

def Stage.after : Stage → Server.Step → Stage
  | .serving, .stop => .draining
  | .draining, .close => .ended
  | stage, _ => stage

/-- The steps that still have to come, in this order, before a server has ended. -/
def Stage.toEnd : Stage → List Server.Step
  | .serving => [.stop, .close]
  | .draining => [.close]
  | .ended => []

namespace Server

def Step.isStop : Step → Bool
  | .stop => true
  | _ => false

def Step.update? : Step → Option Config
  | .update c => some c
  | _ => none

def appliedFrom : Stage → List Step → List Config
  | _, [] => []
  | stage, st :: steps =>
    (if stage = .ended then [] else st.update?.toList) ++ appliedFrom (stage.after st) steps

def applied (steps : List Step) : List Config := appliedFrom .serving steps

/-- The last of the updates that is accepted, or the configuration before them if none is. -/
def lastAccepted (c : Config) (updates : List Config) : Config :=
  ((updates.filter fun u => (Settings.ofConfig u).isOk).getLast?).getD c

/-- The moments at which a request is looked at, with what it sees of the server's state. -/
def moments (id : Nat) (isStopping : Bool) : List Step → List Moment
  | [] => []
  | .wake n m :: steps =>
    if n = id then { m with isStopping } :: moments id isStopping steps else moments id isStopping steps
  | .stop :: steps => moments id true steps
  | _ :: steps => moments id isStopping steps

/-- The request with a number is handed over, or its number goes to another one. -/
def Step.Ends (id : Nat) : Step → Prop
  | .begin n _ _ _ _ _ => n = id
  | .complete n => n = id
  | _ => False

def restartFields (old new : Config) : List (String × Bool) :=
  [("listener.bind_address", old.listener.bindAddress ≠ new.listener.bindAddress),
    ("observability.log_level", old.observability.logLevel ≠ new.observability.logLevel),
    ("observability.log_format", old.observability.logFormat ≠ new.observability.logFormat),
    ("observability.metrics_enabled", old.observability.metricsEnabled ≠ new.observability.metricsEnabled),
    ("observability.metrics_address", old.observability.metricsAddress ≠ new.observability.metricsAddress)]

theorem restartOnlyChanges_eq (old new : Config) :
    restartOnlyChanges old new = ((restartFields old new).filter (·.2)).map (·.1) := by
  have hcons : ∀ (name : String) (b : Prop) [Decidable b] (fields : List (String × Bool)),
      (((name, decide b) :: fields).filter (·.2)).map (·.1) =
        (if b then [name] else []) ++ (fields.filter (·.2)).map (·.1) := by
    intro name b _ fields
    by_cases hb : b
    · simp [hb]
    · simp [hb]
  unfold restartOnlyChanges restartFields
  simp only [hcons, List.filter_nil, List.map_nil, List.append_nil, List.append_assoc]

/-! ### Settings and baseline -/

structure Runs (s : Server) (c : Config) : Prop where
  settings : Settings.ofConfig c = .ok s.settings
  baseline : s.baseline = c

theorem start_runs {c : Config} {s : Server} (h : start c = .ok s) :
    s.Runs c ∧ s.stage = .serving := by
  unfold start at h
  obtain ⟨settings, hsettings, h⟩ := bind_eq_ok.1 h
  rw [← Except.ok.inj h]
  exact ⟨⟨hsettings, rfl⟩, rfl⟩

theorem update_ok {s : Server} {c : Config} {settings : Settings} (hrun : s.stage ≠ .ended)
    (h : Settings.ofConfig c = .ok settings) :
    s.update c = ({ s with settings, baseline := c },
      reloadEvent c :: (restartOnlyChanges s.baseline c).map restartEvent) := by
  unfold update
  rw [if_neg hrun, h]

theorem update_error {s : Server} {c : Config} {e : Forwarder.SetupError} (hrun : s.stage ≠ .ended)
    (h : Settings.ofConfig c = .error e) : s.update c = (s, [rejectEvent e]) := by
  unfold update
  rw [if_neg hrun, h]

theorem update_ended {s : Server} (hended : s.stage = .ended) (c : Config) : s.update c = (s, []) := by
  unfold update
  rw [if_pos hended]

theorem setInFlight_self (s : Server) (id : Nat) : s.setInFlight id (s.inFlight id) = s := by
  have hsame : (fun n => if n = id then s.inFlight id else s.inFlight n) = s.inFlight := by
    funext n
    by_cases hn : n = id
    · rw [if_pos hn, hn]
    · rw [if_neg hn]
  unfold setInFlight
  rw [hsame]

def Step.id? : Step → Option Nat
  | .begin id _ _ _ _ _ => some id
  | .wake id _ => some id
  | .complete id => some id
  | _ => none

/-- All that a step can do: take an update, move the server on, or change one request in flight. -/
theorem step_cases (s : Server) (st : Step) :
    (∃ u, st = .update u ∧ s.step st = (s.update u).1) ∨
    ((st = .stop ∨ st = .close) ∧ s.step st = { s with stage := s.stage.after st }) ∨
    ∃ id f, st.id? = some id ∧ s.step st = s.setInFlight id f := by
  cases st with
  | update u => exact .inl ⟨u, rfl, rfl⟩
  | begin id net now freshId r m => exact .inr (.inr ⟨id, _, rfl, rfl⟩)
  | wake id m =>
    refine .inr (.inr ?_)
    show ∃ n f, some id = some n ∧ (s.wake id m).1 = s.setInFlight n f
    unfold wake
    split
    · exact ⟨id, s.inFlight id, rfl, (s.setInFlight_self id).symm⟩
    · exact ⟨id, _, rfl, rfl⟩
  | complete id =>
    refine .inr (.inr ?_)
    show ∃ n f, some id = some n ∧ (s.complete id).1 = s.setInFlight n f
    unfold complete
    split
    · exact ⟨id, s.inFlight id, rfl, (s.setInFlight_self id).symm⟩
    · split
      · exact ⟨id, s.inFlight id, rfl, (s.setInFlight_self id).symm⟩
      · exact ⟨id, none, rfl, rfl⟩
  | stop =>
    refine .inr (.inl ⟨.inl rfl, ?_⟩)
    obtain ⟨settings, baseline, stage, inFlight⟩ := s
    cases stage <;> rfl
  | close =>
    refine .inr (.inl ⟨.inr rfl, ?_⟩)
    obtain ⟨settings, baseline, stage, inFlight⟩ := s
    cases stage <;> rfl

theorem update_stage (s : Server) (u : Config) : (s.update u).1.stage = s.stage := by
  unfold update
  split
  · rfl
  · split <;> rfl

theorem stage_after_of_id? {st : Step} {id : Nat} (h : st.id? = some id) (stage : Stage) :
    stage.after st = stage := by
  cases st with
  | update u => simp [Step.id?] at h
  | stop => simp [Step.id?] at h
  | close => simp [Step.id?] at h
  | _ => cases stage <;> rfl

theorem step_stage (s : Server) (st : Step) : (s.step st).stage = s.stage.after st := by
  rcases step_cases s st with ⟨u, rfl, hstep⟩ | ⟨-, hstep⟩ | ⟨id, f, hid, hstep⟩
  · rw [hstep, update_stage]
    cases s.stage <;> rfl
  · rw [hstep]
  · rw [hstep, stage_after_of_id? hid]
    rfl

theorem toEnd_sublist_cons (stage : Stage) (st : Step) (steps : List Step) :
    stage.toEnd.Sublist (st :: steps) ↔ (stage.after st).toEnd.Sublist steps := by
  cases stage with
  | serving =>
    cases st with
    | stop => exact List.cons_sublist_cons
    | _ => simp [Stage.toEnd, Stage.after, List.sublist_cons_iff]
  | draining => cases st <;> simp [Stage.toEnd, Stage.after]
  | ended => simp [Stage.toEnd, Stage.after]

theorem run_stage_eq_ended_iff (s : Server) (steps : List Step) :
    (s.run steps).stage = .ended ↔ s.stage.toEnd.Sublist steps := by
  induction steps generalizing s with
  | nil =>
    show s.stage = .ended ↔ _
    cases s.stage <;> simp [Stage.toEnd]
  | cons st steps ih =>
    show ((s.step st).run steps).stage = _ ↔ _
    rw [ih, step_stage, toEnd_sublist_cons]

theorem Runs.update {s : Server} {c : Config} (h : s.Runs c) (hrun : s.stage ≠ .ended)
    (u : Config) : (s.update u).1.Runs (lastAccepted c [u]) := by
  unfold lastAccepted
  cases hu : Settings.ofConfig u with
  | ok settings =>
    rw [update_ok hrun hu, List.filter_cons_of_pos (by rw [hu]; rfl)]
    exact ⟨hu, rfl⟩
  | error e =>
    rw [update_error hrun hu, List.filter_cons_of_neg (by rw [hu]; exact Bool.false_ne_true)]
    exact h

theorem Runs.step {s : Server} {c : Config} (h : s.Runs c) (st : Step) :
    (s.step st).Runs (lastAccepted c (if s.stage = .ended then [] else st.update?.toList)) := by
  rcases step_cases s st with ⟨u, rfl, hstep⟩ | ⟨hst, hstep⟩ | ⟨id, f, hid, hstep⟩
  · rw [hstep]
    by_cases hended : s.stage = .ended
    · rw [if_pos hended, update_ended hended]
      exact h
    · rw [if_neg hended]
      exact h.update hended u
  · have hnone : st.update? = none := by
      rcases hst with rfl | rfl <;> rfl
    rw [hstep, hnone, Option.toList_none, ite_self]
    exact ⟨h.settings, h.baseline⟩
  · have hnone : st.update? = none := by
      cases st with
      | update u => simp [Step.id?] at hid
      | _ => rfl
    rw [hstep, hnone, Option.toList_none, ite_self]
    exact ⟨h.settings, h.baseline⟩

theorem lastAccepted_append (c : Config) (front back : List Config) :
    lastAccepted c (front ++ back) = lastAccepted (lastAccepted c front) back := by
  unfold lastAccepted
  rw [List.filter_append, List.getLast?_append]
  cases ((back.filter fun u => (Settings.ofConfig u).isOk).getLast?) <;> rfl

/-- Along every run the settings are those of the update that was accepted last. -/
theorem Runs.run {s : Server} {c : Config} (h : s.Runs c) (steps : List Step) :
    (s.run steps).Runs (lastAccepted c (appliedFrom s.stage steps)) := by
  induction steps generalizing s c with
  | nil => exact h
  | cons st steps ih =>
    rw [Server.run, List.foldl_cons, appliedFrom, lastAccepted_append, ← step_stage]
    exact ih (h.step st)

/-! ### Requests in flight -/

theorem step_isStopping (s : Server) (st : Step) :
    (s.step st).isStopping = (s.isStopping || st.isStop) := by
  unfold isStopping
  rw [step_stage]
  cases s.stage <;> cases st <;> rfl

theorem step_inFlight_other {s : Server} {st : Step} {id : Nat} (h : st.id? ≠ some id) :
    (s.step st).inFlight id = s.inFlight id := by
  rcases step_cases s st with ⟨u, rfl, hstep⟩ | ⟨-, hstep⟩ | ⟨n, f, hn, hstep⟩
  · rw [hstep]
    unfold update
    split
    · rfl
    · split <;> rfl
  · rw [hstep]
  · rw [hstep]
    have hne : id ≠ n := fun heq => h (by rw [hn, heq])
    exact if_neg hne

theorem moments_cons_other {st : Step} {id : Nat} (h : st.id? ≠ some id) (isStopping : Bool)
    (steps : List Step) :
    moments id isStopping (st :: steps) = moments id (isStopping || st.isStop) steps := by
  cases st with
  | wake n m =>
    have hne : n ≠ id := fun heq => h (by rw [heq]; rfl)
    rw [moments, if_neg hne]
    exact congrArg (moments id · steps) (Bool.or_false _).symm
  | stop =>
    rw [moments]
    exact congrArg (moments id · steps) (Bool.or_true _).symm
  | update u => exact congrArg (moments id · steps) (Bool.or_false _).symm
  | begin n net now freshId r m => exact congrArg (moments id · steps) (Bool.or_false _).symm
  | complete n => exact congrArg (moments id · steps) (Bool.or_false _).symm
  | close => exact congrArg (moments id · steps) (Bool.or_false _).symm

theorem run_inFlight {id : Nat} {steps : List Step} (hopen : ∀ st ∈ steps, ¬st.Ends id) {s : Server}
    {f : InFlight} (h : s.inFlight id = some f) :
    (s.run steps).inFlight id = some (f.run (moments id s.isStopping steps)) := by
  induction steps generalizing s f with
  | nil => exact h
  | cons st steps ih =>
    have hrest : ∀ x ∈ steps, ¬x.Ends id := fun x hx => hopen x (List.mem_cons_of_mem st hx)
    rw [Server.run, List.foldl_cons]
    show ((s.step st).run steps).inFlight id = _
    by_cases hid : st.id? = some id
    · cases st with
      | wake n m =>
        -- the moment is the first of those that remain
        obtain rfl : n = id := Option.some.inj hid
        have hwake : s.step (.wake n m) = s.setInFlight n (some (f.poll (s.moment m))) := by
          show (s.wake n m).1 = _
          unfold wake
          rw [h]
        rw [hwake, moments, if_pos rfl]
        exact ih hrest (if_pos rfl)
      | begin n net now freshId r m => exact absurd (Option.some.inj hid) (hopen _ List.mem_cons_self)
      | complete n => exact absurd (Option.some.inj hid) (hopen _ List.mem_cons_self)
      | update u => simp [Step.id?] at hid
      | stop => simp [Step.id?] at hid
      | close => simp [Step.id?] at hid
    · rw [ih hrest ((step_inFlight_other hid).trans h), moments_cons_other hid, step_isStopping]

end Server

/-! ### What settings are made of -/

theorem Settings.ofConfig_ok {c : Config} {s : Settings} (h : Settings.ofConfig c = .ok s) :
    Forwarder.ofConfig c.origin = .ok s.forwarder ∧ s.requestSeconds = c.timeouts.requestSeconds ∧
      s.maxBodyBytes = c.listener.maxBodyBytes := by
  unfold Settings.ofConfig at h
  obtain ⟨f, hf, h⟩ := bind_eq_ok.1 h
  rw [← Except.ok.inj h]
  exact ⟨hf, rfl, rfl⟩

namespace Handler

def task (h : Handler) : Settings × Network × Http.Request × Nat :=
  (h.settings, h.network, h.request, h.now)

theorem read_task (h : Handler) (m : Moment) : (h.read m).task = h.task := by
  unfold read
  split
  · split
    · rfl
    · unfold forward
      split <;> rfl
  · rfl
  · split <;> rfl

theorem poll_task (h : Handler) (m : Moment) : (h.poll m).task = h.task := by
  unfold poll
  split
  · split
    · rfl
    · split
      · rfl
      · exact read_task _ m
  · exact h.read_task m
  · unfold await
    split <;> rfl
  · rfl
  · rfl

theorem run_task (h : Handler) (ms : List Moment) : (h.run ms).task = h.task := by
  induction ms generalizing h with
  | nil => rfl
  | cons m ms ih =>
    show ((h.poll m).run ms).task = h.task
    rw [ih, poll_task]

end Handler

theorem InFlight.run_eq (f : InFlight) (ms : List Moment) :
    f.run ms = { f with handler := f.handler.map (·.run ms) } := by
  induction ms generalizing f with
  | nil =>
    show f = { f with handler := f.handler.map id }
    rw [Option.map_id, id]
  | cons m ms ih =>
    show (f.poll m).run ms = _
    rw [ih]
    show { f with handler := (f.handler.map _).map _ } = _
    rw [Option.map_map]
    rfl

theorem InFlight.run_start_settings (settings : Settings) (net : Network) (now : Nat)
    (freshId : String) (r : Http.Request) (ms : List Moment) :
    ((InFlight.start settings net now freshId r).run ms).handler.map (·.settings) =
      if isRouted r then some settings else none := by
  rw [InFlight.run_eq, Option.map_map]
  unfold InFlight.start
  by_cases hroute : isRouted r = true
  · rw [if_pos hroute, if_pos hroute]
    exact congrArg (some ·.1) (Handler.run_task _ ms)
  · rw [if_neg hroute, if_neg hroute]
    rfl

namespace Server

theorem complete_delivery {s : Server} {id : Nat} {f : InFlight} (h : s.inFlight id = some f) :
    (s.complete id).2 = some f.service.delivery := by
  unfold complete
  rw [h]
  dsimp only
  cases hdelivery : f.service.delivery <;> rfl

/-- Until the server has ended, which takes a stop and then the close of its last connection, it runs
under the configuration that was accepted last, and so does a request that starts, up to its own end and
whatever happens in between. An update is rejected without effect, or takes over whole and names the
fields that differ and need a restart. -/
theorem run_reload {c₀ : Config} {s₀ : Server} (h₀ : start c₀ = .ok s₀) (front : List Step) :
    let s := s₀.run front
    let c := lastAccepted c₀ (applied front)
    (Settings.ofConfig c = .ok s.settings ∧ s.baseline = c ∧
      s.settings.requestSeconds = c.timeouts.requestSeconds ∧
      s.settings.maxBodyBytes = c.listener.maxBodyBytes ∧
      Target.ofText c.origin.origin c.origin.mountPrefixes = .ok s.settings.forwarder.target ∧
      s.settings.forwarder.client = ⟨c.origin.userAgent, c.origin.useSystemProxy⟩ ∧
      s.settings.forwarder.mergeHeaders = c.origin.mergeHeaders) ∧
    (∀ id net now freshId r m back, (∀ st ∈ back, ¬Step.Ends id st) →
      let t := s.run (.begin id net now freshId r m :: back)
      let f := (InFlight.start s.settings net now freshId r).run
        (s.moment m :: moments id s.isStopping back)
      t.inFlight id = some f ∧
        f.handler.map (·.settings) = (if isRouted r then some s.settings else none) ∧
        (t.complete id).2 = some f.service.delivery) ∧
    (s.stage = .ended ↔ [.stop, .close].Sublist front) ∧
    (s.stage = .ended → ∀ u, s.update u = (s, [])) ∧
    (s.stage ≠ .ended → ∀ u,
      (∀ e, Settings.ofConfig u = .error e → s.update u = (s, [rejectEvent e])) ∧
      ∀ settings, Settings.ofConfig u = .ok settings →
        (s.update u).1 = { s with settings, baseline := u } ∧
        (s.update u).2 = reloadEvent u :: ((([
          ("listener.bind_address", c.listener.bindAddress ≠ u.listener.bindAddress),
          ("observability.log_level", c.observability.logLevel ≠ u.observability.logLevel),
          ("observability.log_format", c.observability.logFormat ≠ u.observability.logFormat),
          ("observability.metrics_enabled",
            c.observability.metricsEnabled ≠ u.observability.metricsEnabled),
          ("observability.metrics_address",
            c.observability.metricsAddress ≠ u.observability.metricsAddress)] :
            List (String × Bool)).filter (·.2)).map (·.1)).map restartEvent) := by
  intro s c
  obtain ⟨hstart, hstage⟩ := start_runs h₀
  have hruns : s.Runs c := by
    have h := hstart.run front
    rw [hstage] at h
    exact h
  have hended := run_stage_eq_ended_iff s₀ front
  rw [hstage] at hended
  obtain ⟨hforwarder, hseconds, hbytes⟩ := Settings.ofConfig_ok hruns.settings
  obtain ⟨htarget, hclient, hmerge⟩ := Forwarder.ofConfig_ok hforwarder
  refine ⟨⟨hruns.settings, hruns.baseline, hseconds, hbytes, htarget, hclient, hmerge⟩, ?_, hended,
    update_ended, ?_⟩
  · -- nothing in `back` ends the request, so that it is only polled, and a poll leaves its settings alone
    intro id net now freshId r m back hopen t f
    have hbegun : (s.begin id net now freshId r m).1.inFlight id =
        some ((InFlight.start s.settings net now freshId r).poll (s.moment m)) := if_pos rfl
    have hflight : t.inFlight id = some f := run_inFlight hopen hbegun
    exact ⟨hflight, InFlight.run_start_settings s.settings net now freshId r _,
      complete_delivery hflight⟩
  · intro hgoes u
    refine ⟨fun e he => update_error hgoes he, fun settings hu => ?_⟩
    rw [update_ok hgoes hu, hruns.baseline, restartOnlyChanges_eq]
    exact ⟨rfl, rfl⟩

/-- A server is told to stop and takes two more updates, of which one is rejected. A request that starts
then outlives a third update, which is reported against the first. -/
theorem run_reload_overtaken :
    let one : Config := { origin := { origin := "http://one.example" } }
    let two : Config :=
      { origin := { origin := "http://two.example" }, timeouts := { requestSeconds := 5 } }
    let three : Config :=
      { listener := { bindAddress := "127.0.0.1:9999" }, origin := { origin := "http://three.example" },
        observability := { logLevel := "debug", metricsEnabled := true } }
    let bad : Config := { origin := { origin := "not a url" } }
    let r : Http.Request := ⟨"GET", ⟨"/api/x", none⟩, [], .stalled⟩
    ∃ s₀, start one = .ok s₀ ∧
      let s := s₀.run [.stop, .update two, .update bad]
      let t := s.run [.begin 7 .isolated 0 "id" r {}, .update three, .close, .update one,
        .wake 7 { deadlinePassed := true }]
      Settings.ofConfig two = .ok s.settings ∧ s.baseline = two ∧ s.stage ≠ .ended ∧
        (s.update three).2 = reloadEvent three :: ["listener.bind_address", "observability.log_level",
          "observability.metrics_enabled"].map restartEvent ∧
        ∃ f, t.inFlight 7 = some f ∧ f.handler.map (·.settings) = some s.settings := by
  intro one two three bad r
  let settings (host : String) (seconds : UInt64) : Settings :=
    ⟨⟨⟨⟨"http", some { host := .domain host }, .segments [""], none, none⟩,
      ["/.netlify/functions/api", "/api"]⟩, {}, false⟩, seconds, 6291456⟩
  have hone : Settings.ofConfig one = .ok (settings "one.example" 30) := by decide +kernel
  have hthree : Settings.ofConfig three = .ok (settings "three.example" 30) := by decide +kernel
  have htwo : lastAccepted one (applied [.stop, .update two, .update bad]) = two := by decide +kernel
  let s₀ : Server := { settings := settings "one.example" 30, baseline := one }
  have h₀ : start one = .ok s₀ := by
    unfold start
    rw [hone]
    rfl
  obtain ⟨⟨hof, hbaseline, -⟩, hrequest, hended, -, hupdate⟩ :=
    run_reload h₀ [.stop, .update two, .update bad]
  rw [htwo] at hof hbaseline hupdate
  have hgoes : (s₀.run [.stop, .update two, .update bad]).stage ≠ .ended :=
    hended.not.2 (by simp)
  obtain ⟨hflight, hkept, -⟩ := hrequest 7 .isolated 0 "id" r {}
    [.update three, .close, .update one, .wake 7 { deadlinePassed := true }] (by simp [Step.Ends])
  exact ⟨s₀, h₀, hof, hbaseline, hgoes, ((hupdate hgoes three).2 _ hthree).2, _, hflight,
    hkept.trans (if_pos (by decide +kernel))⟩

end Server

end Relay
