import Mathlib.Algebra.Group.Nat.Defs
import Relay.Proofs.Handling
import Relay.Proofs.Layers
import Relay.Proofs.Reload

/-!
Timeouts against the clock. The deadline of a request has to be a time that the clock can show, and a
request whose deadline is beyond it crashes. Only zero is turned away as a timeout, so that a reload
can make every request crash.
-/

namespace Relay

theorem Settings.deadline?_eq_none_iff {s : Settings} {now : Nat} :
    s.deadline? now = none ↔ 2 ^ 63 ≤ now + s.requestSeconds.toNat := by
  unfold deadline?
  by_cases hlt : now + s.requestSeconds.toNat < 0x8000000000000000
  · rw [if_pos hlt]
    simp only [reduceCtorEq, false_iff]
    omega
  · rw [if_neg hlt]
    simp only [true_iff]
    omega

/-! ### Beyond the clock -/

theorem Handler.poll_beyond {h : Handler} (hphase : h.phase = .fresh)
    (hclock : h.settings.deadline? h.now = none) (m : Moment) : h.poll m = { h with phase := .crashed } := by
  unfold poll
  rw [hphase]
  dsimp only
  rw [hclock]

theorem Handler.run_crashed {h : Handler} (hphase : h.phase = .crashed) (ms : List Moment) : h.run ms = h := by
  have hstuck : ∀ m, h.poll m = h := by
    intro m
    unfold poll
    rw [hphase]
  induction ms with
  | nil => rfl
  | cons m ms ih =>
    show (h.poll m).run ms = h
    rw [hstuck, ih]

namespace InFlight

theorem run_start {r : Http.Request} (hroute : isRouted r = true) (s : Settings) (net : Network)
    (now : Nat) (freshId : String) (ms : List Moment) :
    (start s net now freshId r).run ms =
      ⟨r, freshId, some (Handler.run { settings := s, network := net, request := r, now } ms)⟩ := by
  rw [run_eq]
  unfold start
  rw [if_pos hroute]
  rfl

theorem service_beyond {s : Settings} {now : Nat} (hclock : s.deadline? now = none) {r : Http.Request}
    (hroute : isRouted r = true) (net : Network) (freshId : String) (m : Moment) (ms : List Moment) :
    ((start s net now freshId r).run (m :: ms)).service =
      { delivery := .crashed, logs := [spanEntry r freshId] } := by
  let h : Handler := { settings := s, network := net, request := r, now }
  have hrun : h.run (m :: ms) = { h with phase := .crashed } := by
    show (h.poll m).run ms = _
    rw [Handler.poll_beyond rfl hclock]
    exact Handler.run_crashed rfl ms
  rw [run_start hroute, hrun]
  rfl

theorem service_within {s : Settings} {now : Nat} (hclock : (s.deadline? now).isSome = true)
    {r : Http.Request} (hroute : isRouted r = true) (net : Network) (freshId : String) (ms : List Moment) :
    let served := ((start s net now freshId r).run ms).service
    (∃ response, served.delivery = .response response) ∨
      served.delivery = .waiting ∧ ∀ m ∈ ms, m.deadlinePassed = false := by
  intro served
  let h : Handler := { settings := s, network := net, request := r, now }
  have hsound : h.Sound := Handler.sound_fresh hclock rfl rfl
  have hserved : served = service ⟨r, freshId, some (h.run ms)⟩ :=
    congrArg service (run_start hroute s net now freshId ms)
  rw [hserved]
  rcases Handler.run_gives hsound rfl ms with ⟨-, hopen, hawaits⟩ | ⟨a, -, ha, -⟩
  · exact .inr ⟨service_waiting rfl (hsound.run ms) hopen, fun m hm => (hawaits m hm).1⟩
  · exact .inl ⟨_, service_answered rfl ha⟩

theorem service_unrouted {r : Http.Request} (hroute : isRouted r = false) (s : Settings) (net : Network)
    (now : Nat) (freshId : String) (ms : List Moment) :
    ∃ response, ((start s net now freshId r).run ms).service.delivery = .response response := by
  rw [run_eq]
  unfold start
  rw [hroute]
  -- there is no handler, and nothing looks at the clock
  exact ⟨_, rfl⟩

end InFlight

/-! ### Timeouts that are accepted -/

def Config.withTimeout (c : Config) (seconds : UInt64) : Config :=
  { c with timeouts := { requestSeconds := seconds } }

theorem Config.validate_withTimeout {c : Config} (hc : c.validate = .ok c) (seconds : UInt64) :
    (c.withTimeout seconds).validate = .ok (c.withTimeout seconds) ↔ seconds ≠ 0 := by
  rw [validate_eq_ok_iff] at hc ⊢
  simp only [violations, List.append_eq_nil_iff] at hc ⊢
  constructor
  · rintro ⟨⟨-, hpositive⟩, -⟩ hzero
    subst hzero
    cases hpositive
  · intro hpositive
    exact ⟨⟨hc.1.1, if_neg hpositive⟩, trivial⟩

namespace Server

theorem Runs.settings_withTimeout {s : Server} {c : Config} (h : s.Runs c) (seconds : UInt64) :
    Settings.ofConfig (c.withTimeout seconds) = .ok { s.settings with requestSeconds := seconds } := by
  obtain ⟨hforwarder, -, hbytes⟩ := Settings.ofConfig_ok h.settings
  unfold Settings.ofConfig Config.withTimeout
  dsimp only
  rw [hforwarder, hbytes]
  rfl

theorem request_cases (s : Server) (net : Network) (now : Nat) (freshId : String) (r : Http.Request)
    (m : Moment) (ms : List Moment) :
    let served := s.request net now freshId r (m :: ms)
    let isBeyond := isRouted r = true ∧ s.settings.deadline? now = none
    (isBeyond ∧ served = { delivery := .crashed, logs := [spanEntry r freshId] }) ∨
    (¬isBeyond ∧ ∃ response, served.delivery = .response response) ∨
    (¬isBeyond ∧ served.delivery = .waiting ∧ ∀ x ∈ m :: ms, x.deadlinePassed = false) := by
  intro served isBeyond
  by_cases hroute : isRouted r = true
  · cases hdeadline : s.settings.deadline? now with
    | none =>
      exact .inl ⟨⟨hroute, hdeadline⟩,
        InFlight.service_beyond hdeadline hroute net freshId (s.moment m) (ms.map s.moment)⟩
    | some deadline =>
      have hclock : (s.settings.deadline? now).isSome = true := Option.isSome_of_eq_some hdeadline
      have hwithin : ¬isBeyond := by
        rintro ⟨-, hnone⟩
        rw [hnone] at hclock
        cases hclock
      rcases InFlight.service_within hclock hroute net freshId ((m :: ms).map s.moment) with
        hresponse | ⟨hwaiting, hopen⟩
      · exact .inr (.inl ⟨hwithin, hresponse⟩)
      · -- the server changes of a moment only whether it stops
        refine .inr (.inr ⟨hwithin, hwaiting, ?_⟩)
        intro x hx
        exact hopen (s.moment x) (List.mem_map_of_mem hx)
  · refine .inr (.inl ⟨fun h => hroute h.1, ?_⟩)
    exact InFlight.service_unrouted (eq_false_of_ne_true hroute) s.settings net now freshId _

/-- Under an accepted configuration a request crashes, and leaves nothing but the entry that opens it,
exactly if a route leads to it and its deadline is beyond the clock. Every other request is answered by
its deadline. An update may set every timeout but zero, so that requests crash at whatever time they
start. -/
theorem request_crashed_iff {c : Config} (hc : c.validate = .ok c) {s : Server} (hs : s.Runs c) :
    (∀ now, s.settings.deadline? now =
      if now + c.timeouts.requestSeconds.toNat < 2 ^ 63 then
        some (now + c.timeouts.requestSeconds.toNat) else none) ∧
    (∀ net now freshId r m ms, let served := s.request net now freshId r (m :: ms)
      (served.delivery = .crashed ↔
        isRouted r = true ∧ 2 ^ 63 ≤ now + c.timeouts.requestSeconds.toNat) ∧
      (served.delivery = .crashed →
        served.logs = [spanEntry r freshId] ∧ served.samples = [] ∧ served.sent = []) ∧
      (served.delivery ≠ .crashed → (∃ x ∈ m :: ms, x.deadlinePassed = true) →
        ∃ response, served.delivery = .response response)) ∧
    ∀ seconds, let next := c.withTimeout seconds
      (next.validate = .ok next ↔ seconds ≠ 0) ∧
      (s.stage ≠ .ended → (s.update next).1.Runs next) := by
  obtain ⟨-, hseconds, -⟩ := Settings.ofConfig_ok hs.settings
  refine ⟨?_, ?_, ?_⟩
  · intro now
    rw [← hseconds]
    rfl
  · intro net now freshId r m ms served
    rw [← hseconds, ← Settings.deadline?_eq_none_iff]
    rcases s.request_cases net now freshId r m ms with
      ⟨hbeyond, hserved⟩ | ⟨hwithin, response, hresponse⟩ | ⟨hwithin, hwaiting, hopen⟩
    · have hcrashed : served.delivery = .crashed := congrArg Service.delivery hserved
      refine ⟨iff_of_true hcrashed hbeyond, fun _ => ⟨?_, ?_, ?_⟩, fun hne => absurd hcrashed hne⟩
      · exact congrArg Service.logs hserved
      · exact congrArg Service.samples hserved
      · exact congrArg Service.sent hserved
    · have hdelivery : served.delivery ≠ .crashed := by
        rw [hresponse]
        nofun
      exact ⟨iff_of_false hdelivery hwithin, fun h => absurd h hdelivery, fun _ _ => ⟨response, hresponse⟩⟩
    · have hdelivery : served.delivery ≠ .crashed := by
        rw [hwaiting]
        nofun
      refine ⟨iff_of_false hdelivery hwithin, fun h => absurd h hdelivery, ?_⟩
      rintro - ⟨x, hx, hpassed⟩
      rw [hopen x hx] at hpassed
      cases hpassed
  · intro seconds next
    refine ⟨Config.validate_withTimeout hc seconds, fun hrun => ?_⟩
    rw [update_ok hrun (hs.settings_withTimeout seconds)]
    exact ⟨hs.settings_withTimeout seconds, rfl⟩

/-- A request that is to be turned away, one second after the clock began. It is answered under the
default timeout, and crashes after an update to the greatest timeout that a file can name. -/
theorem request_crashed_iff_reloaded :
    let next := ({} : Config).withTimeout 9223372036854775807
    let r : Http.Request := ⟨"TRACE", ⟨"/api/x", none⟩, [], .complete []⟩
    let document := "[timeouts]\nrequest_secs = 9223372036854775807\n"
    Config.load (.content (Utf8.encode document)) none {} = .ok next ∧
      ∃ s, start {} = .ok s ∧
        (∃ response, (s.request .isolated 1 "id" r [{ deadlinePassed := true }]).delivery =
          .response response) ∧
        ((s.update next).1.request .isolated 1 "id" r [{ deadlinePassed := true }]).delivery = .crashed := by
  intro next r document
  let settings : Settings :=
    ⟨⟨⟨⟨"https", some { host := .domain "www.memverse.com" }, .segments [""], none, none⟩,
      ["/.netlify/functions/api", "/api"]⟩, {}, false⟩, 30, 6291456⟩
  have hsettings : Settings.ofConfig {} = .ok settings := by decide +kernel
  let s : Server := { settings, baseline := {} }
  have hstart : start {} = .ok s := by
    unfold start
    rw [hsettings]
    rfl
  have hload : Config.load (.content (Utf8.encode document)) none {} = .ok next := by decide +kernel
  have hroute : isRouted r = true := by decide +kernel
  have hvalid : ({} : Config).validate = .ok {} := by decide +kernel
  obtain ⟨-, hrequest, hupdate⟩ := request_crashed_iff hvalid (s := s) (start_runs hstart).1
  obtain ⟨haccepted, hruns⟩ := hupdate 9223372036854775807
  obtain ⟨-, hreloaded, -⟩ := request_crashed_iff (haccepted.2 (by decide)) (hruns nofun)
  obtain ⟨hcrashed, -, hanswered⟩ := hrequest .isolated 1 "id" r { deadlinePassed := true } []
  have hgoes : (s.request .isolated 1 "id" r [{ deadlinePassed := true }]).delivery ≠ .crashed := by
    intro hcrash
    exact absurd (hcrashed.1 hcrash).2 (by decide)
  refine ⟨hload, s, hstart, hanswered hgoes ⟨_, List.mem_singleton.2 rfl, rfl⟩, ?_⟩
  exact (hreloaded .isolated 1 "id" r { deadlinePassed := true } []).1.2 ⟨hroute, by decide⟩

end Server

end Relay
