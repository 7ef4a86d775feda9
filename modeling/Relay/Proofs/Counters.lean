import Mathlib.Algebra.BigOperators.Group.Finset.Defs
import Relay.Proofs.Calls

/-!
The counters against the calls of the forwarder. Along every run of requests and events each call counts
once, when it returns: so the three counters stay in step, and who is turned away leaves no trace.
-/

namespace Relay

/-! ### Activities of a server -/

/-- What happens one after another: steps of the server, and events that are handled beside it. -/
inductive Activity
  | step (step : Server.Step)
  | event (forwarder : Forwarder) (net : Network) (text : String)

theorem InFlight.service_samples (f : InFlight) :
    f.service.samples = (f.handler.map (·.record.samples)).getD [] := by
  unfold InFlight.service
  cases f.handler with
  | none => rfl
  | some h =>
    dsimp only
    cases h.phase <;> rfl

namespace Server

def poll? (s : Server) : Step → Option (Handler × Moment)
  | .begin _ net now freshId r m =>
    (InFlight.start s.settings net now freshId r).handler.map fun h => (h, s.moment m)
  | .wake id m => (s.inFlight id).bind fun f => f.handler.map fun h => (h, s.moment m)
  | _ => none

def stepSamples (s : Server) : Step → List Sample
  | .begin id net now freshId r m => (s.begin id net now freshId r m).2.samples
  | .wake id m => ((s.wake id m).2.map (·.samples)).getD []
  | _ => []

theorem stepSamples_eq (s : Server) (st : Step) :
    s.stepSamples st = ((s.poll? st).map fun p =>
      (p.1.poll p.2).record.samples.drop p.1.record.samples.length).getD [] := by
  cases st with
  | begin id net now freshId r m =>
    show ((InFlight.start s.settings net now freshId r).poll (s.moment m)).service.samples = _
    rw [InFlight.service_samples]
    unfold InFlight.poll InFlight.start poll? InFlight.start
    dsimp only
    split <;> rfl
  | wake id m =>
    unfold stepSamples wake poll?
    dsimp only
    cases s.inFlight id with
    | none => rfl
    | some f =>
      show (f.poll (s.moment m)).service.samples.drop f.service.samples.length = _
      rw [InFlight.service_samples, InFlight.service_samples, Option.bind_some]
      unfold InFlight.poll
      dsimp only
      cases f.handler <;> rfl
  | _ => rfl

theorem poll?_some {s : Server} {st : Step} {h : Handler} {m : Moment} (hpoll : s.poll? st = some (h, m)) :
    ∃ id f, st.id? = some id ∧ (s.step st).inFlight id = some f ∧ f.handler = some (h.poll m) ∧
      (h.record = {} ∨ ∃ g, s.inFlight id = some g ∧ g.handler = some h) := by
  cases st with
  | begin id net now freshId r moment =>
    obtain ⟨h', hstart, heq⟩ := Option.map_eq_some_iff.1 hpoll
    obtain ⟨rfl, rfl⟩ := Prod.mk.inj heq
    refine ⟨id, _, rfl, if_pos rfl, ?_, .inl ?_⟩
    · show (InFlight.start s.settings net now freshId r).handler.map _ = _
      rw [hstart]
      rfl
    · unfold InFlight.start at hstart
      dsimp only at hstart
      split at hstart
      · rw [← Option.some.inj hstart]
      · cases hstart
  | wake id moment =>
    obtain ⟨f, hf, hhandler⟩ := Option.bind_eq_some_iff.1 hpoll
    obtain ⟨h', hh, heq⟩ := Option.map_eq_some_iff.1 hhandler
    obtain ⟨rfl, rfl⟩ := Prod.mk.inj heq
    have hstep : s.step (.wake id moment) = s.setInFlight id (some (f.poll (s.moment moment))) := by
      show (s.wake id moment).1 = _
      unfold wake
      rw [hf]
    refine ⟨id, f.poll (s.moment moment), rfl, ?_, ?_, .inr ⟨f, hf, hh⟩⟩
    · rw [hstep]
      exact if_pos rfl
    · show f.handler.map _ = _
      rw [hh]
      rfl
  | _ => cases hpoll

theorem step_inFlight {s : Server} {st : Step} {id : Nat} {f : InFlight}
    (hf : (s.step st).inFlight id = some f) :
    s.inFlight id = some f ∨
      ∀ h, f.handler = some h → ∃ before m, s.poll? st = some (before, m) ∧ h = before.poll m := by
  -- a step touches no request but its own
  by_cases hid : st.id? = some id
  · cases st with
    | begin n net now freshId r m =>
      obtain rfl : n = id := Option.some.inj hid
      change (if n = n then some _ else _) = some f at hf
      rw [if_pos rfl] at hf
      obtain rfl := Option.some.inj hf
      refine .inr ?_
      intro h hh
      obtain ⟨before, hbefore, rfl⟩ := Option.map_eq_some_iff.1 hh
      exact ⟨before, s.moment m, Option.map_eq_some_iff.2 ⟨before, hbefore, rfl⟩, rfl⟩
    | wake n m =>
      obtain rfl : n = id := Option.some.inj hid
      change (s.wake n m).1.inFlight n = some f at hf
      unfold wake at hf
      cases hn : s.inFlight n with
      | none =>
        rw [hn] at hf
        exact .inl (hn.symm.trans hf)
      | some g =>
        rw [hn] at hf
        change (if n = n then some _ else _) = some f at hf
        rw [if_pos rfl] at hf
        obtain rfl := Option.some.inj hf
        refine .inr ?_
        intro h hh
        obtain ⟨before, hbefore, rfl⟩ := Option.map_eq_some_iff.1 hh
        refine ⟨before, s.moment m, Option.bind_eq_some_iff.2 ⟨g, hn, ?_⟩, rfl⟩
        exact Option.map_eq_some_iff.2 ⟨before, hbefore, rfl⟩
    | complete n =>
      obtain rfl : n = id := Option.some.inj hid
      refine .inl ?_
      change (s.complete n).1.inFlight n = some f at hf
      unfold complete at hf
      cases hn : s.inFlight n with
      | none =>
        rw [hn] at hf
        exact hn.symm.trans hf
      | some g =>
        rw [hn] at hf
        dsimp only at hf
        split at hf
        · exact hn.symm.trans hf
        · change (if n = n then none else _) = some f at hf
          rw [if_pos rfl] at hf
          cases hf
    | _ => cases hid
  · rw [step_inFlight_other hid] at hf
    exact .inl hf

/-- Nothing has been counted for what is in flight without an answer. -/
def Settled (s : Server) : Prop :=
  ∀ id f h, s.inFlight id = some f → f.handler = some h → h.Uncounted

theorem start_settled {c : Config} {s : Server} (hstart : start c = .ok s) : s.Settled := by
  unfold start at hstart
  obtain ⟨settings, -, hstart⟩ := bind_eq_ok.1 hstart
  obtain rfl := Except.ok.inj hstart
  intro id f h hf
  cases hf

theorem Settled.poll? {s : Server} (hsettled : s.Settled) {st : Step} {h : Handler} {m : Moment}
    (hpoll : s.poll? st = some (h, m)) : h.Uncounted := by
  obtain ⟨id, f, -, -, -, hnew | ⟨g, hg, hh⟩⟩ := poll?_some hpoll
  · intro _
    rw [hnew]
  · exact hsettled id g h hg hh

theorem Settled.step {s : Server} (hsettled : s.Settled) (st : Step) : (s.step st).Settled := by
  intro id f h hf hh
  rcases step_inFlight hf with hbefore | hpolled
  · exact hsettled id f h hbefore hh
  · obtain ⟨before, m, hpoll, rfl⟩ := hpolled h hh
    exact (hsettled.poll? hpoll).poll m

end Server

/-! What happens makes at most one call of the forwarder and gives at most one answer. -/

namespace Activity

variable (s : Server)

def call? : Activity → Option Forwarder.Call
  | .step st => (s.poll? st).bind fun p => p.1.call? p.2
  | .event f net text => f.eventCall? net text

def returned? (a : Activity) : Option Forwarder.Call := (a.call? s).filter fun c => c.answer?.isSome

def answer? : Activity → Option Answer
  | .step st => (s.poll? st).bind fun p => p.1.given? p.2
  | .event f net text => (f.handleEvent net text).1

def samples : Activity → List Sample
  | .step st => s.stepSamples st
  | .event f net text => (f.handleEvent net text).2.samples

def Rejects : Activity → Fault → Prop
  | .step st, fault => ∃ h m, s.poll? st = some (h, m) ∧ h.Rejects m fault
  | .event _ _ text, fault => Forwarder.EventRejects text fault

def after : Activity → Server
  | .step st => s.step st
  | .event _ _ _ => s

/-- A call has not returned: its request is still in flight, or its event never gets an answer. -/
def Waits (c : Forwarder.Call) : Activity → Prop
  | .step st => ∃ id f h isHeld, st.id? = some id ∧ (s.step st).inFlight id = some f ∧
    f.handler = some h ∧ h.phase = .forwarding c.inbound isHeld
  | .event f net text => (f.handleEvent net text).1 = none

variable {s}

theorem accounts (hsettled : s.Settled) (a : Activity) :
    Accounts (a.Rejects s) (a.call? s) (a.answer? s) (a.samples s) := by
  cases a with
  | event f net text => exact f.handleEvent_accounts net text
  | step st =>
    unfold call? answer? samples
    dsimp only
    rw [Server.stepSamples_eq]
    cases hpoll : s.poll? st with
    | none => exact .idle
    | some p =>
      have haccounts := (hsettled.poll? hpoll).accounts p.2
      dsimp only [Option.bind_some, Option.map_some, Option.getD_some]
      generalize p.1.call? p.2 = call, p.1.given? p.2 = given,
        (p.1.poll p.2).record.samples.drop p.1.record.samples.length = counted at haccounts
      cases haccounts with
      | idle => exact .idle
      | rejected hrejects => exact .rejected ⟨p.1, p.2, hpoll, hrejects⟩
      | called c => exact .called c

theorem samples_eq (hsettled : s.Settled) (a : Activity) :
    a.samples s = (a.returned? s).toList.flatMap Forwarder.Call.samples := by
  have haccounts := a.accounts hsettled
  unfold returned?
  cases hcall : a.call? s with
  | none =>
    rw [hcall] at haccounts
    exact haccounts.of_none.1
  | some c =>
    rw [hcall] at haccounts
    rw [haccounts.of_some.1, Option.filter_some]
    cases hanswer : c.answer? with
    | some answer => exact (List.flatMap_singleton _ c).symm
    | none => exact Forwarder.Call.samples_of_waiting hanswer

theorem Rejects.answer? {a : Activity} {fault : Fault} (h : a.Rejects s fault) :
    a.call? s = none ∧ a.answer? s = some (.ofFault fault) := by
  cases a with
  | event f net text => exact Forwarder.EventRejects.handleEvent h
  | step st =>
    obtain ⟨handler, m, hpoll, hrejects⟩ := h
    obtain ⟨hopen, hcall, hanswer, -⟩ := hrejects.poll
    unfold call? Activity.answer?
    dsimp only
    rw [hpoll]
    refine ⟨hcall, ?_⟩
    show handler.given? m = _
    rw [Handler.given?, hopen]
    exact hanswer

theorem waits_of_call? {a : Activity} {c : Forwarder.Call} (hcall : a.call? s = some c)
    (hopen : c.answer? = none) : a.Waits s c := by
  cases a with
  | event f net text =>
    have haccounts := f.handleEvent_accounts net text
    change f.eventCall? net text = some c at hcall
    rw [hcall] at haccounts
    exact haccounts.of_some.2.trans hopen
  | step st =>
    obtain ⟨⟨h, m⟩, hpoll, hmade⟩ := Option.bind_eq_some_iff.1 hcall
    obtain ⟨id, f, hid, hf, hh, -⟩ := Server.poll?_some hpoll
    change h.call? m = some c at hmade
    rcases h.poll_does m with ⟨hnone, -⟩ | ⟨fault, hrejects⟩ | ⟨c', hc', -, hafter⟩
    · rw [hmade] at hnone
      cases hnone
    · have hnone := hrejects.poll.2.1
      rw [hmade] at hnone
      cases hnone
    · rw [hmade] at hc'
      obtain rfl := Option.some.inj hc'
      obtain ⟨isHeld, hphase⟩ := hafter.waits hopen
      exact ⟨id, f, h.poll m, isHeld, hid, hf, hh, hphase⟩

end Activity

/-! ### Runs -/

namespace Server

def counted (s : Server) : List Activity → List Sample
  | [] => []
  | a :: acts => a.samples s ++ (a.after s).counted acts

def returned (s : Server) : List Activity → List Forwarder.Call
  | [] => []
  | a :: acts => (a.returned? s).toList ++ (a.after s).returned acts

def after (s : Server) (acts : List Activity) : Server := acts.foldl (fun s a => a.after s) s

theorem Settled.after {s : Server} (hsettled : s.Settled) (acts : List Activity) : (s.after acts).Settled := by
  induction acts generalizing s with
  | nil => exact hsettled
  | cons a acts ih =>
    cases a with
    | step st => exact ih (hsettled.step st)
    | event f net text => exact ih hsettled

/-- All that is counted are the samples of the calls that return. -/
theorem Settled.counted_eq {s : Server} (hsettled : s.Settled) (acts : List Activity) :
    s.counted acts = (s.returned acts).flatMap Forwarder.Call.samples := by
  induction acts generalizing s with
  | nil => rfl
  | cons a acts ih =>
    have hrest : (a.after s).counted acts = ((a.after s).returned acts).flatMap Forwarder.Call.samples :=
      ih (hsettled.after [a])
    rw [counted, returned, List.flatMap_append, ← a.samples_eq hsettled, hrest]

theorem returned_isSome (s : Server) (acts : List Activity) :
    ∀ c ∈ s.returned acts, c.answer?.isSome = true := by
  induction acts generalizing s with
  | nil => exact fun c hc => nomatch hc
  | cons a acts ih =>
    intro c hc
    rcases List.mem_append.1 hc with hc | hc
    · exact (Option.filter_eq_some_iff.1 (Option.mem_toList.1 hc)).2
    · exact ih _ c hc

end Server

/-! ### Counters -/

def Sample.outcome? : Sample → Option String
  | .request _ _ outcome => some outcome
  | _ => none

namespace Forwarder.Call

/-! What a call adds to each counter is one if it belongs there, and nothing otherwise. -/

theorem countP_request (c : Call) (method : String) (status : UInt16) (outcome : String) :
    c.samples.countP (· == .request method status outcome) =
      if c.method = method ∧ c.returned? = some (status, outcome) then 1 else 0 := by
  rw [samples_eq, returned?]
  cases c.result <;> simp [List.countP_cons]

theorem countP_duration (c : Call) (method : String) :
    c.samples.countP (· == .duration method) =
      if c.method = method ∧ c.returned?.isSome = true then 1 else 0 := by
  rw [samples_eq, returned?]
  cases c.result <;> simp [List.countP_cons]

theorem countP_failure (c : Call) {kind : String} (hkind : kind ≠ "upstream") :
    c.samples.countP (· == .failure kind) =
      if c.returned?.map (·.2) = some kind then 1 else 0 := by
  rw [samples_eq, returned?]
  cases c.result <;> simp [List.countP_cons, hkind.symm]

theorem countP_outcome (c : Call) (outcome : String) :
    c.samples.countP (·.outcome? = some outcome) =
      if c.returned?.map (·.2) = some outcome then 1 else 0 := by
  rw [samples_eq, returned?]
  cases c.result <;> simp [List.countP_cons, Sample.outcome?]

end Forwarder.Call

namespace Server

theorem countP_flatMap_samples {p : Sample → Bool} {q : Forwarder.Call → Prop} [DecidablePred q]
    (h : ∀ c, c.samples.countP p = if q c then 1 else 0) (calls : List Forwarder.Call) :
    (calls.flatMap Forwarder.Call.samples).countP p = calls.countP (fun c => q c) := by
  induction calls with
  | nil => rfl
  | cons c calls ih =>
    rw [List.flatMap_cons, List.countP_append, h, ih, List.countP_cons]
    by_cases hc : q c
    · rw [if_pos hc, if_pos (decide_eq_true hc), Nat.add_comm]
    · rw [if_neg hc, if_neg (by simpa using hc), Nat.zero_add, Nat.add_zero]

theorem returned_append (s : Server) (front back : List Activity) :
    s.returned (front ++ back) = s.returned front ++ (s.after front).returned back := by
  induction front generalizing s with
  | nil => rfl
  | cons a front ih =>
    rw [List.cons_append, returned, returned, ih, List.append_assoc]
    rfl

/-- Along every run each call of the forwarder counts once, when it returns: as a request with its
method, its status and its outcome, as a duration, and unless it relays a reply as a failure. Every answer
comes from a call that returns with its status, or goes to who is turned away, which counts nothing. A
call that is not counted still waits. -/
theorem counted_agrees {config : Config} {s : Server} (hstart : start config = .ok s) (acts : List Activity) :
    let counted := s.counted acts
    let calls := s.returned acts
    (∀ method status outcome, counted.count (.request method status outcome) =
      calls.countP fun c => c.method = method ∧ c.returned? = some (status, outcome)) ∧
    (∀ method, counted.count (.duration method) = calls.countP fun c => c.method = method) ∧
    (∀ kind, kind ≠ "upstream" → counted.count (.failure kind) =
      ∑ x ∈ counted.toFinset with x.outcome? = some kind, counted.count x) ∧
    ∀ front a back, acts = front ++ a :: back → let now := s.after front
      (∀ fault, a.Rejects now fault →
        a.samples now = [] ∧ a.call? now = none ∧ a.answer? now = some (.ofFault fault)) ∧
      (∀ answer, a.answer? now = some answer → (∃ fault, a.Rejects now fault) ∨
        ∃ c ∈ calls, a.call? now = some c ∧ c.answer? = some answer ∧
          ((∃ reply, answer = .relay reply c.forwarder.mergeHeaders ∧
              c.returned? = some (answer.status, "upstream")) ∨
            ∃ fault, answer = .ofFault fault ∧ c.returned? = some (answer.status, fault.kind))) ∧
      ∀ c, a.call? now = some c → a.answer? now = c.answer? ∧ (c ∈ calls ∨ a.Waits now c) := by
  intro counted calls
  have hsettled := start_settled hstart
  have hcounted : counted = calls.flatMap Forwarder.Call.samples := hsettled.counted_eq acts
  refine ⟨?_, ?_, ?_, ?_⟩
  · intro method status outcome
    rw [hcounted]
    exact countP_flatMap_samples (fun c => c.countP_request method status outcome) calls
  · intro method
    have hreturned := countP_flatMap_samples (fun c => c.countP_duration method) calls
    rw [hcounted]
    refine hreturned.trans (List.countP_congr ?_)
    intro c hc
    -- every call in the list has returned
    have hanswer : c.answer?.isSome = true := s.returned_isSome acts c hc
    rw [c.isSome_returned?, hanswer]
    simp
  · intro kind hkind
    rw [Finset.sum_filter_count_eq_countP, hcounted]
    -- both count the calls that have returned with this outcome
    have hfailures := countP_flatMap_samples (fun c => c.countP_failure hkind) calls
    have hrequests := countP_flatMap_samples (fun c => c.countP_outcome kind) calls
    exact hfailures.trans hrequests.symm
  · rintro front a back rfl now
    have haccounts := a.accounts (hsettled.after front)
    -- a call that is made and returns at this point is among those that return along the run
    have hmem : ∀ c answer, a.call? now = some c → c.answer? = some answer → c ∈ calls := by
      intro c answer hcall hanswer
      have hreturns : a.returned? now = some c :=
        Option.filter_eq_some_iff.2 ⟨hcall, by rw [hanswer]; rfl⟩
      show c ∈ s.returned (front ++ a :: back)
      rw [returned_append]
      apply List.mem_append_right
      exact List.mem_append_left _ (Option.mem_toList.2 hreturns)
    refine ⟨?_, ?_, ?_⟩
    · intro fault hrejects
      obtain ⟨hcall, hanswer⟩ := hrejects.answer?
      rw [hcall] at haccounts
      exact ⟨haccounts.of_none.1, hcall, hanswer⟩
    · intro answer hgiven
      cases hcall : a.call? now with
      | none =>
        rw [hcall] at haccounts
        obtain ⟨fault, hrejects, -⟩ := haccounts.of_none.2 answer hgiven
        exact .inl ⟨fault, hrejects⟩
      | some c =>
        rw [hcall] at haccounts
        have hanswer : c.answer? = some answer := haccounts.of_some.2.symm.trans hgiven
        exact .inr ⟨c, hmem c answer hcall hanswer, rfl, hanswer, c.returned?_of_answer? hanswer⟩
    · intro c hcall
      rw [hcall] at haccounts
      refine ⟨haccounts.of_some.2, ?_⟩
      cases hanswer : c.answer? with
      | some answer => exact .inl (hmem c answer hcall hanswer)
      | none => exact .inr (Activity.waits_of_call? hcall hanswer)

/-- One request is relayed, one has no known method, and one waits until the server stops; an event is
not even JSON. Two calls count. -/
theorem counted_agrees_stopped :
    let net := Network.scripted [.answer 200 [] (.ok [])]
    let silent := Network.scripted [.silent]
    let get : Http.Request := ⟨"GET", ⟨"/api/x", none⟩, [], .complete []⟩
    let f : Forwarder := ⟨⟨⟨"http", some { host := .domain "origin.example" }, .segments [""], none, none⟩,
      ["/api"]⟩, {}, true⟩
    let acts : List Activity := [.step (.begin 0 net 0 "a" get {}),
      .step (.begin 1 net 0 "b" { get with method := "TRACE" } {}), .step (.begin 2 silent 0 "c" get {}),
      .event f net "\x7b\"", .step .stop, .step (.wake 2 {})]
    ∃ s, start {} = .ok s ∧
      ((s.returned acts).countP fun c => c.method = "GET" ∧ c.returned? = some (200, "upstream")) = 1 ∧
      ((s.returned acts).countP fun c => c.method = "GET") = 2 ∧ "cancelled" ≠ "upstream" ∧
      ∑ x ∈ (s.counted acts).toFinset with x.outcome? = some "cancelled", (s.counted acts).count x = 1 := by
  intro net silent get f acts
  let settings : Settings :=
    ⟨⟨⟨⟨"https", some { host := .domain "www.memverse.com" }, .segments [""], none, none⟩,
      ["/.netlify/functions/api", "/api"]⟩, {}, false⟩, 30, 6291456⟩
  have hsettings : Settings.ofConfig {} = .ok settings := by decide +kernel
  let s : Server := { settings, baseline := {} }
  have hstart : start {} = .ok s := by
    unfold start
    rw [hsettings]
    rfl
  have hcounted : s.counted acts = [.request "GET" 200 "upstream", .duration "GET",
      .failure "cancelled", .request "GET" 500 "cancelled", .duration "GET"] := by decide +kernel
  obtain ⟨hrequest, hduration, hfailure, -⟩ := counted_agrees hstart acts
  refine ⟨s, hstart, ?_, ?_, by decide, ?_⟩
  · rw [← hrequest, hcounted]
    decide +kernel
  · rw [← hduration, hcounted]
    decide +kernel
  · rw [← hfailure "cancelled" (by decide), hcounted]
    decide +kernel

end Server

end Relay
