import Mathlib.Data.Set.Card
import Relay.Shutdown

/-!
The shutdown signal under any order of steps. A waiter that is looked at is done exactly if there was
a trigger before, whenever it was made and looked at first and however many messages it missed; the
flag and the number of listeners are what the steps so far make them.
-/

namespace Relay.Shutdown

/-! ### States along a run -/

def after (s : Shutdown) (steps : List Step) : Shutdown :=
  steps.foldl (fun s st => (s.step st).1) s

theorem after_concat (s : Shutdown) (steps : List Step) (st : Step) :
    s.after (steps ++ [st]) = ((s.after steps).step st).1 := by
  unfold after
  rw [List.foldl_append]
  rfl

theorem run_append (s : Shutdown) (front back : List Step) :
    s.run (front ++ back) = s.run front ++ (s.after front).run back := by
  induction front generalizing s with
  | nil => rfl
  | cons st front ih =>
    show s.step st :: (s.step st).1.run (front ++ back) = _
    rw [ih]
    rfl

/-! ### Who is alive -/

/-- A place is held after some steps: `make` gave it out under the number `i`, and no step since has
ended it. Whether a step does so may depend on the steps before it. -/
def Held (make : Step) (ends : List Step → Step → Prop) (steps : List Step) (i : Nat) : Prop :=
  ∃ front back, steps = front ++ make :: back ∧ front.count make = i ∧
    ∀ past st rest, back = past ++ st :: rest → ¬ends (front ++ make :: past) st

def ReceiverAlive (steps : List Step) (i : Nat) : Prop :=
  Held .subscribe (fun _ st => st = .dropReceiver i) steps i

def WaiterAlive (steps : List Step) (i : Nat) : Prop :=
  Held .wait (fun past st => st = .dropWaiter i ∨ st = .poll i ∧ ((after {} past).poll i).2 = .ready)
    steps i

theorem held_concat {make : Step} {ends : List Step → Step → Prop} {steps : List Step} {st : Step}
    {i : Nat} :
    Held make ends (steps ++ [st]) i ↔
      (st = make ∧ steps.count make = i) ∨ (Held make ends steps i ∧ ¬ends steps st) := by
  constructor
  · rintro ⟨front, back, hsteps, hcount, hkept⟩
    -- the last step made the place, or came after it was made
    rcases List.eq_nil_or_concat back with rfl | ⟨back, last, rfl⟩
    · obtain ⟨rfl, hlast⟩ := List.append_inj' hsteps rfl
      exact .inl ⟨(List.cons.inj hlast).1, hcount⟩
    · rw [List.concat_eq_append, ← List.cons_append, ← List.append_assoc] at hsteps
      obtain ⟨rfl, hlast⟩ := List.append_inj' hsteps rfl
      obtain rfl := (List.cons.inj hlast).1
      rw [List.concat_eq_append] at hkept
      refine .inr ⟨⟨front, back, rfl, hcount, ?_⟩, hkept back st [] rfl⟩
      rintro past x rest rfl
      exact hkept past x (rest ++ [st]) (by simp)
  · rintro (⟨rfl, hcount⟩ | ⟨⟨front, back, rfl, hcount, hkept⟩, hlast⟩)
    · exact ⟨steps, [], rfl, hcount, by simp⟩
    · refine ⟨front, back ++ [st], by simp, hcount, ?_⟩
      intro past x rest hback
      rcases List.eq_nil_or_concat rest with rfl | ⟨rest, y, rfl⟩
      · obtain ⟨rfl, hx⟩ := List.append_inj' hback rfl
        obtain rfl := (List.cons.inj hx).1
        exact hlast
      · rw [List.concat_eq_append, ← List.cons_append, ← List.append_assoc] at hback
        exact hkept past x rest (List.append_inj' hback rfl).1

/-! ### Places -/

section

variable {α : Type} {places : List (Option α)} {i j : Nat}

theorem isTaken_concat (last : Option α) :
    isTaken (places ++ [last]) i = true ↔
      (last.isSome = true ∧ places.length = i) ∨ isTaken places i = true := by
  unfold isTaken
  rcases Nat.lt_trichotomy i places.length with hlt | rfl | hgt
  · rw [List.getElem?_append_left hlt]
    simp [Nat.ne_of_gt hlt]
  · simp
  · rw [List.getElem?_eq_none (by simp; omega), List.getElem?_eq_none (by omega)]
    simp [Nat.ne_of_lt hgt]

theorem isTaken_set_none :
    isTaken (places.set j none) i = true ↔ isTaken places i = true ∧ j ≠ i := by
  unfold isTaken
  by_cases hij : j = i
  · subst hij
    rw [List.getElem?_set_self']
    cases places[j]? <;> simp
  · rw [List.getElem?_set_ne hij]
    simp [hij]

theorem isTaken_set_some {x y : α} (h : places[j]? = some (some x)) :
    isTaken (places.set j (some y)) i = isTaken places i := by
  unfold isTaken
  by_cases hij : j = i
  · subst hij
    rw [List.getElem?_set_self', h]
    rfl
  · rw [List.getElem?_set_ne hij]

theorem encard_taken (places : List (Option α)) :
    {i | isTaken places i = true}.encard = places.countP (·.isSome) := by
  induction places using List.reverseRecOn with
  | nil => simp [isTaken]
  | append_singleton places last ih =>
    simp only [isTaken_concat, List.countP_append]
    cases last with
    | none => simpa using ih
    | some x =>
      have hinsert : {i | (some x).isSome = true ∧ places.length = i ∨ isTaken places i = true} =
          insert places.length {i | isTaken places i = true} := by
        ext i
        simp [eq_comm (a := i)]
      have hnew : places.length ∉ {i | isTaken places i = true} := by simp [isTaken]
      rw [hinsert, Set.encard_insert_of_notMem hnew, ih]
      simp

end

/-! ### What a step does -/

theorem poll_cases (s : Shutdown) (i : Nat) :
    (∃ w, s.waiters[i]? = some (some w) ∧ s.isDone w = true ∧
      s.poll i = ({ s with waiters := s.waiters.set i none }, .ready)) ∨
    (∃ w, s.waiters[i]? = some (some w) ∧ s.isDone w = false ∧
      s.poll i = ({ s with waiters := s.waiters.set i (some { w with started := true }) }, .pending)) ∨
    (isTaken s.waiters i = false ∧ s.poll i = (s, .gone)) := by
  unfold poll isTaken
  cases hplace : s.waiters[i]? with
  | none => exact .inr (.inr ⟨rfl, rfl⟩)
  | some place =>
    cases place with
    | none => exact .inr (.inr ⟨rfl, rfl⟩)
    | some w =>
      cases hdone : s.isDone w with
      | true => exact .inl ⟨w, rfl, hdone, by simp [hdone]⟩
      | false => exact .inr (.inl ⟨w, rfl, hdone, by simp [hdone]⟩)

theorem receive_keeps (s : Shutdown) (i : Nat) :
    ∃ receivers, (s.receive i).1 = { s with receivers } ∧
      receivers.length = s.receivers.length ∧ ∀ j, isTaken receivers j = isTaken s.receivers j := by
  unfold receive
  split
  · rename_i next hplace
    have hmoved : ∀ n, (s.receivers.set i (some n)).length = s.receivers.length ∧
        ∀ j, isTaken (s.receivers.set i (some n)) j = isTaken s.receivers j :=
      fun n => ⟨List.length_set, fun j => isTaken_set_some hplace⟩
    split
    · exact ⟨s.receivers, rfl, rfl, fun j => rfl⟩
    · split
      · exact ⟨_, rfl, hmoved _⟩
      · exact ⟨_, rfl, hmoved _⟩
  · exact ⟨s.receivers, rfl, rfl, fun j => rfl⟩

theorem step_receivers (s : Shutdown) (st : Step) :
    (s.step st).1.receivers.length = s.receivers.length + [st].count .subscribe ∧
    ∀ i, isTaken (s.step st).1.receivers i = true ↔
      (st = .subscribe ∧ s.receivers.length = i) ∨
        (isTaken s.receivers i = true ∧ st ≠ .dropReceiver i) := by
  cases st with
  | subscribe =>
    refine ⟨List.length_append, fun i => ?_⟩
    show isTaken (s.receivers ++ [some s.messages]) i = true ↔ _
    rw [isTaken_concat]
    simp
  | dropReceiver j =>
    refine ⟨List.length_set, fun i => ?_⟩
    show isTaken (s.receivers.set j none) i = true ↔ _
    rw [isTaken_set_none]
    simp
  | receive j =>
    obtain ⟨receivers, hstate, hlength, hkept⟩ := s.receive_keeps j
    show (s.receive j).1.receivers.length = _ ∧ ∀ i, isTaken (s.receive j).1.receivers i = true ↔ _
    rw [hstate]
    exact ⟨hlength, fun i => by simp [hkept i]⟩
  | poll j =>
    have hkept : (s.poll j).1.receivers = s.receivers := by
      rcases s.poll_cases j with ⟨w, -, -, h⟩ | ⟨w, -, -, h⟩ | ⟨-, h⟩ <;> rw [h]
    show (s.poll j).1.receivers.length = _ ∧ ∀ i, isTaken (s.poll j).1.receivers i = true ↔ _
    rw [hkept]
    exact ⟨rfl, fun i => by simp⟩
  | _ => exact ⟨rfl, fun i => by simp [step, trigger, raise, send]⟩

theorem step_waiters (s : Shutdown) (st : Step) :
    (s.step st).1.waiters.length = s.waiters.length + [st].count .wait ∧
    ∀ i, isTaken (s.step st).1.waiters i = true ↔
      (st = .wait ∧ s.waiters.length = i) ∨ (isTaken s.waiters i = true ∧
        ¬(st = .dropWaiter i ∨ st = .poll i ∧ (s.poll i).2 = .ready)) := by
  cases st with
  | wait =>
    refine ⟨List.length_append, fun i => ?_⟩
    show isTaken (s.waiters ++ [some { next := s.messages }]) i = true ↔ _
    rw [isTaken_concat]
    simp
  | dropWaiter j =>
    refine ⟨List.length_set, fun i => ?_⟩
    show isTaken (s.waiters.set j none) i = true ↔ _
    rw [isTaken_set_none]
    simp
  | poll j =>
    show (s.poll j).1.waiters.length = _ ∧ ∀ i, isTaken (s.poll j).1.waiters i = true ↔ _
    rcases s.poll_cases j with ⟨w, hplace, -, h⟩ | ⟨w, hplace, -, h⟩ | ⟨hfree, h⟩
    · -- it is done, and its place is free from now on
      rw [h]
      refine ⟨List.length_set, fun i => ?_⟩
      rw [isTaken_set_none]
      by_cases hij : j = i
      · subst hij
        simp [h]
      · simp [hij]
    · -- it stays, and its place with it
      rw [h]
      refine ⟨List.length_set, fun i => ?_⟩
      rw [isTaken_set_some hplace]
      by_cases hij : j = i
      · subst hij
        simp [h]
      · simp [hij]
    · rw [h]
      refine ⟨rfl, fun i => ?_⟩
      by_cases hij : j = i
      · subst hij
        simp [h]
      · simp [hij]
  | receive j =>
    obtain ⟨receivers, hstate, -⟩ := s.receive_keeps j
    show (s.receive j).1.waiters.length = _ ∧ ∀ i, isTaken (s.receive j).1.waiters i = true ↔ _
    rw [hstate]
    exact ⟨rfl, fun i => by simp⟩
  | _ => exact ⟨rfl, fun i => by simp [step, trigger, raise, send]⟩

/-- Places that are given out and ended step by step are taken exactly if the history holds them. -/
theorem isTaken_iff_held {α : Type} {places : Shutdown → List (Option α)} {make : Step}
    {ends : Nat → List Step → Step → Prop} (hnone : places {} = [])
    (hstep : ∀ steps st, (places ((after {} steps).step st).1).length =
        (places (after {} steps)).length + [st].count make ∧
      ∀ i, isTaken (places ((after {} steps).step st).1) i = true ↔
        (st = make ∧ (places (after {} steps)).length = i) ∨
          (isTaken (places (after {} steps)) i = true ∧ ¬ends i steps st))
    (steps : List Step) :
    (places (after {} steps)).length = steps.count make ∧
      ∀ i, isTaken (places (after {} steps)) i = true ↔ Held make (ends i) steps i := by
  induction steps using List.reverseRecOn with
  | nil =>
    show (places {}).length = 0 ∧ ∀ i, isTaken (places {}) i = true ↔ _
    rw [hnone]
    exact ⟨rfl, fun i => by simp [isTaken, Held]⟩
  | append_singleton steps st ih =>
    -- the number of a new place is the number of places made before it
    obtain ⟨hlength, htaken⟩ := ih
    obtain ⟨hgrown, hchanged⟩ := hstep steps st
    rw [after_concat]
    constructor
    · rw [hgrown, hlength, List.count_append]
    · intro i
      rw [hchanged, held_concat, hlength, htaken]

theorem receiverAlive_iff (steps : List Step) (i : Nat) :
    ReceiverAlive steps i ↔ isTaken (after {} steps).receivers i = true := by
  let ends : Nat → List Step → Step → Prop := fun i _ st => st = .dropReceiver i
  have hstep := fun steps => step_receivers (after {} steps)
  exact ((@isTaken_iff_held _ Shutdown.receivers _ ends rfl hstep steps).2 i).symm

theorem waiterAlive_iff (steps : List Step) (i : Nat) :
    WaiterAlive steps i ↔ isTaken (after {} steps).waiters i = true := by
  let ends : Nat → List Step → Step → Prop := fun i past st =>
    st = .dropWaiter i ∨ st = .poll i ∧ ((after {} past).poll i).2 = .ready
  have hstep := fun steps => step_waiters (after {} steps)
  exact ((@isTaken_iff_held _ Shutdown.waiters _ ends rfl hstep steps).2 i).symm

/-! ### Waiters are done after a trigger -/

/-- What holds of a waiter between two steps. One that was looked at and is still there has either not
been called, or has a message to come. -/
structure Sound (s : Shutdown) : Prop where
  silent : s.triggered = false → s.messages = 0
  behind : ∀ w, some w ∈ s.waiters → w.next ≤ s.messages
  called : ∀ w, some w ∈ s.waiters → w.started = true → s.triggered = true → w.next < s.messages

theorem Sound.isDone_eq {s : Shutdown} (h : s.Sound) {w : Waiter} (hw : some w ∈ s.waiters) :
    s.isDone w = s.triggered := by
  unfold isDone
  cases htriggered : s.triggered with
  | false => simp [h.silent htriggered]
  | true =>
    cases hstarted : w.started with
    | false => rfl
    | true => simp [h.called w hw hstarted htriggered]

theorem Sound.withWaiters {s : Shutdown} (h : s.Sound) {waiters : List (Option Waiter)}
    (hnew : ∀ w, some w ∈ waiters → some w ∈ s.waiters ∨
      w.next ≤ s.messages ∧ (w.started = true → s.triggered = false)) :
    ({ s with waiters } : Shutdown).Sound where
  silent := h.silent
  behind := by
    intro w hw
    rcases hnew w hw with hold | ⟨hnext, -⟩
    · exact h.behind w hold
    · exact hnext
  called := by
    intro w hw hstarted htriggered
    rcases hnew w hw with hold | ⟨-, hquiet⟩
    · exact h.called w hold hstarted htriggered
    · rw [hquiet hstarted] at htriggered
      cases htriggered

theorem Sound.trigger {s : Shutdown} (h : s.Sound) : s.trigger.Sound := by
  -- whoever waits is a listener, so that the message is not lost
  have hsent : ∀ w, some w ∈ s.waiters → s.trigger.messages = s.messages + 1 := by
    intro w hw
    have hlistens : 0 < s.waiters.countP (·.isSome) := List.countP_pos_iff.2 ⟨some w, hw, rfl⟩
    have hcount : s.raise.receiverCount ≠ 0 := by
      show s.receivers.countP (·.isSome) + s.waiters.countP (·.isSome) ≠ 0
      omega
    exact if_neg hcount
  constructor
  · intro hquiet
    cases hquiet
  · intro w hw
    have hbehind := h.behind w hw
    rw [hsent w hw]
    omega
  · intro w hw hstarted htriggered
    have hbehind := h.behind w hw
    rw [hsent w hw]
    omega

theorem Sound.step {s : Shutdown} (h : s.Sound) (st : Step) : (s.step st).1.Sound := by
  cases st with
  | subscribe => exact ⟨h.silent, h.behind, h.called⟩
  | dropReceiver i => exact ⟨h.silent, h.behind, h.called⟩
  | receive i =>
    obtain ⟨receivers, hstate, -⟩ := s.receive_keeps i
    show (s.receive i).1.Sound
    rw [hstate]
    exact ⟨h.silent, h.behind, h.called⟩
  | trigger => exact h.trigger
  | wait =>
    apply h.withWaiters
    intro w hw
    rcases List.mem_append.1 hw with hold | hnew
    · exact .inl hold
    · obtain rfl := Option.some.inj (List.mem_singleton.1 hnew)
      exact .inr ⟨Nat.le_refl _, fun hstarted => by cases hstarted⟩
  | dropWaiter i =>
    apply h.withWaiters
    intro w hw
    rcases List.mem_or_eq_of_mem_set hw with hold | hnone
    · exact .inl hold
    · cases hnone
  | poll i =>
    show (s.poll i).1.Sound
    rcases s.poll_cases i with ⟨w, -, -, hpoll⟩ | ⟨w, hplace, hopen, hpoll⟩ | ⟨-, hpoll⟩
    · rw [hpoll]
      apply h.withWaiters
      intro x hx
      rcases List.mem_or_eq_of_mem_set hx with hold | hnone
      · exact .inl hold
      · cases hnone
    · -- it stays, so there was no trigger yet
      have hw : some w ∈ s.waiters := List.mem_of_getElem? hplace
      have hquiet : s.triggered = false := (h.isDone_eq hw).symm.trans hopen
      rw [hpoll]
      apply h.withWaiters
      intro x hx
      rcases List.mem_or_eq_of_mem_set hx with hold | hsame
      · exact .inl hold
      · obtain rfl := Option.some.inj hsame
        exact .inr ⟨h.behind w hw, fun _ => hquiet⟩
    · rw [hpoll]
      exact h

theorem step_triggered (s : Shutdown) (st : Step) :
    (s.step st).1.triggered = true ↔ s.triggered = true ∨ st = .trigger := by
  cases st with
  | trigger => exact ⟨fun _ => .inr rfl, fun _ => rfl⟩
  | poll i =>
    show (s.poll i).1.triggered = true ↔ _
    rcases s.poll_cases i with ⟨w, -, -, h⟩ | ⟨w, -, -, h⟩ | ⟨-, h⟩ <;> simp [h]
  | receive i =>
    obtain ⟨receivers, h, -⟩ := s.receive_keeps i
    show (s.receive i).1.triggered = true ↔ _
    simp [h]
  | _ => simp [step]

theorem after_sound (steps : List Step) :
    (after {} steps).Sound ∧ ((after {} steps).triggered = true ↔ .trigger ∈ steps) := by
  induction steps using List.reverseRecOn with
  | nil =>
    have hempty : ({} : Shutdown).Sound := ⟨fun _ => rfl, by simp, by simp⟩
    exact ⟨hempty, by simp [after]⟩
  | append_singleton steps st ih =>
    rw [after_concat, step_triggered, ih.2]
    exact ⟨ih.1.step st, by simp [eq_comm]⟩

theorem poll_of_alive {steps : List Step} {i : Nat} (h : WaiterAlive steps i) :
    ((after {} steps).poll i).2 = if .trigger ∈ steps then .ready else .pending := by
  obtain ⟨hsound, hflag⟩ := after_sound steps
  have htaken := (waiterAlive_iff steps i).1 h
  rcases (after {} steps).poll_cases i with ⟨w, hplace, hdone, hpoll⟩ | ⟨w, hplace, hdone, hpoll⟩ | ⟨hfree, -⟩
  · rw [hsound.isDone_eq (List.mem_of_getElem? hplace), hflag] at hdone
    rw [hpoll, if_pos hdone]
  · rw [hsound.isDone_eq (List.mem_of_getElem? hplace), Bool.eq_false_iff, ne_eq, hflag] at hdone
    rw [hpoll, if_neg hdone]
  · rw [htaken] at hfree
    cases hfree

/-- After any steps, the flag is set exactly if one of them was a trigger, the listeners are the
receivers and waiters that are alive, and looking at a waiter finds it done exactly if there was a
trigger before. -/
theorem run_signal (steps : List Step) :
    let s := after {} steps
    (∀ back, run {} (steps ++ back) = run {} steps ++ s.run back) ∧
      (s.triggered = true ↔ .trigger ∈ steps) ∧
      s.receiverCount = {i | ReceiverAlive steps i}.encard + {i | WaiterAlive steps i}.encard ∧
      ∀ i, WaiterAlive steps i →
        ((s.step (.poll i)).2 = .ready ↔ .trigger ∈ steps) ∧
        ((s.step (.poll i)).2 = .pending ↔ .trigger ∉ steps) := by
  intro s
  refine ⟨run_append {} steps, (after_sound steps).2, ?_, ?_⟩
  · simp only [receiverAlive_iff, waiterAlive_iff, encard_taken]
    exact Nat.cast_add _ _
  · intro i halive
    have hpoll : (s.step (.poll i)).2 = _ := poll_of_alive halive
    rw [hpoll]
    by_cases htrigger : Step.trigger ∈ steps
    · simp [htrigger]
    · simp [htrigger]

/-- One waiter is made and looked at before two triggers, another is made between them, and a third
has been dropped. The two that are left are done at their next look, and nobody counts the first of
them any more. -/
theorem run_signal_late :
    let steps : List Step := [.subscribe, .wait, .wait, .poll 0, .dropWaiter 1, .trigger, .wait, .trigger]
    WaiterAlive steps 0 ∧ ¬WaiterAlive steps 1 ∧ WaiterAlive (steps ++ [.poll 0]) 2 ∧
      ((after {} steps).step (.poll 0)).2 = .ready ∧
      ((after {} (steps ++ [.poll 0])).step (.poll 2)).2 = .ready ∧
      {i | ReceiverAlive (steps ++ [.poll 0]) i}.encard +
        {i | WaiterAlive (steps ++ [.poll 0]) i}.encard = 2 := by
  intro steps
  have hfirst : WaiterAlive steps 0 := (waiterAlive_iff steps 0).2 (by decide)
  have hdropped : ¬WaiterAlive steps 1 := fun h => absurd ((waiterAlive_iff steps 1).1 h) (by decide)
  have hsecond : WaiterAlive (steps ++ [.poll 0]) 2 := (waiterAlive_iff _ 2).2 (by decide)
  obtain ⟨-, -, -, hpoll⟩ := run_signal steps
  obtain ⟨-, -, hcount, hagain⟩ := run_signal (steps ++ [.poll 0])
  have hready := (hpoll 0 hfirst).1.2 (by decide)
  have hlate := (hagain 2 hsecond).1.2 (by decide)
  refine ⟨hfirst, hdropped, hsecond, hready, hlate, ?_⟩
  rw [← hcount]
  rfl

end Relay.Shutdown
