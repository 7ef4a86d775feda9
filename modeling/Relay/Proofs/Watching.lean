import Mathlib.Data.List.Destutter
import Relay.Proofs.Loading
import Relay.Watcher

/-!
Reloads one after another. A watcher remembers the configuration that was loaded last, so that what it
sends is what could be loaded, without repetitions in a row; files that could not be loaded in between
leave no trace.
-/

namespace Relay.Watcher

def reloads (w : Watcher) : List Config.File → Watcher × List Config
  | [] => (w, [])
  | file :: files =>
    let (next, outcome) := w.reload file
    let (last, sent) := next.reloads files
    (last, outcome.sent?.toList ++ sent)

def loaded (w : Watcher) (files : List Config.File) : List Config :=
  files.filterMap fun file => (Config.load file w.environment w.overrides).toOption

/-! ### One reload -/

theorem reload_cases (w : Watcher) (file : Config.File) :
    (∃ e, Config.load file w.environment w.overrides = .error e ∧ w.reload file = (w, .failed e)) ∨
    (∃ c, Config.load file w.environment w.overrides = .ok c ∧ w.lastSent = some c ∧
      w.reload file = (w, .unchanged)) ∨
    ∃ c, Config.load file w.environment w.overrides = .ok c ∧ w.lastSent ≠ some c ∧
      w.reload file = ({ w with lastSent := some c }, .reloaded c) := by
  unfold reload
  cases hload : Config.load file w.environment w.overrides with
  | error e => exact .inl ⟨e, rfl, rfl⟩
  | ok c =>
    dsimp only
    by_cases hlast : w.lastSent = some c
    · rw [if_pos hlast]
      exact .inr (.inl ⟨c, rfl, hlast, rfl⟩)
    · rw [if_neg hlast]
      exact .inr (.inr ⟨c, rfl, hlast, rfl⟩)

section

variable {w : Watcher} {file : Config.File}

theorem loaded_cons_error {e : Config.LoadError} (h : Config.load file w.environment w.overrides = .error e)
    (files : List Config.File) : w.loaded (file :: files) = w.loaded files := by
  unfold loaded
  rw [List.filterMap_cons_none (by rw [h]; rfl)]

theorem loaded_cons_ok {c : Config} (h : Config.load file w.environment w.overrides = .ok c)
    (files : List Config.File) : w.loaded (file :: files) = c :: w.loaded files := by
  unfold loaded
  rw [List.filterMap_cons_some (b := c) (by rw [h]; rfl)]

end

/-! ### A run of reloads -/

theorem reloads_fst (w : Watcher) (files : List Config.File) :
    (w.reloads files).1 = { w with lastSent := (w.lastSent.toList ++ w.loaded files).getLast? } := by
  induction files generalizing w with
  | nil =>
    have hlast : (w.lastSent.toList ++ w.loaded []).getLast? = w.lastSent := by
      cases w.lastSent <;> rfl
    show w = _
    rw [hlast]
  | cons file files ih =>
    show ((w.reload file).1.reloads files).1 = _
    rcases w.reload_cases file with
      ⟨e, hload, hreload⟩ | ⟨c, hload, hlast, hreload⟩ | ⟨c, hload, -, hreload⟩
    · rw [hreload, loaded_cons_error hload, ih]
    · rw [hreload, loaded_cons_ok hload, ih, hlast]
      rfl
    · rw [hreload, loaded_cons_ok hload, ih, List.getLast?_append_cons]
      rfl

/-- What was sent before and what is sent now is what was sent before and is loaded now, without
repetitions in a row. -/
theorem reloads_snd (w : Watcher) (files : List Config.File) :
    w.lastSent.toList ++ (w.reloads files).2 =
      (w.lastSent.toList ++ w.loaded files).destutter (· ≠ ·) := by
  induction files generalizing w with
  | nil =>
    show w.lastSent.toList ++ [] = _
    cases w.lastSent <;> rfl
  | cons file files ih =>
    show w.lastSent.toList ++
      ((w.reload file).2.sent?.toList ++ ((w.reload file).1.reloads files).2) = _
    rcases w.reload_cases file with
      ⟨e, hload, hreload⟩ | ⟨c, hload, hlast, hreload⟩ | ⟨c, hload, hnew, hreload⟩
    · rw [hreload, loaded_cons_error hload]
      exact ih w
    · -- the repetition is dropped on both sides
      rw [hreload, loaded_cons_ok hload]
      have hrest := ih w
      rw [hlast] at hrest ⊢
      show c :: (w.reloads files).2 = (c :: c :: w.loaded files).destutter (· ≠ ·)
      rw [List.destutter_cons', List.destutter'_cons_neg _ (fun hne => hne rfl)]
      exact hrest
    · rw [hreload, loaded_cons_ok hload]
      have hrest : c :: (reloads { w with lastSent := some c } files).2 =
          (c :: w.loaded files).destutter (· ≠ ·) := ih { w with lastSent := some c }
      show w.lastSent.toList ++ c :: (reloads { w with lastSent := some c } files).2 = _
      rw [hrest]
      cases hlast : w.lastSent with
      | none => rfl
      | some d =>
        have hne : d ≠ c := fun heq => hnew (by rw [hlast, heq])
        show d :: (c :: w.loaded files).destutter (· ≠ ·) = (d :: c :: w.loaded files).destutter (· ≠ ·)
        rw [List.destutter_cons', List.destutter_cons', List.destutter'_cons_pos _ hne]

/-- A watcher that has sent nothing yet sends what can be loaded of the files it finds, without
repetitions in a row, and in the end remembers what was loaded last. All that is sent keeps the rules
and has what the command line names; a file that cannot be loaded changes nothing. -/
theorem reloads_sent (environment : Option String) (o : Config.Overrides) (files : List Config.File) :
    let after := ({ environment, overrides := o } : Watcher).reloads files
    let loaded := files.filterMap fun file => (Config.load file environment o).toOption
    after.2 = loaded.destutter (· ≠ ·) ∧
    after.1 = { environment, overrides := o, lastSent := loaded.getLast? } ∧
    (∀ c ∈ after.2, c.validate = .ok c ∧ (∀ origin, o.origin = some origin → c.origin.origin = origin) ∧
      ∀ address, o.bindAddress = some address → c.listener.bindAddress = address) ∧
    ∀ file e, Config.load file environment o = .error e → after.1.reload file = (after.1, .failed e) := by
  intro after loaded
  have hsent : after.2 = loaded.destutter (· ≠ ·) := reloads_snd { environment, overrides := o } files
  have hlast : after.1 = { environment, overrides := o, lastSent := loaded.getLast? } :=
    reloads_fst { environment, overrides := o } files
  refine ⟨hsent, hlast, ?_, ?_⟩
  · -- what is sent was loaded, so it has passed the checks with the command line applied
    intro c hc
    rw [hsent] at hc
    obtain ⟨file, -, hfile⟩ := List.mem_filterMap.1 ((List.destutter_sublist _ loaded).subset hc)
    have hload : Config.load file environment o = .ok c := by
      cases hresult : Config.load file environment o with
      | error e =>
        rw [hresult] at hfile
        cases hfile
      | ok d =>
        rw [hresult] at hfile
        exact congrArg Except.ok (Option.some.inj hfile)
    obtain ⟨f, hc, hvalid⟩ := Config.load_ok hload
    refine ⟨Config.validate_eq_ok_iff.2 ⟨hvalid, rfl⟩, fun origin ho => ?_, fun address ho => ?_⟩
    · rw [hc, Config.layered, ho]
      rfl
    · rw [hc, Config.layered, ho]
      rfl
  · intro file e he
    rw [hlast]
    unfold reload
    dsimp only
    rw [he]

/-- A file that goes missing, is broken twice and comes back in between: what is sent are the three
changes that could be loaded. -/
theorem reloads_sent_restored :
    let file := fun document => Config.File.content (Utf8.encode document)
    let o : Config.Overrides := { bindAddress := some "127.0.0.1:0" }
    let one : Config := { listener := { bindAddress := "127.0.0.1:0" } }
    let two : Config := { one with timeouts := { requestSeconds := 5 } }
    let slow := file "[timeouts]\nrequest_secs=5"
    let zero := file "[timeouts]\nrequest_secs=0"
    let after := ({ environment := none, overrides := o } : Watcher).reloads
      [file "", .missing, file "", zero, slow, file "[", slow, file ""]
    after.2 = [one, two, one] ∧ after.1.lastSent = some one ∧ two.validate = .ok two ∧
      after.1.reload (file "[") = (after.1, .failed (.malformed .notToml)) := by
  -- only what each file comes to matters
  have changes : ∀ (o : Config.Overrides) (plain slow zero broken : Config.File) (one two : Config),
      Config.load plain none o = .ok one → Config.load slow none o = .ok two →
      Config.load zero none o = .error (.invalid [.zeroTimeout]) →
      Config.load broken none o = .error (.malformed .notToml) → one ≠ two →
      let after := ({ environment := none, overrides := o } : Watcher).reloads
        [plain, .missing, plain, zero, slow, broken, slow, plain]
      after.2 = [one, two, one] ∧ after.1.lastSent = some one ∧ two.validate = .ok two ∧
        after.1.reload broken = (after.1, .failed (.malformed .notToml)) := by
    intro o plain slow zero broken one two hone htwo hzero hbroken hne after
    obtain ⟨hsent, hlast, hall, hfail⟩ := reloads_sent none o
      [plain, .missing, plain, zero, slow, broken, slow, plain]
    have hmissing : Config.load .missing none o = .error .missingFile := rfl
    simp only [List.filterMap_cons, List.filterMap_nil, hone, htwo, hzero, hbroken, hmissing,
      Except.toOption] at hsent hlast
    have hkept : [one, one, two, two, one].destutter (· ≠ ·) = [one, two, one] := by
      simp [List.destutter, List.destutter', hne, hne.symm]
    rw [hkept] at hsent
    refine ⟨hsent, congrArg Watcher.lastSent hlast, ?_, hfail _ _ hbroken⟩
    apply (hall two _).1
    rw [hsent]
    exact List.mem_cons_of_mem one List.mem_cons_self
  exact changes _ _ _ _ _ _ _ (by decide +kernel) (by decide +kernel) (by decide +kernel)
    (by decide +kernel) (fun heq => absurd (congrArg (·.timeouts.requestSeconds) heq) (by decide))

end Relay.Watcher
