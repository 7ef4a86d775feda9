import Relay.Config.Load
import Relay.Proofs.Text

/-!
The layers of the configuration: defaults, file, environment and command line. Starting without a
file is like starting with an empty one, except that the environment is then checked before the
command line can replace what it says.
-/

namespace Relay.Config

def environmentOrigin (environment : Option String) : String :=
  ((environment.map trimBlanks).filter (· ≠ "")).getD ({} : OriginConfig).origin

def Overrides.address (o : Overrides) : String := o.bindAddress.getD ({} : ListenerConfig).bindAddress

def defaultsWith (origin bindAddress : String) : Config :=
  { listener := { bindAddress }, origin := { origin } }

/-! ### Layers over the defaults -/

theorem applyEnvironment_defaults (environment : Option String) :
    applyEnvironment environment {} =
      defaultsWith (environmentOrigin environment) ({} : ListenerConfig).bindAddress := by
  unfold applyEnvironment environmentOrigin
  cases environment.map trimBlanks with
  | none => rfl
  | some text =>
    by_cases hblank : text = ""
    · simp [Option.filter, hblank, defaultsWith]
    · simp [Option.filter, hblank, defaultsWith]

theorem apply_defaults (o : Overrides) (environment : Option String) :
    o.apply (applyEnvironment environment {}) =
      defaultsWith (o.origin.getD (environmentOrigin environment)) o.address := by
  rw [applyEnvironment_defaults]
  rfl

/-- Over the defaults only the origin and the address can be wrong. -/
theorem violations_defaultsWith (origin bindAddress : String) :
    (defaultsWith origin bindAddress).violations =
      ((originFault? origin).map (Violation.origin origin)).toList ++
        (if SocketAddress.isValid bindAddress then [] else [.bindAddress bindAddress]) := by
  have hprefixes : ({} : OriginConfig).mountPrefixes.filter (!isMountPrefix ·) = [] := by decide +kernel
  by_cases hvalid : SocketAddress.isValid bindAddress = true
  · simp [violations, defaultsWith, hprefixes, hvalid]
  · simp [violations, defaultsWith, hprefixes, hvalid]

theorem violations_defaultsWith_eq_nil_iff {origin bindAddress : String} :
    (defaultsWith origin bindAddress).violations = [] ↔
      originFault? origin = none ∧ SocketAddress.isValid bindAddress = true := by
  rw [violations_defaultsWith]
  simp

theorem violations_defaultsWith_eq_origin_iff {origin bindAddress text : String} {fault : OriginFault}
    (h : originFault? text = some fault) :
    (defaultsWith origin bindAddress).violations = [.origin text fault] ↔
      origin = text ∧ SocketAddress.isValid bindAddress = true := by
  rw [violations_defaultsWith]
  by_cases hvalid : SocketAddress.isValid bindAddress = true
  · -- the violation names the text, so that no other text has it
    cases hfault : originFault? origin with
    | none =>
      have hne : origin ≠ text := by
        rintro rfl
        rw [h] at hfault
        cases hfault
      simp [hvalid, hne]
    | some other =>
      have hsame : origin = text → other = fault := by
        rintro rfl
        exact Option.some.inj (hfault.symm.trans h)
      simpa [hvalid] using hsame
  · -- the address adds a violation of its own
    cases originFault? origin <;> simp [hvalid]

theorem validate_eq_ok_iff {c d : Config} : c.validate = .ok d ↔ c.violations = [] ∧ d = c := by
  unfold validate
  cases c.violations with
  | nil => simp [eq_comm]
  | cons v vs => simp

theorem checked_eq_ok_iff {c d : Config} : checked c = .ok d ↔ c.violations = [] ∧ d = c := by
  rw [← validate_eq_ok_iff]
  unfold checked
  cases c.validate with
  | ok e => simp
  | error vs => simp

theorem checked_eq_invalid_iff {c : Config} {v : Violation} {vs : List Violation} :
    checked c = .error (.invalid (v :: vs)) ↔ c.violations = v :: vs := by
  unfold checked validate
  cases c.violations with
  | nil => simp
  | cons w ws => simp

/-! ### With an empty file, and without a file -/

theorem resolve_emptyFile {bytes : Bytes} {document : String} (htext : Utf8.decode? bytes = some document)
    (hempty : Toml.parse? document = some []) (environment : Option String) (o : Overrides) :
    resolve (some (.content bytes)) environment o =
      checked (defaultsWith (o.origin.getD (environmentOrigin environment)) o.address) := by
  have hdefaults : ofToml document = .ok {} := by
    unfold ofToml
    rw [hempty]
    rfl
  unfold resolve load
  simp only [htext, hdefaults, apply_defaults]

theorem resolve_none_of_good {environment : Option String}
    (h : originFault? (environmentOrigin environment) = none) (o : Overrides) :
    resolve none environment o =
      checked (defaultsWith (o.origin.getD (environmentOrigin environment)) o.address) := by
  have hvalid : SocketAddress.isValid ({} : ListenerConfig).bindAddress = true := by decide +kernel
  have hload : loadDefault environment = .ok (applyEnvironment environment {}) := by
    unfold loadDefault
    rw [checked_eq_ok_iff, applyEnvironment_defaults, violations_defaultsWith_eq_nil_iff]
    exact ⟨⟨h, hvalid⟩, rfl⟩
  unfold resolve
  rw [hload, ← apply_defaults]
  rfl

theorem resolve_none_of_bad {environment : Option String} {fault : OriginFault}
    (h : originFault? (environmentOrigin environment) = some fault) (o : Overrides) :
    resolve none environment o = .error (.invalid [.origin (environmentOrigin environment) fault]) := by
  have hvalid : SocketAddress.isValid ({} : ListenerConfig).bindAddress = true := by decide +kernel
  have hload : loadDefault environment =
      .error (.invalid [.origin (environmentOrigin environment) fault]) := by
    unfold loadDefault
    rw [checked_eq_invalid_iff, applyEnvironment_defaults, violations_defaultsWith_eq_origin_iff h]
    exact ⟨rfl, hvalid⟩
  unfold resolve
  rw [hload]
  rfl

/-- Starting without a file differs from starting with an empty one exactly if the environment names a
bad origin and the command line replaces it or names a bad address. The bad origin is then the one and
only error, while with the file the command line decides. -/
theorem resolve_none_eq_emptyFile_iff {bytes : Bytes} {document : String}
    (htext : Utf8.decode? bytes = some document) (hempty : Toml.parse? document = some [])
    (environment : Option String) (o : Overrides) :
    let origin := environmentOrigin environment
    (resolve none environment o = resolve (some (.content bytes)) environment o ↔
      originFault? origin = none ∨
        o.origin.getD origin = origin ∧ SocketAddress.isValid o.address = true) ∧
    (∀ fault, originFault? origin = some fault →
      resolve none environment o = .error (.invalid [.origin origin fault])) ∧
    ∀ c, resolve (some (.content bytes)) environment o = .ok c ↔
      (originFault? (o.origin.getD origin) = none ∧ SocketAddress.isValid o.address = true) ∧
        c = { listener := { bindAddress := o.address }, origin := { origin := o.origin.getD origin } } := by
  intro origin
  have hfile := resolve_emptyFile htext hempty environment o
  refine ⟨?_, fun fault hfault => resolve_none_of_bad hfault o, fun c => ?_⟩
  · cases hfault : originFault? origin with
    | none =>
      rw [hfile, resolve_none_of_good hfault]
      exact ⟨fun _ => .inl rfl, fun _ => rfl⟩
    | some fault =>
      rw [hfile, resolve_none_of_bad hfault, eq_comm, checked_eq_invalid_iff,
        violations_defaultsWith_eq_origin_iff hfault]
      constructor
      · exact .inr
      · rintro (hnone | hsame)
        · cases hnone
        · exact hsame
  · rw [hfile, checked_eq_ok_iff, violations_defaultsWith_eq_nil_iff]
    rfl

/-- The environment names no web server at all, and the command line a good one: with an empty file,
here one with a comment, it is used, and without a file the program does not start. -/
theorem resolve_none_eq_emptyFile_iff_replaced :
    let bytes := Utf8.encode "# nothing yet\n"
    let o : Overrides := { origin := some "http://127.0.0.1:4000" }
    resolve none (some " nope ") o = .error (.invalid [.origin "nope" (.notUrl .relativeWithoutBase)]) ∧
      resolve (some (.content bytes)) (some " nope ") o =
        .ok { origin := { origin := "http://127.0.0.1:4000" } } ∧
      resolve none (some " nope ") o ≠ resolve (some (.content bytes)) (some " nope ") o := by
  intro bytes o
  have horigin : environmentOrigin (some " nope ") = "nope" := by decide +kernel
  have hbad : originFault? "nope" = some (.notUrl .relativeWithoutBase) := by decide +kernel
  have hgood : originFault? "http://127.0.0.1:4000" = none := by decide +kernel
  have haddress : SocketAddress.isValid o.address = true := by decide +kernel
  have htext : Utf8.decode? bytes = some "# nothing yet\n" := Utf8.decode?_encode _
  have hempty : Toml.parse? "# nothing yet\n" = some [] := by rfl
  obtain ⟨hiff, herror, hfile⟩ := resolve_none_eq_emptyFile_iff htext hempty (some " nope ") o
  rw [horigin] at hiff herror hfile
  refine ⟨herror _ hbad, (hfile _).2 ⟨⟨hgood, haddress⟩, rfl⟩, fun hsame => ?_⟩
  rcases hiff.1 hsame with hnone | ⟨horigins, -⟩
  · rw [hbad] at hnone
    cases hnone
  · exact absurd horigins (by decide)

end Relay.Config
