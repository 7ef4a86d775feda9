import Relay.Proofs.Layers

/-!
Loading a configuration file. The environment and the command line are laid over what the file says,
and the result is checked as a whole: it is taken exactly if it keeps every rule, and otherwise every
rule that is broken is reported once, in order. What a higher layer replaces is never looked at.
-/

namespace Relay.Config

/-! ### Layers over a file -/

def environmentOrigin? (environment : Option String) : Option String :=
  (environment.map trimBlanks).filter (· ≠ "")

/-- A configuration under the environment and the command line. The origin is that of the command line,
or else of the environment; the address that of the command line; all else stays. -/
def layered (f : Config) (environment : Option String) (o : Overrides) : Config :=
  { f with
    origin := { f.origin with
      origin := o.origin.getD ((environmentOrigin? environment).getD f.origin.origin) }
    listener := { f.listener with bindAddress := o.bindAddress.getD f.listener.bindAddress } }

theorem apply_applyEnvironment (f : Config) (environment : Option String) (o : Overrides) :
    o.apply (applyEnvironment environment f) = layered f environment o := by
  unfold applyEnvironment layered environmentOrigin?
  cases environment.map trimBlanks with
  | none => rfl
  | some text =>
    by_cases hblank : text = ""
    · simp [Overrides.apply, Option.filter, hblank]
    · simp [Overrides.apply, Option.filter, hblank]

theorem load_of_ofToml {bytes : Bytes} {document : String} {f : Config}
    (htext : Utf8.decode? bytes = some document) (hf : ofToml document = .ok f)
    (environment : Option String) (o : Overrides) :
    load (.content bytes) environment o = checked (layered f environment o) := by
  unfold load
  simp only [htext, hf, apply_applyEnvironment]

theorem load_ok {file : File} {environment : Option String} {o : Overrides} {c : Config}
    (h : load file environment o = .ok c) :
    ∃ f, c = layered f environment o ∧ c.violations = [] := by
  unfold load at h
  cases file with
  | missing => cases h
  | content bytes =>
    dsimp only at h
    split at h
    · cases h
    · split at h
      · cases h
      · rename_i f _
        rw [apply_applyEnvironment, checked_eq_ok_iff] at h
        obtain ⟨hnone, rfl⟩ := h
        exact ⟨f, rfl, hnone⟩

theorem layered_congr {f f' : Config} {environment environment' : Option String} {o : Overrides}
    (hrest : f' = { f with
      origin := { f.origin with origin := f'.origin.origin }
      listener := { f.listener with bindAddress := f'.listener.bindAddress } })
    (horigin : o.origin = none → environmentOrigin? environment' = environmentOrigin? environment ∧
      (environmentOrigin? environment = none → f'.origin.origin = f.origin.origin))
    (haddress : o.bindAddress = none → f'.listener.bindAddress = f.listener.bindAddress) :
    layered f' environment' o = layered f environment o := by
  have hname : o.origin.getD ((environmentOrigin? environment').getD f'.origin.origin) =
      o.origin.getD ((environmentOrigin? environment).getD f.origin.origin) := by
    cases ho : o.origin with
    | some origin => rfl
    | none =>
      obtain ⟨hsame, hfile⟩ := horigin ho
      rw [hsame]
      cases he : environmentOrigin? environment with
      | some origin => rfl
      | none => exact hfile he
  have hbind : o.bindAddress.getD f'.listener.bindAddress =
      o.bindAddress.getD f.listener.bindAddress := by
    cases hb : o.bindAddress with
    | some address => rfl
    | none => exact haddress hb
  unfold layered
  rw [hname, hbind, hrest]

/-! ### The rules -/

inductive Rule
  | origin (text : String)
  | mountPrefix (text : String)
  | bindAddress (text : String)
  | metricsAddress (text : String)
  | timeout (seconds : UInt64)
deriving DecidableEq, Repr

namespace Rule

/-- An origin is the URL of a web server with nothing behind its name, and no slash either. A prefix
starts with a slash and does not end with one. Addresses can be read, and a timeout is not zero. -/
def Holds : Rule → Prop
  | origin text => text.toList.getLast? ≠ some '/' ∧
    ∃ url, Url.parse text = .ok url ∧ (url.scheme = "http" ∨ url.scheme = "https") ∧
      url.host?.isSome = true ∧ url.path.text = "/" ∧ url.query = none ∧ url.fragment = none
  | mountPrefix text => text.toList.head? = some '/' ∧ text.toList.getLast? ≠ some '/'
  | bindAddress text => SocketAddress.isValid text = true
  | metricsAddress text => SocketAddress.isValid text = true
  | timeout seconds => 0 < seconds

theorem holds_origin_iff (text : String) : (origin text).Holds ↔ originFault? text = none := by
  simp only [Holds, originFault?]
  cases Url.parse text with
  | error e => simp
  | ok url =>
    have hscheme : (url.scheme = "http" ∨ url.scheme = "https") ↔
        ¬(url.scheme ≠ "http" ∧ url.scheme ≠ "https") := by tauto
    have hhost : url.host?.isSome = true ↔ ¬url.host?.isNone = true := by
      cases url.host? <;> simp
    have hpath : (url.path.text = "/" ∧ text.toList.getLast? ≠ some '/') ↔
        ¬(url.path.text ≠ "/" ∨ text.toList.getLast? = some '/') := by tauto
    have htail : (url.query = none ∧ url.fragment = none) ↔
        ¬(url.query.isSome = true ∨ url.fragment.isSome = true) := by simp
    dsimp only
    constructor
    · rintro ⟨hslash, u, hu, hweb, hnamed, hroot, hquery, hfragment⟩
      obtain rfl := Except.ok.inj hu
      rw [if_neg (hscheme.1 hweb), if_neg (hhost.1 hnamed), if_neg (hpath.1 ⟨hroot, hslash⟩),
        if_neg (htail.1 ⟨hquery, hfragment⟩)]
    · -- no fault is left, so every check has been passed
      intro hnone
      split at hnone
      · cases hnone
      rename_i hweb
      split at hnone
      · cases hnone
      rename_i hnamed
      split at hnone
      · cases hnone
      rename_i hbare
      split at hnone
      · cases hnone
      rename_i hends
      obtain ⟨hroot, hslash⟩ := hpath.2 hbare
      exact ⟨hslash, url, rfl, hscheme.2 hweb, hhost.2 hnamed, hroot, htail.2 hends⟩

theorem holds_mountPrefix_iff (text : String) : (mountPrefix text).Holds ↔ isMountPrefix text = true := by
  simp [Holds, isMountPrefix]

theorem holds_timeout_iff (seconds : UInt64) : (timeout seconds).Holds ↔ seconds ≠ 0 := by
  simp only [Holds]
  rw [UInt64.lt_iff_toNat_lt, Ne, ← UInt64.toNat_inj]
  exact Nat.pos_iff_ne_zero

instance (r : Rule) : Decidable r.Holds :=
  match r with
  | origin text => decidable_of_iff _ (holds_origin_iff text).symm
  | mountPrefix text => decidable_of_iff _ (holds_mountPrefix_iff text).symm
  | bindAddress text => inferInstanceAs (Decidable (SocketAddress.isValid text = true))
  | metricsAddress text => inferInstanceAs (Decidable (SocketAddress.isValid text = true))
  | timeout seconds => inferInstanceAs (Decidable (0 < seconds))

end Rule

/-- The rules for a configuration, in the order in which they are checked: one for each prefix, and one
for the address of the counters only if these are shown at all. -/
def rules (c : Config) : List Rule :=
  [.origin c.origin.origin] ++ c.origin.mountPrefixes.map .mountPrefix ++
    [.bindAddress c.listener.bindAddress] ++
    (if c.observability.metricsEnabled then [.metricsAddress c.observability.metricsAddress] else []) ++
    [.timeout c.timeouts.requestSeconds]

def Violation.rule : Violation → Rule
  | .origin text _ => .origin text
  | .mountPrefix text => .mountPrefix text
  | .bindAddress text => .bindAddress text
  | .metricsAddress text => .metricsAddress text
  | .zeroTimeout => .timeout 0

theorem violations_map_rule (c : Config) :
    c.violations.map Violation.rule = c.rules.filter (¬·.Holds) := by
  -- part by part, as both lists are put together
  have horigin : ((originFault? c.origin.origin).map (Violation.origin c.origin.origin)).toList.map
      Violation.rule = [Rule.origin c.origin.origin].filter (¬·.Holds) := by
    cases hfault : originFault? c.origin.origin with
    | none => simp [Rule.holds_origin_iff, hfault]
    | some fault => simp [Rule.holds_origin_iff, hfault, Violation.rule]
  have hprefixes : ((c.origin.mountPrefixes.filter (!isMountPrefix ·)).map Violation.mountPrefix).map
      Violation.rule = (c.origin.mountPrefixes.map Rule.mountPrefix).filter (¬·.Holds) := by
    rw [List.map_map, List.filter_map]
    apply congrArg
    apply List.filter_congr
    intro text _
    simp [Rule.holds_mountPrefix_iff]
  have hbind : (if SocketAddress.isValid c.listener.bindAddress then []
      else [Violation.bindAddress c.listener.bindAddress]).map Violation.rule =
      [Rule.bindAddress c.listener.bindAddress].filter (¬·.Holds) := by
    by_cases hvalid : SocketAddress.isValid c.listener.bindAddress = true
    · simp [Rule.Holds, hvalid]
    · simp [Rule.Holds, hvalid, Violation.rule]
  have hmetrics : (if c.observability.metricsEnabled ∧
        ¬SocketAddress.isValid c.observability.metricsAddress then
        [Violation.metricsAddress c.observability.metricsAddress] else []).map Violation.rule =
      (if c.observability.metricsEnabled then [Rule.metricsAddress c.observability.metricsAddress]
        else []).filter (¬·.Holds) := by
    by_cases henabled : c.observability.metricsEnabled = true
    · by_cases hvalid : SocketAddress.isValid c.observability.metricsAddress = true
      · simp [Rule.Holds, henabled, hvalid]
      · simp [Rule.Holds, henabled, hvalid, Violation.rule]
    · simp [henabled]
  have htimeout : (if c.timeouts.requestSeconds = 0 then [Violation.zeroTimeout] else []).map
      Violation.rule = [Rule.timeout c.timeouts.requestSeconds].filter (¬·.Holds) := by
    by_cases hzero : c.timeouts.requestSeconds = 0
    · simp [Rule.Holds, hzero, Violation.rule]
    · simp [Rule.holds_timeout_iff, hzero]
  unfold violations rules
  simp only [List.map_append, List.filter_append, horigin, hprefixes, hbind, hmetrics, htimeout]

theorem violations_eq_nil_iff (c : Config) : c.violations = [] ↔ ∀ r ∈ c.rules, r.Holds := by
  rw [← List.map_eq_nil_iff (f := Violation.rule), violations_map_rule, List.filter_eq_nil_iff]
  simp

theorem checked_eq_error_iff {c : Config} {e : LoadError} :
    checked c = .error e ↔ c.violations ≠ [] ∧ e = .invalid c.violations := by
  unfold checked validate
  cases c.violations with
  | nil => simp
  | cons v vs => simp [eq_comm]

/-! ### What a file comes to -/

/-- A file that holds a configuration is loaded as that configuration under the environment and the
command line, exactly if every rule holds there. Otherwise each rule that is broken is reported, once
and in order. Values that a higher layer replaces change nothing. -/
theorem load_layered {bytes : Bytes} {document : String} {f : Config}
    (htext : Utf8.decode? bytes = some document) (hf : ofToml document = .ok f)
    (environment : Option String) (o : Overrides) :
    let c := layered f environment o
    (∀ d, load (.content bytes) environment o = .ok d ↔ (∀ r ∈ c.rules, r.Holds) ∧ d = c) ∧
    (∀ e, load (.content bytes) environment o = .error e ↔
      (∃ r ∈ c.rules, ¬r.Holds) ∧ e = .invalid c.violations) ∧
    c.violations.map Violation.rule = c.rules.filter (¬·.Holds) ∧
    ∀ bytes' document' f' environment', Utf8.decode? bytes' = some document' →
      ofToml document' = .ok f' →
      f' = { f with
        origin := { f.origin with origin := f'.origin.origin }
        listener := { f.listener with bindAddress := f'.listener.bindAddress } } →
      (o.origin = none → environmentOrigin? environment' = environmentOrigin? environment ∧
        (environmentOrigin? environment = none → f'.origin.origin = f.origin.origin)) →
      (o.bindAddress = none → f'.listener.bindAddress = f.listener.bindAddress) →
      load (.content bytes') environment' o = load (.content bytes) environment o := by
  intro c
  have hload := load_of_ofToml htext hf environment o
  have hbroken : (∃ r ∈ c.rules, ¬r.Holds) ↔ c.violations ≠ [] := by
    rw [Ne, violations_eq_nil_iff]
    simp
  refine ⟨fun d => ?_, fun e => ?_, violations_map_rule c, ?_⟩
  · rw [hload, checked_eq_ok_iff, violations_eq_nil_iff]
  · rw [hload, checked_eq_error_iff, hbroken]
  · intro bytes' document' f' environment' htext' hf' hrest horigin haddress
    rw [hload, load_of_ofToml htext' hf', layered_congr hrest horigin haddress]

/-- A bad prefix that stands there twice, one in between, and a timeout of zero are reported. The bad
origins of the file and of the environment are replaced, so that a file without one comes to the same. -/
theorem load_layered_replaced :
    let rest := "mount_prefixes=[\"a\",\"/b/\",\"a\"]\n[timeouts]\nrequest_secs=0"
    let document := "[upstream]\norigin=\"x\"\n" ++ rest
    let bare := "[upstream]\n" ++ rest
    let o : Overrides := { origin := some "http://cli.example" }
    load (.content (Utf8.encode document)) (some " http://env.example/ ") o =
      .error (.invalid [.mountPrefix "a", .mountPrefix "/b/", .mountPrefix "a", .zeroTimeout]) ∧
    load (.content (Utf8.encode bare)) none o =
      load (.content (Utf8.encode document)) (some " http://env.example/ ") o := by
  intro rest document bare o
  let plain : Config :=
    { origin := { mountPrefixes := ["a", "/b/", "a"] }, timeouts := { requestSeconds := 0 } }
  let f : Config := { plain with origin := { plain.origin with origin := "x" } }
  have hf : ofToml document = .ok f := by decide +kernel
  have hplain : ofToml bare = .ok plain := by decide +kernel
  have hviolations : (layered f (some " http://env.example/ ") o).violations =
      [.mountPrefix "a", .mountPrefix "/b/", .mountPrefix "a", .zeroTimeout] := by decide +kernel
  obtain ⟨-, herror, -, hsame⟩ :=
    load_layered (Utf8.decode?_encode document) hf (some " http://env.example/ ") o
  rw [hviolations] at herror
  refine ⟨(herror _).2 ⟨⟨.timeout 0, ?_, by decide⟩, rfl⟩, ?_⟩
  · exact List.mem_append_right _ (List.mem_singleton.2 rfl)
  · exact hsame _ _ _ none (Utf8.decode?_encode bare) hplain rfl (fun h => nomatch h) (fun _ => rfl)

end Relay.Config
