import Relay.CommandLine
import Relay.Invoke
import Relay.Server
import Relay.Watcher

/-!
The long-running program: it loads its configuration, serves requests, follows changes of its
configuration file, and stops on a signal.
-/

namespace Relay.Serve

def options : List CommandLine.Spec := [
  { long := "config", short := some 'c', allowsEmpty := false },
  { long := "upstream", short := some 'u' },
  { long := "bind", short := some 'b' }]

inductive Error
  | load (cause : Config.LoadError)
  | setup (cause : Forwarder.SetupError)
deriving DecidableEq, Repr

structure Program where
  config : Config
  server : Server
  watch : Option Watcher.Watch

inductive Start
  | running (program : Program)
  | failed (error : Error)
  | misuse
  | help

def start (s : Invoke.Surroundings) : Start :=
  match CommandLine.parse options s.args with
  | .error .help => .help
  | .error .misuse => .misuse
  | .ok given =>
    let file := (given.value? "config").map (Invoke.configFile s.files)
    let overrides : Config.Overrides :=
      { origin := given.value? "upstream", bindAddress := given.value? "bind" }
    match Config.resolve file s.environment overrides with
    | .error e => .failed (.load e)
    | .ok config =>
      match Server.start config with
      | .error e => .failed (.setup e)
      | .ok server =>
        .running { config, server,
                   watch := file.map fun file => { watcher := { environment := s.environment, overrides }
                                                   file } }

def Program.startEvents (p : Program) : List LogEvent :=
  let info := fun message => ({ level := .info, message } : LogEvent)
  [info "starting", info "Configuration loaded"] ++
    (if p.config.observability.metricsEnabled then [info "Metrics exporter listening"] else []) ++
    (if p.watch.isSome then [info "Config watcher started"] else []) ++
    [info "Listening for connections", info "HTTP server starting"]

def stopEvents : List LogEvent :=
  let info := fun message => ({ level := .info, message } : LogEvent)
  [info "Shutdown signal received", Server.stopEvent, Server.closeEvent, info "Shutdown complete"]

def reloadEvents : Watcher.Reload → List LogEvent
  | .reloaded c => [⟨.info, "Config file changed, reloading", [("upstream", .text c.origin.origin)]⟩]
  | .unchanged => [⟨.debug, "Config file touched without changes", []⟩]
  | .failed e => [⟨.error, "Failed to reload config, keeping current configuration",
      [("error", .text (e.message?.getD ""))]⟩]

def Program.replaceFile (p : Program) (bytes : Bytes) : Program × List LogEvent :=
  match p.watch with
  | none => (p, [])
  | some watch =>
    match watch.step (.written bytes) with
    | (watch, none) => ({ p with watch := some watch }, [])
    | (watch, some outcome) =>
      let (server, events) := match outcome.sent? with
        | some config => p.server.update config
        | none => (p.server, [])
      ({ p with watch := some watch, server }, reloadEvents outcome ++ events)

/-! ### Which events are shown -/

def Level.rank : Level → Nat
  | .error => 1
  | .warn => 2
  | .info => 3
  | .debug => 4

def rankOfName? (name : String) : Option Nat :=
  let names := ["off", "error", "warn", "info", "debug", "trace"]
  match names.findIdx? (· == Ascii.lower name) with
  | some i => some i
  | none => (List.range 6).find? fun i => toString i == name

/-- The part of a filter that concerns this program: `level`, or `target=level`. -/
def rankOfDirective? (directive : String) : Option Nat :=
  match directive.toList.span (· ≠ '=') with
  | (name, []) => rankOfName? (String.ofList name)
  | (target, _ :: level) =>
    if "memverse_proxy".startsWith (String.ofList target) then rankOfName? (String.ofList level)
    else none

/-- The rank up to which events are shown: that of the last part of the filter that applies. -/
def shownRank (filter : Option String) (c : ObservabilityConfig) : Nat :=
  let ranks := fun (text : String) =>
    ((text.toList.splitOn ',').map (fun part => trimBlanks (String.ofList part))).filterMap rankOfDirective?
  let text := match filter with
    | some text => if text = "" then ObservabilityConfig.directive c.logLevel else text
    | none => ObservabilityConfig.directive c.logLevel
  ((ranks text).getLast?).getD 1

def isShown (rank : Nat) (e : LogEvent) : Bool := Level.rank e.level ≤ rank

end Relay.Serve
