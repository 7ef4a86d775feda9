import Relay.CommandLine
import Relay.Config.Load
import Relay.Forwarder

/-!
The one-shot program: it reads an event, forwards it, and prints the answer.
-/

namespace Relay.Invoke

def options : List CommandLine.Spec := [
  { long := "config", short := some 'c', allowsEmpty := false },
  { long := "upstream", short := some 'u' },
  { long := "event", short := some 'e', allowsEmpty := false },
  { long := "pretty", takesValue := false }]

structure Surroundings where
  args : List String
  files : String → Option Bytes
  input : Bytes
  environment : Option String

inductive Error
  | load (cause : Config.LoadError)
  | missingEventFile
  | eventNotText
  | setup (cause : Forwarder.SetupError)
deriving DecidableEq, Repr

def configFile (files : String → Option Bytes) (path : String) : Config.File :=
  match files path with
  | some bytes => .content bytes
  | none => .missing

def eventText (s : Surroundings) (path : Option String) : Except Error String := do
  let bytes ← match path with
    | none => pure s.input
    | some path => match s.files path with
      | some bytes => pure bytes
      | none => throw .missingEventFile
  match Utf8.decode? bytes with
  | some text => return text
  | none => throw .eventNotText

def answer (s : Surroundings) (net : Network) (given : CommandLine.Given) :
    Except Error (Option Answer × Record) := do
  let file := (given.value? "config").map (configFile s.files)
  let overrides : Config.Overrides := { origin := given.value? "upstream" }
  let config ← (Config.resolve file s.environment overrides).mapError .load
  let text ← eventText s (given.value? "event")
  let forwarder ← (Forwarder.ofConfig config.origin).mapError .setup
  return forwarder.handleEvent net text

structure Report where
  exit : Nat
  output : String := ""
  error : Option Error := none
  sent : List Sent := []

def printed (given : CommandLine.Given) (a : Answer) : String :=
  (if given.isSet "pretty" then a.toJson.indented else a.toJson.compact) ++ "\n"

def run (s : Surroundings) (net : Network) : Report :=
  match CommandLine.parse options s.args with
  | .error .help => { exit := 0 }
  | .error .misuse => { exit := 2 }
  | .ok given =>
    match answer s net given with
    | .error e => { exit := 1, error := some e }
    | .ok (result, record) =>
      { exit := 0, output := (result.map (printed given)).getD "", sent := record.sent }

end Relay.Invoke
