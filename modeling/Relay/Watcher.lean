import Relay.Config.Load

/-!
Watching the configuration file: each change loads it anew, and a configuration that differs from
the one sent before is sent.
-/

namespace Relay

structure Watcher where
  environment : Option String
  overrides : Config.Overrides
  lastSent : Option Config := none

namespace Watcher

inductive Reload
  | reloaded (config : Config)
  | unchanged
  | failed (cause : Config.LoadError)
deriving DecidableEq, Repr

/-- Loads the file. What was sent before is remembered unless something new is sent. -/
def reload (w : Watcher) (file : Config.File) : Watcher × Reload :=
  match Config.load file w.environment w.overrides with
  | .error e => (w, .failed e)
  | .ok c =>
    if w.lastSent = some c then (w, .unchanged) else ({ w with lastSent := some c }, .reloaded c)

def Reload.sent? : Reload → Option Config
  | .reloaded c => some c
  | _ => none

inductive Change
  | written (bytes : Bytes)
  | touched
  | otherFile
  | removed
deriving DecidableEq, Repr

structure Watch where
  watcher : Watcher
  file : Config.File
  isNamed : Bool := true

def fileAfter (file : Config.File) : Change → Config.File
  | .written bytes => .content bytes
  | .removed => .missing
  | _ => file

/-- Only writing or touching the file itself matters; a file that is not there cannot be touched. -/
def isRelevant (file : Config.File) : Change → Bool
  | .written _ => true
  | .touched => file ≠ .missing
  | _ => false

def Watch.step (w : Watch) (change : Change) : Watch × Option Reload :=
  let file := fileAfter w.file change
  if w.isNamed && isRelevant w.file change then
    let (watcher, outcome) := w.watcher.reload file
    ({ w with file, watcher }, some outcome)
  else ({ w with file }, none)

def Watch.run (w : Watch) : List Change → List (Option Reload)
  | [] => []
  | change :: rest =>
    let (next, outcome) := w.step change
    outcome :: next.run rest

end Relay.Watcher
