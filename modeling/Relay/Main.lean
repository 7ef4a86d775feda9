import Relay.Invoke

/-!
The command line of the one-shot program. It reads its files, its input and the environment, and
leaves everything else to `Relay.Invoke`. No connections are made from here, so each exchange ends
as it does on a machine without a way out.
-/

open Relay

def originVariable : String := "MEMVERSE_UPSTREAM_ORIGIN"

def readFile? (path : String) : IO (Option Bytes) := do
  try
    return some (← IO.FS.readBinFile path).toList
  catch _ => return none

def readFiles (args : List String) : IO (String → Option Bytes) := do
  match CommandLine.parse Invoke.options args with
  | .error _ => return fun _ => none
  | .ok given =>
    let paths := (given.filter fun g => g.1 == "config" || g.1 == "event").map (·.2)
    let contents ← paths.mapM fun path => do return (path, ← readFile? path)
    return fun path => (contents.lookup path).join

partial def readAll (stream : IO.FS.Stream) (acc : ByteArray) : IO ByteArray := do
  let chunk ← stream.read 65536
  if chunk.isEmpty then return acc else readAll stream (acc ++ chunk)

def main (args : List String) : IO UInt32 := do
  let files ← readFiles args
  let input ← readAll (← IO.getStdin) .empty
  let environment ← IO.getEnv originVariable
  let report := Invoke.run { args, files, input := input.toList, environment } .isolated
  (← IO.getStdout).write (Utf8.encode report.output).toByteArray
  return UInt32.ofNat report.exit
