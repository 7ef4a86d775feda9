/-!
What is recorded about requests: log events and counters. Events hold names, paths, sizes and
whether something is present, never the values of headers or queries, or bodies.
-/

namespace Relay

inductive Level
  | debug | info | warn | error
deriving DecidableEq, Repr

inductive LogValue
  | text (value : String)
  | number (value : Nat)
  | flag (value : Bool)
deriving DecidableEq, Repr

structure LogEvent where
  level : Level
  message : String
  fields : List (String × LogValue) := []
deriving DecidableEq, Repr

inductive LogEntry
  | event (event : LogEvent)
  | span (method requestId : String)
deriving DecidableEq, Repr

inductive Sample
  | request (method : String) (status : UInt16) (outcome : String)
  | duration (method : String)
  | failure (kind : String)
deriving DecidableEq, Repr

def Sample.series : Sample → String
  | .request method status outcome =>
    s!"proxy_requests_total\x7bmethod=\"{method}\",status=\"{status.toNat}\",outcome=\"{outcome}\"\x7d"
  | .duration method => s!"proxy_request_duration_seconds_count\x7bmethod=\"{method}\"\x7d"
  | .failure kind => s!"proxy_upstream_errors_total\x7bkind=\"{kind}\"\x7d"

def counterLines (samples : List Sample) : List String :=
  let series := samples.map Sample.series
  (series.eraseDups.map fun s => s!"{s} {series.count s}").mergeSort (fun a b => decide (a ≤ b))

end Relay
