import Relay.Config.Basic
import Relay.Shape
import Relay.Toml.Parser

/-!
Configurations from TOML documents. Keys nobody knows are ignored, missing ones keep their defaults,
and the first value of a wrong type, in the order of the document, is reported.
-/

namespace Relay.Config

inductive DecodeError
  | wrongType (found : Shape) (expected : String)
  | wrongValue (found : Shape) (expected : String)
  | unknownLogFormat (name : String)
  | malformedLogFormat
  | notToml
deriving DecidableEq, Repr

def DecodeError.message? : DecodeError → Option String
  | .wrongType found expected => some s!"invalid type: {found.describe}, expected {expected}"
  | .wrongValue found expected => some s!"invalid value: {found.describe}, expected {expected}"
  | .unknownLogFormat name =>
    some s!"unknown variant \x60{name}\x60, expected \x60pretty\x60 or \x60json\x60"
  | .malformedLogFormat => none
  | .notToml => none

/-- What a value looks like in a message. A date looks like a table. -/
def shape : Toml → Shape
  | .text s => .text s
  | .integer n => .integer n
  | .real x => .float x.text
  | .flag b => .flag b
  | .moment => .map
  | .list _ => .sequence
  | .table _ _ => .map
  | .tables _ => .sequence

abbrev Decoder (α : Type) := Toml → Except DecodeError α

def text : Decoder String
  | .text s => .ok s
  | v => .error (.wrongType (shape v) "a string")

def flag : Decoder Bool
  | .flag b => .ok b
  | v => .error (.wrongType (shape v) "a boolean")

def word64 (title : String) : Decoder UInt64
  | .integer n =>
    if 0 ≤ n then .ok (UInt64.ofNat n.toNat) else .error (.wrongValue (.integer n) title)
  | v => .error (.wrongType (shape v) title)

def texts : Decoder (List String)
  | .list items => items.mapM text
  | .tables items => items.mapM fun entries => text (.table .headed entries)
  | v => .error (.wrongType (shape v) "a sequence")

/-- Nothing may be said about a format beyond its name. -/
def isNothing : Toml → Bool
  | .table _ entries => entries.isEmpty
  | .list items => items.isEmpty
  | _ => false

def logFormatOfName (name : String) : Except DecodeError LogFormat :=
  if name = "pretty" then .ok .pretty
  else if name = "json" then .ok .json
  else .error (.unknownLogFormat name)

def logFormat : Decoder LogFormat
  | .text name => logFormatOfName name
  | .table _ [(name, value)] => do
    let format ← logFormatOfName name
    if isNothing value then return format else throw .malformedLogFormat
  | _ => .error .malformedLogFormat

structure Key (δ : Type) where
  name : String
  read : δ → Decoder δ

def key {δ α : Type} (name : String) (decode : Decoder α) (put : δ → α → δ) : Key δ where
  name
  read := fun d v => return put d (← decode v)

def readEntries {δ : Type} (keys : List (Key δ)) (defaults : δ) (entries : Toml.Entries) :
    Except DecodeError δ :=
  entries.foldlM (fun d e => match keys.find? (·.name == e.1) with
    | some k => k.read d e.2
    | none => .ok d) defaults

def readPositions {δ : Type} (keys : List (Key δ)) (defaults : δ) (items : List Toml) :
    Except DecodeError δ :=
  (keys.zip items).foldlM (fun d p => p.1.read d p.2) defaults

/-- A section is a table, or a list of the values of its keys. -/
def readSection {δ : Type} (title : String) (keys : List (Key δ)) (defaults : δ) : Decoder δ
  | .table _ entries => readEntries keys defaults entries
  | .list items => readPositions keys defaults items
  | .tables items => readPositions keys defaults (items.map (.table .headed))
  | .moment => .ok defaults
  | v => .error (.wrongType (shape v) title)

def readListener : Decoder ListenerConfig :=
  readSection "struct ListenerConfig" [
    key "bind_address" text fun d v => { d with bindAddress := v },
    key "max_body_bytes" (word64 "usize") fun d v => { d with maxBodyBytes := v }] {}

def readOrigin : Decoder OriginConfig :=
  readSection "struct UpstreamConfig" [
    key "origin" text fun d v => { d with origin := v },
    key "mount_prefixes" texts fun d v => { d with mountPrefixes := v },
    key "forward_upstream_headers" flag fun d v => { d with mergeHeaders := v },
    key "user_agent" text fun d v => { d with userAgent := some v },
    key "use_system_proxy" flag fun d v => { d with useSystemProxy := v }] {}

def readTimeouts : Decoder TimeoutConfig :=
  readSection "struct TimeoutConfig" [
    key "request_secs" (word64 "u64") fun d v => { d with requestSeconds := v }] {}

def readObservability : Decoder ObservabilityConfig :=
  readSection "struct ObservabilityConfig" [
    key "log_level" text fun d v => { d with logLevel := v },
    key "log_format" logFormat fun d v => { d with logFormat := v },
    key "metrics_enabled" flag fun d v => { d with metricsEnabled := v },
    key "metrics_address" text fun d v => { d with metricsAddress := v }] {}

def ofToml (document : String) : Except DecodeError Config :=
  match Toml.parse? document with
  | none => .error .notToml
  | some entries =>
    readEntries [
      key "listener" readListener fun d v => { d with listener := v },
      key "upstream" readOrigin fun d v => { d with origin := v },
      key "timeouts" readTimeouts fun d v => { d with timeouts := v },
      key "observability" readObservability fun d v => { d with observability := v }] {} entries

end Relay.Config
