import Relay.Config.Decode
import Relay.Config.Rules
import Relay.Text.Blank
import Relay.Text.Utf8

/-!
The effective configuration: the command line comes before the environment, the environment before
the file, and the file before the defaults.
-/

namespace Relay.Config

structure Overrides where
  origin : Option String := none
  bindAddress : Option String := none
deriving DecidableEq, Repr, Inhabited

def Overrides.apply (o : Overrides) (c : Config) : Config :=
  { c with
    origin := { c.origin with origin := o.origin.getD c.origin.origin }
    listener := { c.listener with bindAddress := o.bindAddress.getD c.listener.bindAddress } }

def applyEnvironment (environment : Option String) (c : Config) : Config :=
  match environment.map trimBlanks with
  | none => c
  | some text =>
    if text = "" then c else { c with origin := { c.origin with origin := text } }

inductive File
  | missing
  | content (bytes : Bytes)
deriving DecidableEq, Repr

inductive LoadError
  | missingFile
  | notText
  | malformed (cause : DecodeError)
  | invalid (violations : List Violation)
deriving DecidableEq, Repr

def LoadError.message? : LoadError → Option String
  | .missingFile => some "IO error: No such file or directory (os error 2)"
  | .notText => some "IO error: stream did not contain valid UTF-8"
  | .malformed cause => cause.message?
  | .invalid violations =>
    some ("Validation failed: " ++ ", ".intercalate (violations.map Violation.message))

def checked (c : Config) : Except LoadError Config :=
  match c.validate with
  | .ok c => .ok c
  | .error vs => .error (.invalid vs)

def load (file : File) (environment : Option String) (overrides : Overrides) :
    Except LoadError Config :=
  match file with
  | .missing => .error .missingFile
  | .content bytes =>
    match Utf8.decode? bytes with
    | none => .error .notText
    | some document =>
      match ofToml document with
      | .error e => .error (.malformed e)
      | .ok c => checked (overrides.apply (applyEnvironment environment c))

def loadDefault (environment : Option String) : Except LoadError Config :=
  checked (applyEnvironment environment {})

/-- The effective configuration. Without a file the environment is checked by itself first, so that
a bad value there is an error even if the command line replaces it. -/
def resolve (file : Option File) (environment : Option String) (overrides : Overrides) :
    Except LoadError Config :=
  match file with
  | some file => load file environment overrides
  | none => do checked (overrides.apply (← loadDefault environment))

end Relay.Config
