/-!
Command lines: options with a long and perhaps a short name, each given at most once. There are no
arguments without a name.
-/

namespace Relay.CommandLine

structure Spec where
  long : String
  short : Option Char := none
  takesValue : Bool := true
  allowsEmpty : Bool := true

inductive Failure
  | help
  | misuse
deriving DecidableEq, Repr

abbrev Given := List (String × String)

def Given.value? (g : Given) (long : String) : Option String := g.lookup long

def Given.isSet (g : Given) (long : String) : Bool := (g.lookup long).isSome

def add (spec : Spec) (value : String) (given : Given) : Except Failure Given :=
  if given.isSet spec.long ∨ (spec.takesValue ∧ !spec.allowsEmpty ∧ value = "") then .error .misuse
  else .ok (given ++ [(spec.long, value)])

def looksLikeOption (arg : String) : Bool :=
  match arg.toList with
  | '-' :: _ :: _ => true
  | _ => false

inductive Argument
  /-- An option, and its text if that is part of the argument. -/
  | option (spec : Spec) (text : Option String)
  | help
  | endOfOptions
  | other

def classify (specs : List Spec) (arg : String) : Argument :=
  match arg.toList with
  | ['-', '-'] => .endOfOptions
  | '-' :: '-' :: rest =>
    let name := String.ofList (rest.takeWhile (· ≠ '='))
    let text := match rest.dropWhile (· ≠ '=') with
      | _ :: text => some (String.ofList text)
      | [] => none
    match specs.find? (·.long == name) with
    | some spec => .option spec text
    | none => if name = "help" ∧ text = none then .help else .other
  | '-' :: c :: rest =>
    match specs.find? (·.short == some c) with
    | some spec =>
      let text := match rest with
        | [] => none
        | '=' :: text => some (String.ofList text)
        | text => some (String.ofList text)
      .option spec text
    | none => if c = 'h' ∧ rest = [] then .help else .other
  | _ => .other

def parseFrom (specs : List Spec) (given : Given) : List String → Except Failure Given
  | [] => .ok given
  | arg :: args =>
    match classify specs arg with
    | .help => .error .help
    | .other => .error .misuse
    | .endOfOptions => if args = [] then .ok given else .error .misuse
    | .option spec text =>
      if spec.takesValue then
        match text, args with
        | some text, args => do parseFrom specs (← add spec text given) args
        | none, [] => .error .misuse
        | none, next :: args =>
          if looksLikeOption next then .error .misuse
          else do parseFrom specs (← add spec next given) args
      else if text.isSome then .error .misuse
      else do parseFrom specs (← add spec "" given) args

def parse (specs : List Spec) (args : List String) : Except Failure Given := parseFrom specs [] args

end Relay.CommandLine
