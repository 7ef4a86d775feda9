import Relay.Json.Reader

/-!
Passing over a value nobody asked for. Nesting is not limited here, and a text may hold halves of
surrogate pairs.
-/

namespace Relay.Json

def skipText : List Char → Except Misread (List Char)
  | [] => failAt .endInString []
  | '"' :: rest => .ok rest
  | ['\\'] => failAt .endInString []
  | '\\' :: 'u' :: a :: b :: c :: d :: rest =>
    if [a, b, c, d].all Ascii.isHexDigit then skipText rest
    else .error ⟨.invalidEscape, a :: b :: c :: d :: rest, 4⟩
  | '\\' :: 'u' :: rest =>
    if (rest.flatMap String.utf8EncodeChar).length < 4 then failAt .endInString []
    else .error ⟨.invalidEscape, rest, 4⟩
  | '\\' :: e :: rest =>
    if (shortEscape? e).isSome then skipText rest else failNext .invalidEscape (e :: rest)
  | c :: rest => if c.toNat < 32 then failAt .controlCharacter (c :: rest) else skipText rest

def skipExponent (cs : List Char) : Except Misread (List Char) :=
  let cs := match cs with
    | '+' :: rest => rest
    | '-' :: rest => rest
    | rest => rest
  if cs.head?.any Char.isDigit then .ok (cs.dropWhile Char.isDigit)
  else failNext .invalidNumber cs

def skipOptionalExponent (cs : List Char) : Except Misread (List Char) :=
  match cs with
  | 'e' :: rest => skipExponent rest
  | 'E' :: rest => skipExponent rest
  | rest => .ok rest

def skipNumber (cs : List Char) : Except Misread (List Char) := do
  let rest ← match cs with
    | '0' :: rest =>
      if rest.head?.any Char.isDigit then failNext .invalidNumber rest else pure rest
    | c :: rest =>
      if c.isDigit then pure (rest.dropWhile Char.isDigit) else failNext .invalidNumber (c :: rest)
    | [] => failNext .invalidNumber []
  match rest with
  | '.' :: fraction =>
    if fraction.head?.any Char.isDigit then
      skipOptionalExponent (fraction.dropWhile Char.isDigit)
    else failNext .invalidNumber fraction
  | rest => skipOptionalExponent rest

/-- What encloses the value that is passed over. -/
inductive Frame
  | list
  | object
deriving DecidableEq, Repr

inductive SkipState
  /-- The head of a value. -/
  | value
  /-- Behind an opening bracket, or behind a value. -/
  | inside (afterValue : Bool)
  /-- The name of a member. -/
  | name

/-- Passes over a value inside the given frames, the innermost first. A frame is opened, closed or
continued by a character of its own, so three rounds for each character are enough. -/
def skipIn : Nat → SkipState → List Frame → List Char → Except Misread (List Char)
  | 0, _, _, cs => failNext .endInValue cs
  | fuel + 1, .value, frames, cs => do
    match skipBlanks cs with
    | '[' :: rest => skipIn fuel (.inside false) (.list :: frames) rest
    | '\x7b' :: rest => skipIn fuel (.inside false) (.object :: frames) rest
    | [] => failNext .endInValue []
    | 'n' :: rest => skipIn fuel (.inside true) frames (← readWord ['u', 'l', 'l'] rest)
    | 't' :: rest => skipIn fuel (.inside true) frames (← readWord ['r', 'u', 'e'] rest)
    | 'f' :: rest => skipIn fuel (.inside true) frames (← readWord ['a', 'l', 's', 'e'] rest)
    | '-' :: rest => skipIn fuel (.inside true) frames (← skipNumber rest)
    | '"' :: rest => skipIn fuel (.inside true) frames (← skipText rest)
    | c :: rest =>
      if c.isDigit then skipIn fuel (.inside true) frames (← skipNumber (c :: rest))
      else failNext .expectedValue (c :: rest)
  | _ + 1, .inside _, [], cs => .ok cs
  | fuel + 1, .inside afterValue, frame :: frames, cs =>
    let next := if frame = .object then SkipState.name else .value
    match skipBlanks cs with
    | [] => failNext (if frame = .list then .endInList else .endInObject) []
    | c :: rest =>
      if c = ',' ∧ afterValue then skipIn fuel next (frame :: frames) rest
      else if (c = ']' ∧ frame = .list) ∨ (c = '\x7d' ∧ frame = .object) then
        skipIn fuel (.inside true) frames rest
      else if afterValue then
        failNext (if frame = .list then .expectedListEnd else .expectedObjectEnd) (c :: rest)
      else skipIn fuel next (frame :: frames) (c :: rest)
  | fuel + 1, .name, frames, cs => do
    match skipBlanks cs with
    | '"' :: rest => skipIn fuel .value frames (← readColon (← skipText rest))
    | [] => failNext .endInObject []
    | rest => failNext .nameNotText rest

def skipValue : Reader Unit := fun cs => do
  return ((), ← skipIn (3 * cs.length + 3) .value [] cs)

end Relay.Json
