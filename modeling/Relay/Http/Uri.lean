import Relay.Text.Ascii
import Relay.Text.Utf8

/-!
Request targets: a path with an optional query, `*`, an authority alone, or a whole URL of which
only path and query count. A fragment is dropped.
-/

namespace Relay.Http

inductive UriError
  | empty
  | tooLong
  | schemeTooLong
  | invalidCharacter
  | invalidAuthority
  | invalidFormat
deriving DecidableEq, Repr

def UriError.message : UriError → String
  | .empty => "empty string"
  | .tooLong => "uri too long"
  | .schemeTooLong => "scheme too long"
  | .invalidCharacter => "invalid uri character"
  | .invalidAuthority => "invalid authority"
  | .invalidFormat => "invalid format"

structure Uri where
  path : String
  query : Option String := none
deriving DecidableEq, Repr

namespace Uri

/-- Characters of a path that need no escape, or that are let through without one. -/
def isPathChar (c : Char) : Bool :=
  let n := c.toNat
  n == 0x21 || (0x24 ≤ n && n ≤ 0x3B) || n == 0x3D || (0x40 ≤ n && n ≤ 0x5F) ||
    (0x61 ≤ n && n ≤ 0x7E) || 0x7F ≤ n || c == '"'

def isQueryChar (c : Char) : Bool :=
  let n := c.toNat
  n == 0x21 || (0x24 ≤ n && n ≤ 0x3B) || n == 0x3D || (0x3F ≤ n && n ≤ 0x7E) || 0x7F ≤ n

/-- A path and a query. An empty path, as a whole URL may have it, is `/`. -/
def parsePath (cs : List Char) : Except UriError Uri :=
  let (path, rest) := cs.span fun c => c ≠ '?' && c ≠ '#'
  if !path.all isPathChar then .error .invalidCharacter
  else
    let text := if path.isEmpty then "/" else String.ofList path
    match rest with
    | '?' :: tail =>
      let query := tail.takeWhile (· ≠ '#')
      if query.all isQueryChar then .ok ⟨text, some (String.ofList query)⟩
      else .error .invalidCharacter
    | _ => .ok ⟨text, none⟩

def isAuthorityChar (c : Char) : Bool :=
  c.isAlphanum || "!$&'()*+,-.:;=@[]_~".toList.contains c

structure AuthorityScan where
  colons : Nat := 0
  opened : Bool := false
  closed : Bool := false
  escaped : Bool := false
  afterAt : Bool := false

def AuthorityScan.step (s : AuthorityScan) (c : Char) : Except UriError AuthorityScan :=
  let next := { s with afterAt := false }
  if c = ':' then
    if s.colons ≥ 8 then .error .invalidAuthority else .ok { next with colons := s.colons + 1 }
  else if c = '[' then
    if s.escaped ∨ s.opened then .error .invalidAuthority else .ok { next with opened := true }
  else if c = ']' then
    if !s.opened ∨ s.closed then .error .invalidAuthority
    else .ok { next with closed := true, colons := 0, escaped := false }
  else if c = '@' then .ok { next with colons := 0, escaped := false, afterAt := true }
  else if c = '%' then .ok { next with escaped := true }
  else if isAuthorityChar c then .ok next
  else .error .invalidCharacter

def splitAuthority (cs : List Char) : Except UriError (List Char × List Char) := do
  let (front, rest) := cs.span fun c => c ≠ '/' && c ≠ '?' && c ≠ '#'
  let s ← front.foldlM AuthorityScan.step {}
  if s.opened ≠ s.closed ∨ s.colons > 1 ∨ s.afterAt ∨ s.escaped then throw .invalidAuthority
  return (front, rest)

def isSchemeChar (c : Char) : Bool := c.isAlphanum || c == '+' || c == '-' || c == '.'

def afterScheme (cs : List Char) : Except UriError (Option (List Char)) :=
  let (scheme, rest) := cs.span isSchemeChar
  match rest with
  | ':' :: '/' :: '/' :: tail =>
    if cs.length ≤ 3 then .ok none
    else if scheme.length > 64 then .error .schemeTooLong
    else .ok (some tail)
  | _ => .ok none

def parse (s : String) : Except UriError Uri := do
  let cs := s.toList
  if (Utf8.encode s).length > 65534 then throw .tooLong
  match cs with
  | [] => throw .empty
  | ['*'] => return ⟨"*", none⟩
  | '/' :: _ => parsePath cs
  | _ =>
    match ← afterScheme cs with
    | none =>
      let (_, rest) ← splitAuthority cs
      if rest.isEmpty then return ⟨"", none⟩
      else if cs.length = 1 then throw .invalidCharacter
      else throw .invalidFormat
    | some tail =>
      let (authority, rest) ← splitAuthority tail
      if authority.isEmpty then throw .invalidFormat
      parsePath rest

end Relay.Http.Uri
