import Relay.Url.Host

/-!
URLs: a scheme, an optional authority, a path, and an optional query and fragment, with the written
form of each. All parts are kept in the escaped form in which they are written.
-/

namespace Relay

namespace Url

/-- Who is asked: credentials, a host, and the number after the colon unless it is the scheme's
own. -/
structure Authority where
  username : String := ""
  password : Option String := none
  host : Host
  portNumber : Option UInt16 := none
deriving DecidableEq, Repr

/-- A path made of segments, or the text after the scheme of a URL like `mailto:a@b`. -/
inductive Path
  | segments (list : List String)
  | flat (text : String)
deriving DecidableEq, Repr

end Url

structure Url where
  scheme : String
  authority : Option Url.Authority
  path : Url.Path
  query : Option String := none
  fragment : Option String := none
deriving DecidableEq, Repr

namespace Url

inductive SchemeKind
  | web
  | file
  | other
deriving DecidableEq, Repr

def schemeKind (scheme : String) : SchemeKind :=
  if ["http", "https", "ws", "wss", "ftp"].contains scheme then .web
  else if scheme == "file" then .file
  else .other

/-- Web and file schemes know host names and read `\` as `/`. -/
def SchemeKind.isSpecial : SchemeKind → Bool
  | .other => false
  | _ => true

def defaultNumber? (scheme : String) : Option UInt16 :=
  if scheme == "http" || scheme == "ws" then some 80
  else if scheme == "https" || scheme == "wss" then some 443
  else if scheme == "ftp" then some 21
  else none

/-! ### Written form -/

def Path.text : Path → String
  | .segments list => String.join (list.map ("/" ++ ·))
  | .flat text => text

def Authority.credentials (a : Authority) : String :=
  let password := match a.password with
    | some p => ":" ++ p
    | none => ""
  if a.username.isEmpty && a.password.isNone then "" else a.username ++ password ++ "@"

def Authority.text (a : Authority) : String :=
  let number := match a.portNumber with
    | some n => ":" ++ toString n.toNat
    | none => ""
  a.credentials ++ a.host.text ++ number

/-- The part before the path. Without an authority, a path that starts with two slashes is kept
apart from the scheme by `/.`. -/
def front (u : Url) : String :=
  u.scheme ++ ":" ++ match u.authority with
    | some a => "//" ++ a.text
    | none => if u.path.text.startsWith "//" then "/." else ""

def text (u : Url) : String :=
  let query := match u.query with
    | some q => "?" ++ q
    | none => ""
  let fragment := match u.fragment with
    | some f => "#" ++ f
    | none => ""
  u.front ++ u.path.text ++ query ++ fragment

def host? (u : Url) : Option Host :=
  match u.authority with
  | some a => if a.host = .domain "" then none else some a.host
  | none => none

def effectiveNumber? (u : Url) : Option UInt16 :=
  ((u.authority.bind (·.portNumber))).orElse fun _ => defaultNumber? u.scheme

/-! ### Escaping -/

def escapesControl (c : Char) : Bool := c.toNat < 32 || c.toNat == 127

def escapesFragment (c : Char) : Bool :=
  escapesControl c || " \"<>".toList.contains c || c == '\x60'

def escapesPath (c : Char) : Bool :=
  escapesFragment c || "#?\x7b\x7d".toList.contains c

def escapesCredentials (c : Char) : Bool :=
  escapesPath c || "/:;=@[\\]^|".toList.contains c

def escapesQuery (special : Bool) (c : Char) : Bool :=
  escapesControl c || " \"#<>".toList.contains c || (special && c.toNat == 39)

end Relay.Url
