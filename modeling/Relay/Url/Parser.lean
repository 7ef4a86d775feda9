import Relay.Url.Basic

/-!
Reading URLs. Controls and blanks at both ends are dropped, tabs and line breaks everywhere; then
scheme, authority, path, query and fragment are cut off one after another.
-/

namespace Relay.Url

/-- Tabs and line breaks, which count for nothing anywhere in a URL. -/
def isIgnored (c : Char) : Bool := c.toNat == 9 || c.toNat == 10 || c.toNat == 13

def isTrimmed (c : Char) : Bool := c.toNat ≤ 32

def trimEnd (cs : List Char) : List Char := (cs.reverse.dropWhile isTrimmed).reverse

def clean (cs : List Char) : List Char :=
  (trimEnd (cs.dropWhile isTrimmed)).filter (!isIgnored ·)

def isSchemeChar (c : Char) : Bool := c.isAlphanum || c == '+' || c == '-' || c == '.'

def splitScheme? (cs : List Char) : Option (String × List Char) :=
  match cs.head?, cs.span isSchemeChar with
  | some c, (name, ':' :: rest) =>
    if c.isAlpha then some (String.ofList (name.map Char.toLower), rest) else none
  | _, _ => none

/-! ### Authority -/

def endsAuthority (special : Bool) (c : Char) : Bool :=
  c == '/' || c == '?' || c == '#' || (special && c == '\\')

def splitLastAt? (cs : List Char) : Option (List Char × List Char) :=
  match cs.reverse.span (· ≠ '@') with
  | (tail, _ :: front) => some (front.reverse, tail.reverse)
  | _ => none

def splitCredentials (special : Bool) (cs : List Char) : Option (List Char) × List Char :=
  let (auth, tail) := cs.span (!endsAuthority special ·)
  match splitLastAt? auth with
  | some (info, host) => (some info, host ++ tail)
  | none => (none, cs)

def readCredentials (cs : List Char) : String × Option String :=
  let escaped := fun t => String.ofList (Percent.encode escapesCredentials t)
  match cs.span (· ≠ ':') with
  | (name, _ :: password) =>
    (escaped name, if password.isEmpty then none else some (escaped password))
  | (name, []) => (escaped name, none)

def splitHost (special : Bool) : Bool → List Char → List Char × List Char
  | _, [] => ([], [])
  | inside, c :: rest =>
    if (c == ':' && !inside) || endsAuthority special c then ([], c :: rest)
    else
      let inside := if c == '[' then true else if c == ']' then false else inside
      let (host, tail) := splitHost special inside rest
      (c :: host, tail)

def readNumber (cs : List Char) : Except ParseError (Option UInt16 × List Char) :=
  let (digits, rest) := cs.span Char.isDigit
  let value := digits.foldl (fun n c => 10 * n + (c.toNat - 48)) 0
  if value > 65535 then .error .invalidNumberAfterColon
  else if rest.head?.all (endsAuthority true) then
    .ok (if digits.isEmpty then none else some (UInt16.ofNat value), rest)
  else .error .invalidNumberAfterColon

def readOptionalNumber (cs : List Char) : Except ParseError (Option UInt16 × List Char) :=
  match cs with
  | ':' :: digits => readNumber digits
  | cs => .ok (none, cs)

def readHost (kind : SchemeKind) (cs : List Char) : Except ParseError Host :=
  if kind.isSpecial then
    if cs.isEmpty then .error .emptyHost else Host.parse cs
  else Host.parseUnread cs

def readAuthority (scheme : String) (cs : List Char) : Except ParseError (Authority × List Char) := do
  let special := (schemeKind scheme).isSpecial
  let (info, rest) := splitCredentials special cs
  if info = some [] ∧ rest.head?.any (endsAuthority special) then .error .emptyHost
  else
    let (username, password) := readCredentials (info.getD [])
    let (hostText, rest) := splitHost special false rest
    let host ← readHost (schemeKind scheme) hostText
    -- a missing host is reported before the number, credentials without one after it
    if host = .domain "" ∧ (rest.head? = some ':' ∨ special) then .error .emptyHost
    else
      let (number, rest) ← readOptionalNumber rest
      if host = .domain "" ∧ (username ≠ "" ∨ password.isSome) then .error .emptyHost
      else
        let portNumber := if number = defaultNumber? scheme then none else number
        .ok (⟨username, password, host, portNumber⟩, rest)

/-! ### Path -/

def isDot (segment : List Char) : Bool :=
  [".", "%2e"].contains (String.ofList (segment.map Char.toLower))

def isDoubleDot (segment : List Char) : Bool :=
  ["..", "%2e.", ".%2e", "%2e%2e"].contains (String.ofList (segment.map Char.toLower))

/-- A letter and a colon, or a bar in place of the colon. -/
def isDriveLetter : List Char → Bool
  | [c, d] => c.isAlpha && (d == ':' || d == '|')
  | _ => false

/-- The path above. A drive letter alone stays. -/
def shorten (kind : SchemeKind) (path : List (List Char)) : List (List Char) :=
  match path with
  | [[c, ':']] => if kind = .file ∧ c.isAlpha then path else []
  | _ => path.dropLast

/-- A segment in its written form. A drive letter at the head of a file path takes a colon. -/
def writtenSegment (kind : SchemeKind) (path : List (List Char)) (segment : List Char) : List Char :=
  if kind = .file ∧ path = [] ∧ isDriveLetter segment then segment.take 1 ++ [':']
  else Percent.encode escapesPath segment

/-- The path after the segments; dots are resolved, and one at the end leaves an empty segment. -/
def resolveSegments (kind : SchemeKind) : List (List Char) → List (List Char) → List (List Char)
  | path, [] => path
  | path, [last] =>
    if isDoubleDot last then shorten kind path ++ [[]]
    else if isDot last then path ++ [[]]
    else path ++ [writtenSegment kind path last]
  | path, segment :: rest =>
    if isDoubleDot segment then resolveSegments kind (shorten kind path) rest
    else if isDot segment then resolveSegments kind path rest
    else resolveSegments kind (path ++ [writtenSegment kind path segment]) rest

def splitSegments (special : Bool) (cs : List Char) : List (List Char) :=
  cs.splitOnP fun c => c == '/' || (special && c == '\\')

def dropEmptyHead (kind : SchemeKind) (path : List (List Char)) : List (List Char) :=
  if kind = .file then
    let kept := path.dropWhile (·.isEmpty)
    if kept.isEmpty then [[]] else kept
  else path

def readSegments (kind : SchemeKind) (base : List (List Char)) (cs : List Char) : Path :=
  .segments ((dropEmptyHead kind (resolveSegments kind base (splitSegments kind.isSpecial cs))).map
    String.ofList)

def readPath (kind : SchemeKind) (cs : List Char) : Path :=
  match cs with
  | [] => if kind.isSpecial then .segments [""] else .segments []
  | c :: rest =>
    if c == '/' || (kind.isSpecial && c == '\\') then readSegments kind [] rest
    else readSegments kind [] cs

/-! ### Query and fragment -/

def cut (cs : List Char) : List Char × Option (List Char) × Option (List Char) :=
  let (front, tail) := cs.span (· ≠ '#')
  let fragment := match tail with
    | _ :: f => some f
    | [] => none
  match front.span (· ≠ '?') with
  | (path, _ :: q) => (path, some q, fragment)
  | (path, []) => (path, none, fragment)

def readQuery (kind : SchemeKind) (q : Option (List Char)) : Option String :=
  q.map fun q => String.ofList (Percent.encode (escapesQuery kind.isSpecial) q)

def readFragment (f : Option (List Char)) : Option String :=
  f.map fun f => String.ofList (Percent.encode escapesFragment f)

def withTail (scheme : String) (authority : Option Authority) (cs : List Char) : Url :=
  let kind := schemeKind scheme
  let (path, query, fragment) := cut cs
  { scheme
    authority
    path := readPath kind path
    query := readQuery kind query
    fragment := readFragment fragment }

/-! ### Whole URLs -/

/-- The host of a file URL: a drive letter is the head of the path instead, and `localhost` is no
host. -/
def readFileHost (cs : List Char) : Except ParseError (Host × List Char) := do
  let (text, rest) := cs.span (!endsAuthority true ·)
  if isDriveLetter text then return (.domain "", '/' :: cs)
  if text.isEmpty then return (.domain "", rest)
  let host ← Host.parse text
  return (if host = .domain "localhost" then .domain "" else host, rest)

def parseFile (cs : List Char) : Except ParseError Url := do
  match cs with
  | a :: b :: rest =>
    if (a == '/' || a == '\\') && (b == '/' || b == '\\') then
      let (host, rest) ← readFileHost rest
      let url := withTail "file" (some { host }) rest
      match url.path with
      | .segments (first :: _) =>
        if isDriveLetter first.toList then return { url with authority := some { host := .domain "" } }
        else return url
      | _ => return url
    else return withTail "file" (some { host := .domain "" }) cs
  | cs => return withTail "file" (some { host := .domain "" }) cs

def parseAfterScheme (scheme : String) (cs : List Char) : Except ParseError Url := do
  match schemeKind scheme with
  | .file => parseFile cs
  | .web =>
    let (authority, rest) ← readAuthority scheme (cs.dropWhile fun c => c == '/' || c == '\\')
    return withTail scheme (some authority) rest
  | .other =>
    match cs with
    | '/' :: '/' :: rest =>
      let (authority, rest) ← readAuthority scheme rest
      return withTail scheme (some authority) rest
    | '/' :: rest => return withTail scheme none ('/' :: rest)
    | cs =>
      let (path, query, fragment) := cut cs
      return { scheme
               authority := none
               path := .flat (String.ofList (Percent.encode escapesControl path))
               query := readQuery .other query
               fragment := readFragment fragment }

def parse (s : String) : Except ParseError Url :=
  match splitScheme? (clean s.toList) with
  | some (scheme, rest) => parseAfterScheme scheme rest
  | none => .error .relativeWithoutBase

end Relay.Url
