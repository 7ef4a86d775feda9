import Relay.Network
import Relay.Outbound

/-!
The HTTP client: one outbound request, and the redirects it is sent on to, at most ten. A request that
is sent on to another host, or to another number after the colon, goes without credentials.
-/

namespace Relay

structure Client where
  userAgent : Option String := none
  useSystemProxy : Bool := false
deriving DecidableEq, Repr

namespace Client

def isUserAgent (s : String) : Bool := s ≠ "" && Http.isHeaderValue (Utf8.encode s)

inductive Failure
  | connect (dial : Dial)
  | tunnel (dial : Dial)
  | tunnelRefused
  | head (fault : HeadFault)
  | body (fault : BodyFault)
  | tooManyRedirects
  | unsupportedScheme
  | invalidUri
deriving DecidableEq, Repr

def dialMessage : Dial → String
  | .connected => ""
  | .refused => "tcp connect error: Connection refused (os error 111)"
  | .unreachable => "tcp connect error: Network is unreachable (os error 101)"

def Failure.message : Failure → String
  | .connect dial => "error sending request: client error (Connect): " ++ dialMessage dial
  | .tunnel dial =>
    "error sending request: client error (Connect): tunnel error: failed to create underlying connection: "
      ++ dialMessage dial
  | .tunnelRefused => "error sending request: client error (Connect): tunnel error: unsuccessful"
  | .head fault => "error sending request: client error (SendRequest): " ++ fault.message
  | .body fault => "error decoding response body: error reading a body from connection: " ++ fault.message
  | .tooManyRedirects => "error following redirect: too many redirects"
  | .unsupportedScheme => "builder error: URL scheme is not allowed"
  | .invalidUri => "builder error: Parsed Url is not a valid Uri"

inductive Outcome
  | received (reply : Received)
  | failed (status : Option UInt16) (failure : Failure)
  | waiting
deriving DecidableEq

/-! ### One request -/

/-- A request that is about to be sent, without the headers the client adds. -/
structure Hop where
  method : String
  url : Url
  headers : Http.Headers
  body : Bytes
  /-- The headers of the first request, but for those that a redirect has taken from all that follow. -/
  original : Http.Headers
deriving DecidableEq, Repr

def maxUriLength : Nat := 65534

/-- Whether a URL can stand in a request. The host of a URL may hold four characters that the host of a
request may not. -/
def isUri (u : Url) : Bool :=
  (Utf8.encode u.text).length ≤ maxUriLength &&
    u.authority.all fun a => !a.host.text.toList.any "\"\x60\x7b\x7d".toList.contains

def withoutCredentials (u : Url) : Url :=
  { u with authority := u.authority.map fun a => { a with username := "", password := none } }

def basicAuthorization? (u : Url) : Option Bytes :=
  match u.authority with
  | none => none
  | some a =>
    if a.username = "" ∧ a.password = none then none
    else
      let decoded := fun (s : String) => Percent.decode (Utf8.encode s)
      let pair := decoded a.username ++ 58 :: ((a.password.map decoded).getD [])
      some (Utf8.encode ("Basic " ++ Base64.encode pair))

/-- The headers of the first request. Credentials in the URL become one, unless there is one. -/
def firstHeaders (out : Outbound) : Http.Headers :=
  match basicAuthorization? out.url with
  | some value =>
    if out.headers.contains "authorization" then out.headers else ("authorization", value) :: out.headers
  | none => out.headers

def firstHop (out : Outbound) : Hop where
  method := out.method.name
  url := withoutCredentials out.url
  headers := firstHeaders out
  body := out.body.bytes
  original := firstHeaders out

def titleCase (name : String) : String :=
  let step := fun (state : List Char × Bool) (c : Char) =>
    ((if state.2 then c.toUpper else c) :: state.1, c == '-')
  String.ofList ((name.toList.foldl step ([], true)).1.reverse)

def hostHeader (u : Url) : String :=
  match u.authority with
  | some a =>
    a.host.text ++ (match a.portNumber with
      | some n => s!":{n.toNat}"
      | none => "")
  | none => ""

def wireHeaders (client : Client) (hop : Hop) : Http.Headers :=
  let accept := if hop.headers.contains "accept" then [] else [("accept", Utf8.encode "*/*")]
  let agent := match client.userAgent with
    | some text => [("user-agent", Utf8.encode text)]
    | none => []
  let length :=
    if hop.body = [] then [] else [("content-length", Utf8.encode (toString hop.body.length))]
  ("host", Utf8.encode (hostHeader hop.url)) :: hop.headers ++ accept ++ agent ++ length

def originForm (u : Url) : String :=
  u.path.text ++ (match u.query with
    | some q => "?" ++ q
    | none => "")

def send (client : Client) (hop : Hop) : Sent where
  method := hop.method
  url := hop.url
  target := if client.useSystemProxy then ({ hop.url with fragment := none } : Url).text
    else originForm hop.url
  headers := (wireHeaders client hop).sorted.map fun h => (titleCase h.1, h.2)
  body := hop.body

def sendConnect (client : Client) (hop : Hop) : Sent :=
  let authority := match hop.url.authority with
    | some a => s!"{a.host.text}:{((hop.url.effectiveNumber?).getD 443).toNat}"
    | none => ""
  let agent := match client.userAgent with
    | some text => [("user-agent", Utf8.encode text)]
    | none => []
  { method := "CONNECT"
    url := hop.url
    target := authority
    headers := ("Host", Utf8.encode authority) :: agent
    body := [] }

/-! ### Redirects -/

def isRedirect (status : UInt16) : Bool := [301, 302, 303, 307, 308].contains status.toNat

/-- Where a reply sends the client. It is not sent to a URL that cannot stand in a request. -/
def redirectTarget? (hop : Hop) (status : UInt16) (headers : Http.Headers) : Option Url := do
  if !isRedirect status then none
  let location ← headers.get? "location"
  let text ← Utf8.decode? location
  (hop.url.join text).toOption.filter isUri

def contentHeaders : List String :=
  ["content-type", "content-length", "content-encoding", "transfer-encoding"]

def dropContent (hs : Http.Headers) : Http.Headers := hs.filter fun h => !contentHeaders.contains h.1

def sameServer (u v : Url) : Bool :=
  u.host? == v.host? && u.effectiveNumber? == v.effectiveNumber?

def referer? (source target : Url) : Option Bytes :=
  if source.scheme = "https" ∧ target.scheme = "http" then none
  else some (Utf8.encode ({ withoutCredentials source with fragment := none } : Url).text)

def Hop.source (hop : Hop) : HeaderCopy → Http.Headers
  | .first => hop.original
  | .previous => hop.headers

/-- The request that follows a redirect. What describes the body is dropped from all requests to come;
credentials are dropped from this one, if the server is not the one before. -/
def nextHop (copy : HeaderCopy) (hop : Hop) (status : UInt16) (url : Url) : Hop :=
  let n := status.toNat
  let toGet := ((n = 301 ∨ n = 302) ∧ hop.method = "POST") ∨
    (n = 303 ∧ hop.method ≠ "GET" ∧ hop.method ≠ "HEAD")
  let drops := ((n = 301 ∨ n = 302) ∧ hop.method = "POST") ∨ n = 303
  let original := if drops then dropContent (hop.source copy) else hop.source copy
  -- this hop alone goes without credentials: one that starts from `original` again has them back
  let headers := if sameServer hop.url url then original
    else original.filter fun h => h.1 != "authorization"
  let headers := match referer? hop.url url with
    | some value => headers.set "referer" value
    | none => headers.erase "referer"
  { method := if toGet then "GET" else hop.method
    url
    headers
    body := if drops then [] else hop.body
    original }

/-- Sends a request and follows the redirects, of which `left` more are allowed; `index` counts the
requests sent before. -/
def follow (client : Client) (net : Network) : Nat → Nat → Hop → List Sent × Outcome
  | left, index, hop =>
    if hop.url.scheme ≠ "http" ∧ hop.url.scheme ≠ "https" then ([], .failed none .unsupportedScheme)
    else if !isUri hop.url then ([], .failed none .invalidUri)
    else
      let tunnel := client.useSystemProxy && hop.url.scheme == "https"
      match net.dial hop.url with
      | .connected =>
        if tunnel then ([sendConnect client hop], .failed none .tunnelRefused)
        else
          let sent := send client hop
          match net.reply index with
          | .silent => ([sent], .waiting)
          | .unreadable fault => ([sent], .failed none (.head fault))
          | .answer status headers body =>
            match redirectTarget? hop status headers with
            | none =>
              match body with
              | .ok bytes => ([sent], .received ⟨status, headers, bytes⟩)
              | .error fault => ([sent], .failed (some status) (.body fault))
            | some url =>
              match left with
              | 0 => ([sent], .failed none .tooManyRedirects)
              | left + 1 =>
                let next := nextHop net.headerCopy hop status url
                let (more, outcome) := follow client net left (index + 1) next
                (sent :: more, outcome)
      | dial => ([], .failed none (if tunnel then .tunnel dial else .connect dial))

def maxRedirects : Nat := 10

def exchange (client : Client) (net : Network) (out : Outbound) : List Sent × Outcome :=
  follow client net maxRedirects 0 (firstHop out)

end Relay.Client
