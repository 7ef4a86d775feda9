import Relay.Url.Parser

/-!
Origins of URLs, and the operations on whole URLs that the relay needs: extending one by a path,
resolving a reference against one, and replacing its query.
-/

namespace Relay.Url

structure Origin where
  scheme : String
  host : Host
  number : UInt16
deriving DecidableEq, Repr

/-- The origin of a URL; `none` stands for one that equals no other, its own copies included. The
origin of `blob:` is that of the URL inside, however deep. -/
def originAtDepth : Nat → Url → Option Origin
  | 0, _ => none
  | depth + 1, u =>
    if u.scheme == "blob" then
      match parse u.path.text with
      | .ok inner => originAtDepth depth inner
      | .error _ => none
    else if schemeKind u.scheme = .web then
      match u.authority, u.effectiveNumber? with
      | some a, some n => some ⟨u.scheme, a.host, n⟩
      | _, _ => none
    else none

/-- Each `blob:` inside takes five characters, so the length of the text bounds the depth. -/
def origin? (u : Url) : Option Origin := originAtDepth (u.text.length + 1) u

def sameOrigin (u v : Url) : Bool :=
  match u.origin?, v.origin? with
  | some a, some b => a == b
  | _, _ => false

def trimmedText (u : Url) : List Char :=
  (u.text.toList.reverse.dropWhile (· == '/')).reverse

/-- The URL whose text is that of `u`, without the slashes at its end, followed by `suffix`. -/
def extend (u : Url) (suffix : String) : Except ParseError Url :=
  parse (String.ofList (u.trimmedText ++ suffix.toList))

/-- The URL with another query. Without a query and a fragment, a path that is no list of segments
loses the blanks at its end. -/
def setQuery (u : Url) (query : Option String) : Url :=
  let query := query.map fun q =>
    String.ofList (Percent.encode (escapesQuery (schemeKind u.scheme).isSpecial)
      (q.toList.filter (!isIgnored ·)))
  let path := match u.path with
    | .flat text =>
      if query.isNone && u.fragment.isNone then
        .flat (String.ofList (text.toList.reverse.dropWhile (· == ' ')).reverse)
      else .flat text
    | path => path
  { u with path, query }

def baseSegments (u : Url) : List (List Char) :=
  match u.path with
  | .segments list => (list.map String.toList).dropLast
  | .flat _ => []

def joinRelative (base : Url) (cs : List Char) : Except ParseError Url := do
  let kind := schemeKind base.scheme
  let slash := fun c => c == '/' || (kind.isSpecial && c == '\\')
  match cs with
  | a :: b :: rest =>
    if slash a && slash b then
      let rest := if kind.isSpecial then rest.dropWhile slash else rest
      let (authority, rest) ← readAuthority base.scheme rest
      return withTail base.scheme (some authority) rest
    else if slash a then return withTail base.scheme base.authority cs
    else below kind cs
  | [a] => if slash a then return withTail base.scheme base.authority cs else below kind cs
  | [] => return { base with fragment := none }
where
  below (kind : SchemeKind) (cs : List Char) : Except ParseError Url :=
    let (path, query, fragment) := cut cs
    let fragment := readFragment fragment
    if path.isEmpty then
      match query with
      | some q => .ok { base with query := readQuery kind (some q), fragment }
      | none => .ok { base with fragment }
    else
      .ok { base with
        path := readSegments kind base.baseSegments path
        query := readQuery kind query
        fragment }

def join (base : Url) (reference : String) : Except ParseError Url :=
  let cs := clean reference.toList
  match splitScheme? cs with
  | some (scheme, rest) =>
    let slashes := (rest.takeWhile fun c => c == '/' || c == '\\').length
    if schemeKind scheme = .web ∧ scheme = base.scheme ∧ slashes < 2 then joinRelative base rest
    else parseAfterScheme scheme rest
  | none =>
    match base.path, cs.head? with
    | .flat _, some '#' => joinRelative base cs
    | .flat _, _ => .error .relativeToFlatBase
    | _, _ => joinRelative base cs

end Relay.Url
