import Relay.Percent
import Relay.Url.Error
import Relay.Url.Idna
import Relay.Url.Ipv4
import Relay.Url.Ipv6

/-!
Hosts of URLs: names, and addresses in either family.
-/

namespace Relay.Url

inductive Host
  | domain (name : String)
  | ipv4 (address : UInt32)
  | ipv6 (pieces : List UInt16)
deriving DecidableEq, Repr

namespace Host

def text : Host → String
  | .domain name => name
  | .ipv4 a => Ipv4.text a
  | .ipv6 ps => "[" ++ Ipv6.text ps ++ "]"

def parseBracketed (cs : List Char) : Except ParseError Host :=
  if cs.getLast? = some ']' then
    match Ipv6.parse? cs.dropLast with
    | some ps => .ok (.ipv6 ps)
    | none => .error .invalidIpv6
  else .error .invalidIpv6

def name? (cs : List Char) : Option (List Char) :=
  (Utf8.decode? (Percent.decode (Utf8.encode (String.ofList cs)))).bind fun decoded =>
    Idna.toAscii? decoded.toList

def ofName (name : List Char) : Except ParseError Host :=
  if name.isEmpty then .error .emptyHost
  else if Ipv4.endsInNumber name then
    match Ipv4.parse? name with
    | some a => .ok (.ipv4 a)
    | none => .error .invalidIpv4
  else .ok (.domain (String.ofList name))

def parse (cs : List Char) : Except ParseError Host :=
  match cs with
  | '[' :: rest => parseBracketed rest
  | cs =>
    match name? cs with
    | some name => ofName name
    | none => .error .invalidDomainName

def isForbidden (c : Char) : Bool :=
  c.toNat == 0 || c.toNat == 9 || c.toNat == 10 || c.toNat == 13 || c.toNat == 32 ||
    "#/:<>?@[\\]^|".toList.contains c

def isControl (c : Char) : Bool := c.toNat < 32 || c.toNat == 127

/-- The host of any other scheme: kept as it stands, with controls and characters outside ASCII
escaped. -/
def parseUnread (cs : List Char) : Except ParseError Host :=
  match cs with
  | '[' :: rest => parseBracketed rest
  | cs =>
    if cs.any isForbidden then .error .invalidDomainCharacter
    else .ok (.domain (String.ofList (Percent.encode isControl cs)))

end Relay.Url.Host
