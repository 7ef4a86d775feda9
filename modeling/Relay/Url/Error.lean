/-!
Why a text is not a URL.
-/

namespace Relay.Url

inductive ParseError
  | relativeWithoutBase
  | relativeToFlatBase
  | emptyHost
  | invalidDomainName
  | invalidDomainCharacter
  | invalidNumberAfterColon
  | invalidIpv4
  | invalidIpv6
deriving DecidableEq, Repr

def ParseError.message : ParseError → String
  | .relativeWithoutBase => "relative URL without a base"
  | .relativeToFlatBase => "relative URL with a cannot-be-a-base base"
  | .emptyHost => "empty host"
  | .invalidDomainName => "invalid international domain name"
  | .invalidDomainCharacter => "invalid domain character"
  | .invalidNumberAfterColon => "invalid port number"
  | .invalidIpv4 => "invalid IPv4 address"
  | .invalidIpv6 => "invalid IPv6 address"

end Relay.Url
