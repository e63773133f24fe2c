/-!
# Why an address cannot be read

The reasons for which a text is no address, with their wording.
-/

namespace HostBoard

/-- Why a text is no address. -/
inductive UrlError where
  | emptyHost
  | badDomain
  | badPort
  | badIpv4
  | badIpv6
  | badHostCharacter
  | relativeWithoutBase
  | rootlessBase
deriving DecidableEq, Repr

/-- The reason in words. -/
def UrlError.message : UrlError → String
  | .emptyHost => "empty host"
  | .badDomain => "invalid international domain name"
  | .badPort => "invalid port number"
  | .badIpv4 => "invalid IPv4 address"
  | .badIpv6 => "invalid IPv6 address"
  | .badHostCharacter => "invalid domain character"
  | .relativeWithoutBase => "relative URL without a base"
  | .rootlessBase => "relative URL with a cannot-be-a-base base"

end HostBoard
