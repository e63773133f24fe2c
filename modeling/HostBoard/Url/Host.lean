import HostBoard.Url.Domain
import HostBoard.Url.Ipv6

/-!
# Hosts

The schemes of the web name a host by an address or by a domain, which is percent-decoded and
written in ASCII. Other schemes may name it by any text without delimiters.
-/

namespace HostBoard.Url

/-- Who is addressed. -/
inductive Host where
  | domain (name : String)
  | ipv4 (address : Nat)
  | ipv6 (pieces : List Nat)
deriving DecidableEq, Repr

namespace Host

/-- The text of a host. -/
def text : Host → String
  | .domain name => name
  | .ipv4 address => ipv4Text address
  | .ipv6 pieces => ipv6Text pieces

/-- A character that no other host may hold. -/
def isDelimiter (c : Char) : Bool :=
  ['\x00', '\t', '\n', '\r', ' ', '#', '/', ':', '<', '>', '?', '@', '[', '\\', ']', '^',
    '|'].contains c

/-- Read an address between brackets. -/
def parseBracketed (text : List Char) : Except UrlError Host :=
  if text.getLast? = some ']' then Host.ipv6 <$> parseIpv6 text.tail.dropLast
  else .error .badIpv6

/-- Read a host of the schemes of the web. -/
def parse (idna : Idna) (text : List Char) : Except UrlError Host :=
  if text.head? = some '[' then parseBracketed text
  else
    match domain? idna (percentDecode text) with
    | none => .error .badDomain
    | some name =>
      if name.isEmpty then .error .emptyHost
      else if endsInNumber name then Host.ipv4 <$> parseIpv4 name
      else .ok (.domain (String.ofList name))

/-- Read a host of any other scheme; none if it is empty. -/
def parseOther (text : List Char) : Except UrlError (Option Host) :=
  if text.head? = some '[' then some <$> parseBracketed text
  else if text.any isDelimiter then .error .badHostCharacter
  else if text.isEmpty then .ok none
  else .ok (some (.domain (String.ofList (percentEncode alwaysEncoded text))))

end Host

end HostBoard.Url
