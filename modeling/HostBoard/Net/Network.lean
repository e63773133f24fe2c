import HostBoard.Text.Utf8
import HostBoard.Url.Parser

/-!
# Networks

A network answers requests for addresses, or is out of reach. A secure address is reached through a
tunnel to its host, which the network may fail to build; what stands behind a tunnel is asked like
anything else.
-/

namespace HostBoard

/-- What a network holds at an address. A body may break off before its announced end. -/
structure Resource where
  status : Nat
  body : List UInt8
  location : Option String
  truncated : Bool
deriving DecidableEq, Repr

/-- A network: out of reach, or with tunnels to some hosts and resources at some addresses. -/
inductive Network where
  | outOfReach
  | resources (tunnels : String → Bool) (find : String → Option Resource)

namespace Resource

/-- The statuses that send a request on to another address. -/
def redirectStatuses : List Nat := [301, 302, 303, 307, 308]

/-- Where a request for an address is sent on to. -/
def redirect? (idna : Idna) (r : Resource) (url : Url) : Option Url :=
  if redirectStatuses.contains r.status then
    r.location.bind fun location => (url.resolve idna location).toOption
  else none

end Resource

/-- What becomes of one request: it cannot be made, or no answer comes, or a resource. -/
inductive Delivery where
  | refused
  | unanswered
  | answered (resource : Resource)

namespace Url

/-- The characters that a domain may hold and a request may not. -/
def unsendable : List Char := ['"', '\x60', '\x7b', '\x7d']

/-- The most octets that an address may have in a request. -/
def requestLimit : Nat := 65534

/-- A request for the address can be made: it has a scheme that is spoken, its host holds plain
characters only, and it is not too long. -/
def isSendable (u : Url) : Bool :=
  (u.scheme = "http" || u.scheme = "https") &&
    ((u.host.map Host.text).getD "").toList.all (fun c => !unsendable.contains c) &&
    u.withoutCredentials.text.utf8ByteSize ≤ requestLimit

end Url

namespace Network

/-- The address under which a network knows a resource. -/
def key (url : Url) : String :=
  url.withoutCredentials.withoutFragment.text

/-- Where the tunnel to a secure address leads. -/
def tunnelEnd (url : Url) : String :=
  (url.host.map Url.Host.text).getD "" ++ ":" ++ toString (url.port.getD 0)

/-- What the network sees of a request for an address. -/
def sighting (url : Url) : String :=
  "GET " ++ key url

/-- Make one request: what becomes of it, and what the network sees. -/
def deliver (net : Network) (url : Url) : Delivery × List String :=
  if url.isSendable then
    match net with
    | .outOfReach => (.unanswered, [])
    | .resources tunnels find =>
      if url.scheme = "https" ∧ !tunnels (tunnelEnd url) then
        (.unanswered, ["CONNECT " ++ tunnelEnd url])
      else
        match find (key url) with
        | some r => (.answered r, [sighting url])
        | none => (.unanswered, [sighting url])
  else (.refused, [])

end Network

end HostBoard
