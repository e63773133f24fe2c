import HostBoard.Client.Basic
import HostBoard.Net.Network

/-!
# The network client

The client resolves what it is asked for against its base address, makes the request and follows
redirects. Its failures carry the address as it was asked for; their messages carry the address
that was used, without credentials.
-/

namespace HostBoard

/-- How many redirects are followed. -/
def redirectLimit : Nat := 10

namespace Url

/-- Resolve an address; what cannot be resolved is a failed request. -/
def resolveHref (idna : Idna) (base : Url) (href : String) : Except TransportError Url :=
  match base.resolve idna href with
  | .ok url => .ok url
  | .error e => .error ⟨href, e.message⟩

/-- An address as a message shows it. -/
def shown (u : Url) : String :=
  u.withoutCredentials.text

end Url

/-- What can go wrong once an address is resolved. -/
inductive SendError where
  | unsupported (url : Url)
  | unanswered (first : Url)
  | tooManyRedirects (last : Url)
  | brokenBody

/-- The error in words. -/
def SendError.message : SendError → String
  | .unsupported url => "builder error for url (" ++ url.shown ++ ")"
  | .unanswered first => "error sending request for url (" ++ first.shown ++ ")"
  | .tooManyRedirects last => "error following redirect for url (" ++ last.withoutFragment.shown ++ ")"
  | .brokenBody => "error decoding response body"

namespace Network

/-- The response that a resource makes. -/
def respond (r : Resource) : Except SendError Response :=
  if r.truncated then .error .brokenBody
  else .ok ⟨r.status, Text.ofOctetsLenient r.body⟩

/-- Make a request and follow its redirects, up to a number; `first` is where they started. -/
def send (idna : Idna) (net : Network) (first : Url) :
    Nat → Url → Except SendError Response × List String
  | left, url =>
    match net.deliver url with
    | (.refused, seen) => (.error (.unsupported url), seen)
    | (.unanswered, seen) => (.error (.unanswered first), seen)
    | (.answered r, seen) =>
      match r.redirect? idna url with
      | none => (respond r, seen)
      | some next =>
        match left with
        | 0 => (.error (.tooManyRedirects url), seen)
        | left + 1 =>
          let (result, more) := send idna net first left next
          (result, seen ++ more)

/-- Answer a request for an address that is resolved against a base: the reply, and what the
network saw. -/
def get (idna : Idna) (net : Network) (base : Url) (href : String) : Reply × List String :=
  match base.resolveHref idna href with
  | .error e => (.error e, [])
  | .ok url =>
    let (result, seen) := net.send idna url redirectLimit url
    (result.mapError fun e => ⟨href, e.message⟩, seen)

/-- The client over a network; its state is what the network has seen. -/
def client (idna : Idna) (net : Network) (base : Url) : Client (List String) where
  get seen href :=
    let (reply, more) := net.get idna base href
    (reply, seen ++ more)

end Network

end HostBoard
