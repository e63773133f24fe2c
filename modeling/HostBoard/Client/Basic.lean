import HostBoard.Failure

/-!
# Clients

A client answers requests. It is any state machine: what it answers may depend on every request
before. An answer is a response, whatever its status, or the failure to get one.
-/

namespace HostBoard

/-- A response: its status and its body as text. -/
structure Response where
  status : Nat
  body : String
deriving DecidableEq, Repr

/-- What a request leads to. -/
abbrev Reply := Except TransportError Response

/-- A state machine that answers requests for addresses. -/
structure Client (σ : Type) where
  get : σ → String → Reply × σ

/-- The client whose answer depends on the address alone. -/
def Client.constant (reply : String → Reply) : Client Unit where
  get _ url := (reply url, ())

end HostBoard
