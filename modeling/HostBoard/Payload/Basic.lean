import HostBoard.Failure
import HostBoard.Json.Record

/-!
# Decoding response bodies

The body of a response is decoded at once and as a whole. What cannot be decoded is a failure
that names the address the body came from.
-/

namespace HostBoard.Payload

open Json (Reader)

/-- Decode a body received from an address. -/
def decode {α : Type} (read : Reader α) (url body : String) : Except DecodeError α :=
  match Json.document read body with
  | .ok v => .ok v
  | .error fault => .error ⟨url, fault.message⟩

/-- Decode a body of unknown shape. -/
def decodeValue (url body : String) : Except DecodeError Json :=
  decode Json.value url body

end HostBoard.Payload
