/-!
# Failures of a load

A load fails because no response arrived, or because the response cannot be read. Either way the
failure keeps the address that was asked for, so that it can be shown beside what asked.
-/

namespace HostBoard

/-- No response arrived for a request. -/
structure TransportError where
  url : String
  message : String
deriving DecidableEq, Repr

/-- A response is not JSON, or not of the expected shape. -/
structure DecodeError where
  url : String
  message : String
deriving DecidableEq, Repr

/-- Why a load failed. -/
inductive Failure where
  | transport (error : TransportError)
  | decode (error : DecodeError)
deriving DecidableEq, Repr

/-- A failed request in words. -/
def TransportError.text (e : TransportError) : String :=
  "request to " ++ e.url ++ " failed: " ++ e.message

/-- An unreadable response in words. -/
def DecodeError.text (e : DecodeError) : String :=
  "invalid payload from " ++ e.url ++ ": " ++ e.message

namespace Failure

/-- A failure in words. -/
def text : Failure → String
  | .transport e => e.text
  | .decode e => e.text

/-- The address that was asked for. -/
def url : Failure → String
  | .transport e => e.url
  | .decode e => e.url

end Failure

end HostBoard
