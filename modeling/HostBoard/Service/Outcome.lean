import HostBoard.Payload.Host
import HostBoard.Payload.HostList
import HostBoard.Payload.Log
import HostBoard.Service.Event
import HostBoard.Status

/-!
# Outcomes of a fetch

What a reply means for what was fetched, and which warnings it calls for. A reply whose status is
no success is read as a JSON value of any shape and handed on with its status. The host list is the
exception: it is read as a list whatever its status says.
-/

namespace HostBoard

/-- A response that was no success: its status and its body. -/
structure Rejection where
  status : Nat
  body : Json
deriving Repr

/-- The values a warning about a rejection carries. -/
def Rejection.fields (r : Rejection) : List (String × String) :=
  [("status", toString r.status), ("body", r.body.compact)]

/-- The result of fetching one host. -/
inductive HostOutcome where
  | loaded (host : HostDescriptor)
  | rejected (rejection : Rejection)
  | failed (failure : Failure)
deriving Repr

/-- The result of fetching the logs. -/
inductive LogsOutcome where
  | entries (entries : List LogEntry)
  | rejected (rejection : Rejection)
  | failed (failure : Failure)
deriving Repr

/-- The addresses of the hosts in a list, and the rejection that came with it, if any. -/
structure HostLinks where
  hrefs : List String
  rejected : Option Rejection
deriving Repr

/-- The result of fetching the host list. -/
abbrev LinksOutcome := Except Failure HostLinks

namespace HostOutcome

/-- What a response for a host means. -/
def ofResponse (url : String) (response : Response) : HostOutcome :=
  if SuccessCheck.wholeClass.accepts response.status then
    match HostDescriptor.decode url response.body with
    | .ok host => .loaded host
    | .error e => .failed (.decode e)
  else
    match Payload.decodeValue url response.body with
    | .ok body => .rejected ⟨response.status, body⟩
    | .error e => .failed (.decode e)

/-- What a reply to a request for a host means. -/
def ofReply (url : String) : Reply → HostOutcome
  | .ok response => ofResponse url response
  | .error e => .failed (.transport e)

/-- The warning that an outcome calls for, when a response was received. -/
def warnings (span : Span) : HostOutcome → List Event
  | .rejected r => [span.warn "host request rejected" r.fields]
  | .failed (.decode e) => [span.warn "host payload rejected" [("error", e.text)]]
  | _ => []

end HostOutcome

namespace LogsOutcome

/-- What a response for the logs means. -/
def ofResponse (url : String) (response : Response) : LogsOutcome :=
  if SuccessCheck.firstTen.accepts response.status then
    match LogEntry.decodeList url response.body with
    | .ok read => .entries read
    | .error e => .failed (.decode e)
  else
    match Payload.decodeValue url response.body with
    | .ok body => .rejected ⟨response.status, body⟩
    | .error e => .failed (.decode e)

/-- What a reply to a request for the logs means. -/
def ofReply (url : String) : Reply → LogsOutcome
  | .ok response => ofResponse url response
  | .error e => .failed (.transport e)

/-- The warning that an outcome calls for, when a response was received. -/
def warnings (span : Span) : LogsOutcome → List Event
  | .rejected r => [span.warn "log request rejected" r.fields]
  | .failed (.decode e) => [span.warn "log payload rejected" [("error", e.text)]]
  | _ => []

end LogsOutcome

namespace HostLinks

/-- The rejection of a response for the host list; none if its body is no JSON. -/
def rejectionOf (url : String) (response : Response) : Option Rejection :=
  if SuccessCheck.firstTen.accepts response.status then none
  else
    match Payload.decodeValue url response.body with
    | .ok body => some ⟨response.status, body⟩
    | .error _ => none

/-- What a response for the host list means. -/
def ofResponse (url : String) (response : Response) : LinksOutcome :=
  match HostEntry.decodeList url response.body with
  | .ok entries => .ok ⟨entries.map HostEntry.href, rejectionOf url response⟩
  | .error e => .error (.decode e)

/-- What a reply to a request for the host list means. -/
def ofReply (url : String) : Reply → LinksOutcome
  | .ok response => ofResponse url response
  | .error e => .error (.transport e)

/-- The warning about the status of a response for the host list. -/
def statusWarnings (span : Span) (response : Response) : List Event :=
  if SuccessCheck.firstTen.accepts response.status then []
  else
    match Payload.decodeValue span.url response.body with
    | .ok body => [span.warn "host list rejected" (Rejection.fields ⟨response.status, body⟩)]
    | .error e =>
      [span.warn "host list rejected" [("status", toString response.status), ("error", e.text)]]

/-- The warning about the body of a response for the host list. -/
def bodyWarnings (span : Span) (response : Response) : List Event :=
  match HostEntry.decodeList span.url response.body with
  | .ok _ => []
  | .error e => [span.warn "host list payload rejected" [("error", e.text)]]

end HostLinks

end HostBoard
