import HostBoard.Client.Basic

/-!
# Diagnostic events

What the loaders report about their work. Every event belongs to the fetch that emitted it, which
is known by its kind and its address.
-/

namespace HostBoard

/-- What is being fetched. -/
inductive FetchKind where
  | host
  | hostLinks
  | logs
deriving DecidableEq, Repr

/-- The name of a fetch in diagnostics. -/
def FetchKind.name : FetchKind → String
  | .host => "fetch_host"
  | .hostLinks => "fetch_host_links"
  | .logs => "fetch_logs"

/-- One fetch: what, and from where. -/
structure Span where
  kind : FetchKind
  url : String
deriving DecidableEq, Repr

/-- How serious an event is. -/
inductive Level where
  | debug
  | warn
deriving DecidableEq, Repr

/-- The name of a level. -/
def Level.name : Level → String
  | .debug => "DEBUG"
  | .warn => "WARN"

/-- A report with its named values, all of them as text. -/
structure Event where
  level : Level
  message : String
  fields : List (String × String)
  span : Span
deriving DecidableEq, Repr

/-- A warning of a fetch. -/
def Span.warn (span : Span) (message : String) (fields : List (String × String)) : Event :=
  ⟨.warn, message, fields, span⟩

/-- A request is about to be made. -/
def Span.asking (span : Span) : Event :=
  ⟨.debug, "GET", [("url", span.url)], span⟩

/-- How a request ended. -/
def Span.answered (span : Span) : Reply → Event
  | .ok response =>
    ⟨.debug, "response received",
      [("url", span.url), ("status", toString response.status)], span⟩
  | .error e => span.warn "request failed" [("error", e.text)]

end HostBoard
