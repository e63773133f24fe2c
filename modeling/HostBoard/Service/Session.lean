import HostBoard.Service.Outcome

/-!
# Sessions

A session is the state of a client together with the record of what was asked of it and what was
reported. A fetch makes one request and reports on it.
-/

namespace HostBoard

/-- A client's state, the addresses asked for, and the events, each in order. -/
structure Session (σ : Type) where
  state : σ
  requested : List String
  events : List Event

namespace Session

variable {σ : Type}

/-- A session in which nothing was asked yet. -/
def start (state : σ) : Session σ :=
  ⟨state, [], []⟩

/-- Report events. -/
def note (events : List Event) (s : Session σ) : Session σ :=
  { s with events := s.events ++ events }

/-- Make a request and report it with its end. -/
def ask (client : Client σ) (span : Span) (s : Session σ) : Reply × Session σ :=
  let (reply, state) := client.get s.state span.url
  (reply, ⟨state, s.requested ++ [span.url], s.events ++ [span.asking, span.answered reply]⟩)

/-- Fetch one host. -/
def fetchHost (client : Client σ) (url : String) (s : Session σ) : HostOutcome × Session σ :=
  let span : Span := ⟨.host, url⟩
  let (reply, s) := s.ask client span
  let outcome := HostOutcome.ofReply url reply
  (outcome, s.note (outcome.warnings span))

/-- Fetch the logs. -/
def fetchLogs (client : Client σ) (url : String) (s : Session σ) : LogsOutcome × Session σ :=
  let span : Span := ⟨.logs, url⟩
  let (reply, s) := s.ask client span
  let outcome := LogsOutcome.ofReply url reply
  (outcome, s.note (outcome.warnings span))

/-- The warnings about a reply to a request for the host list, when a response was received. -/
def linksWarnings (span : Span) : Reply → List Event
  | .ok response => HostLinks.statusWarnings span response ++ HostLinks.bodyWarnings span response
  | .error _ => []

/-- Fetch the host list. -/
def fetchHostLinks (client : Client σ) (url : String) (s : Session σ) :
    LinksOutcome × Session σ :=
  let span : Span := ⟨.hostLinks, url⟩
  let (reply, s) := s.ask client span
  (HostLinks.ofReply url reply, s.note (linksWarnings span reply))

/-- Fetch hosts one after another. -/
def fetchHosts (client : Client σ) : List String → Session σ → List HostOutcome × Session σ
  | [], s => ([], s)
  | url :: urls, s =>
    let (outcome, s) := s.fetchHost client url
    let (outcomes, s) := fetchHosts client urls s
    (outcome :: outcomes, s)

end Session

end HostBoard
