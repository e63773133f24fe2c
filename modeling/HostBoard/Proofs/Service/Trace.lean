import HostBoard.Proofs.Service.Combined
import HostBoard.Proofs.Service.Reports

/-!
# The trace of requests

The events of a session tell what was asked of the client and what it answered. Every request is
announced by an event of its own, and the events up to the next announcement are those of one fetch:
all of them lie in its span, and exactly one of them tells how the request ended.

What calls do is told by the exchanges that they make (`Call.exchanges`): which fetch asked for what,
and what came back. A session grows by exchanges if its requests, its state and its events all grow
by theirs (`Session.Makes`). Single fetches are steps of this relation, it is transitive, and so
whole calls and sequences of calls are steps of it too. The law is then about the report of one
exchange alone (`Exchange.traces_report`).
-/

namespace HostBoard

namespace Event

/-- A request is about to be made. -/
def isGet (event : Event) : Bool :=
  event.level = .debug && event.message = "GET"

/-- A request has ended, with a response or without one. -/
def isAnswer (event : Event) : Bool :=
  (event.level = .debug && event.message = "response received") ||
    (event.level = .warn && event.message = "request failed")

/-- The value of a field. -/
def field (event : Event) (name : String) : Option String :=
  event.fields.lookup name

/-- The event tells how a request for an address ended. -/
def Answers (event : Event) (url : String) : Reply → Prop
  | .ok response => event.level = .debug ∧ event.message = "response received" ∧
      event.field "url" = some url ∧ event.field "status" = some (toString response.status)
  | .error e => event.level = .warn ∧ event.message = "request failed" ∧
      event.field "error" = some e.text

end Event

/-- The address that was asked for. -/
def Exchange.url (x : Exchange) : String :=
  x.span.url

/-- The events from one request up to the next trace an exchange: the first of them announces the
request and no other announces any, one of them tells how it ended, and all lie in its span. -/
structure Exchange.Traces (x : Exchange) (events : List Event) : Prop where
  announced : ∃ first others, events = first :: others ∧ first.isGet ∧
    first.field "url" = some x.url ∧ ∀ event ∈ others, ¬event.isGet
  answered : ∃ event, events.filter Event.isAnswer = [event] ∧ event.Answers x.url x.reply
  inside : ∀ event ∈ events, event.span = x.span

/-- A call of the service: one of the loads of a page, or a single fetch. -/
inductive Call where
  | load (endpoints : Endpoints)
  | loadHosts (url : String)
  | loadLogs (url : String)
  | fetchHost (url : String)
  | fetchHostLinks (url : String)
  | fetchLogs (url : String)

variable {σ : Type} (client : Client σ)

namespace Call

/-- What a call does to a page and a session. A single fetch hands its outcome to the caller and
leaves the page as it is. -/
def run (call : Call) (page : Page) (s : Session σ) : Page × Session σ :=
  match call with
  | .load endpoints => page.load client endpoints s
  | .loadHosts url => page.loadHosts client url s
  | .loadLogs url => page.loadLogs client url s
  | .fetchHost url => (page, (s.fetchHost client url).2)
  | .fetchHostLinks url => (page, (s.fetchHostLinks client url).2)
  | .fetchLogs url => (page, (s.fetchLogs client url).2)

/-- What calls do, one after another. -/
def runAll : List Call → Page → Session σ → Page × Session σ
  | [], page, s => (page, s)
  | call :: calls, page, s =>
    let (page, s) := call.run client page s
    runAll calls page s

/-- The fetches of the hosts in a list, with the replies to them. -/
def hostExchanges (links : LinksOutcome) (state : σ) : List Exchange :=
  List.zipWith Exchange.ofHost (HostLinks.listed links)
    (client.answers state (HostLinks.listed links)).1

/-- The fetches that a call makes, with the replies to them. -/
def exchanges (state : σ) : Call → List Exchange
  | .load endpoints =>
    let (hosts, state) := client.get state endpoints.hosts
    let (logs, state) := client.get state endpoints.logs
    Exchange.ofHostList endpoints.hosts hosts :: Exchange.ofLogs endpoints.logs logs ::
      hostExchanges client (HostLinks.ofReply endpoints.hosts hosts) state
  | .loadHosts url =>
    let (hosts, state) := client.get state url
    Exchange.ofHostList url hosts :: hostExchanges client (HostLinks.ofReply url hosts) state
  | .loadLogs url => [Exchange.ofLogs url (client.get state url).1]
  | .fetchHost url => [Exchange.ofHost url (client.get state url).1]
  | .fetchHostLinks url => [Exchange.ofHostList url (client.get state url).1]
  | .fetchLogs url => [Exchange.ofLogs url (client.get state url).1]

end Call

/-- The fetches that calls make, with the replies to them. -/
def Call.exchangesAll : List Call → σ → List Exchange
  | [], _ => []
  | call :: calls, state =>
    let made := call.exchanges client state
    made ++ exchangesAll calls (client.answers state (made.map Exchange.url)).2

/-! ### The report of one exchange -/

namespace Exchange

lemma message_of_mem_warnings {span : Span} {rejection payload : String} {ending : Ending}
    {event : Event} (among : event ∈ ending.warnings span rejection payload) :
    event.message = rejection ∨ event.message = payload := by
  cases ending with
  | loaded => cases among
  | rejected r =>
    cases List.mem_singleton.mp among
    exact .inl rfl
  | failed failure =>
    cases failure with
    | transport e => cases among
    | decode e =>
      cases List.mem_singleton.mp among
      exact .inr rfl

lemma message_of_mem_linksWarnings {span : Span} {reply : Reply} {event : Event}
    (among : event ∈ Session.linksWarnings span reply) :
    event.message = "host list rejected" ∨ event.message = "host list payload rejected" := by
  cases reply with
  | error e => cases among
  | ok response =>
    rcases List.mem_append.mp among with status | body
    · left
      unfold HostLinks.statusWarnings at status
      split at status
      · cases status
      · split at status <;>
        · cases List.mem_singleton.mp status
          rfl
    · right
      unfold HostLinks.bodyWarnings at body
      split at body
      · cases body
      · cases List.mem_singleton.mp body
        rfl

/-- No remark of a fetch is about the end of its request. -/
lemma not_isAnswer_of_mem_remarks {x : Exchange} {event : Event} (among : event ∈ x.remarks) :
    ¬event.isAnswer := by
  obtain ⟨warned, -⟩ := mem_remarks among
  have other : event.message ≠ "request failed" := by
    obtain ⟨⟨kind, url⟩, reply⟩ := x
    cases kind with
    | host =>
      rw [← ofHost, remarks_ofHost] at among
      rcases message_of_mem_warnings among with message | message <;> simp [message]
    | logs =>
      rw [← ofLogs, remarks_ofLogs] at among
      rcases message_of_mem_warnings among with message | message <;> simp [message]
    | hostLinks => rcases message_of_mem_linksWarnings among with message | message <;> simp [message]
  simp [Event.isAnswer, warned, other]

lemma not_isGet_of_mem_remarks {x : Exchange} {event : Event} (among : event ∈ x.remarks) :
    ¬event.isGet := by
  obtain ⟨warned, -⟩ := mem_remarks among
  simp [Event.isGet, warned]

lemma isAnswer_answered (span : Span) (reply : Reply) : (span.answered reply).isAnswer := by
  cases reply <;> rfl

lemma answers_answered (span : Span) (reply : Reply) :
    (span.answered reply).Answers span.url reply := by
  cases reply with
  | ok response => exact ⟨rfl, rfl, rfl, rfl⟩
  | error e => exact ⟨rfl, rfl, rfl⟩

/-- The report of an exchange traces it. -/
lemma traces_report (x : Exchange) : x.Traces x.report where
  announced := by
    refine ⟨x.span.asking, _, rfl, rfl, rfl, ?_⟩
    intro event among
    rcases List.mem_cons.mp among with rfl | remark
    · cases x.reply <;> simp [Span.answered, Span.warn, Event.isGet]
    · exact not_isGet_of_mem_remarks remark
  answered := by
    refine ⟨x.span.answered x.reply, ?_, answers_answered x.span x.reply⟩
    have quiet : x.remarks.filter Event.isAnswer = [] :=
      List.filter_eq_nil_iff.mpr fun event => not_isAnswer_of_mem_remarks
    rw [report, List.filter_cons_of_neg (by simp [Span.asking, Event.isAnswer]),
      List.filter_cons_of_pos (isAnswer_answered x.span x.reply), quiet]
  inside event := span_of_mem_report

/-- The announcements in a trace are those of the request. -/
lemma Traces.gets {x : Exchange} {events : List Event} (traces : x.Traces events) :
    (events.filter Event.isGet).map (·.field "url") = [some x.url] := by
  obtain ⟨first, others, rfl, get, url, rest⟩ := traces.announced
  rw [List.filter_cons_of_pos get, List.filter_eq_nil_iff.mpr rest, List.map_singleton, url]

end Exchange

/-- The announcements in the traces of exchanges are those of their requests, in order. -/
lemma Event.gets_flatten {made : List Exchange} {traces : List (List Event)}
    (traced : List.Forall₂ Exchange.Traces made traces) :
    (traces.flatten.filter Event.isGet).map (·.field "url") =
      (made.map Exchange.url).map some := by
  induction traced with
  | nil => rfl
  | cons first _ ih =>
    rw [List.flatten_cons, List.filter_append, List.map_append, first.gets, ih]
    rfl

/-! ### Sessions that grow by exchanges -/

/-- A later session, and the exchanges that were made since an earlier one. -/
structure Session.Makes (s : Session σ) (made : List Exchange) (t : Session σ) : Prop
    extends s.Asks client (made.map Exchange.url) t where
  replies : (client.answers s.state (made.map Exchange.url)).1 = made.map Exchange.reply
  events : t.events = s.events ++ made.flatMap Exchange.report

namespace Session

variable {client} {s t u : Session σ}

lemma Makes.refl (s : Session σ) : s.Makes client [] s where
  requested := (List.append_nil s.requested).symm
  state := rfl
  replies := rfl
  events := (List.append_nil s.events).symm

lemma Makes.trans {first second : List Exchange} (one : s.Makes client first t)
    (two : t.Makes client second u) : s.Makes client (first ++ second) u where
  toAsks := by
    rw [List.map_append]
    exact one.toAsks.trans two.toAsks
  replies := by
    rw [List.map_append, List.map_append, client.replies_answers_append, one.replies, ← one.state,
      two.replies]
  events := by rw [two.events, one.events, List.flatMap_append, List.append_assoc]

variable (client) (url : String) (s : Session σ)

lemma makes_fetchHost :
    s.Makes client [.ofHost url (client.get s.state url).1] (s.fetchHost client url).2 where
  requested := rfl
  state := rfl
  replies := rfl
  events := by
    rw [events_fetchHost, List.flatMap_singleton]

lemma makes_fetchLogs :
    s.Makes client [.ofLogs url (client.get s.state url).1] (s.fetchLogs client url).2 where
  requested := rfl
  state := rfl
  replies := rfl
  events := by
    rw [events_fetchLogs, List.flatMap_singleton]

lemma makes_fetchHostLinks :
    s.Makes client [.ofHostList url (client.get s.state url).1] (s.fetchHostLinks client url).2 where
  requested := rfl
  state := rfl
  replies := rfl
  events := by
    rw [events_fetchHostLinks, List.flatMap_singleton]

lemma makes_fetchHosts (urls : List String) (s : Session σ) :
    s.Makes client (List.zipWith Exchange.ofHost urls (client.answers s.state urls).1)
      (s.fetchHosts client urls).2 := by
  induction urls generalizing s with
  | nil => exact .refl s
  | cons url urls ih => exact (makes_fetchHost client url s).trans (ih (s.fetchHost client url).2)

end Session

namespace Call

variable (page : Page) (s : Session σ)

lemma makes_mountAndLoad (links : LinksOutcome) :
    s.Makes client (hostExchanges client links s.state) (page.mountAndLoad client links s).2 := by
  rw [Page.session_mountAndLoad_listed]
  exact Session.makes_fetchHosts client (HostLinks.listed links) s

/-- What one call adds to a session. -/
lemma makes_run (call : Call) :
    s.Makes client (call.exchanges client s.state) (call.run client page s).2 := by
  cases call with
  | load endpoints =>
    have list := Session.makes_fetchHostLinks client endpoints.hosts s
    have logs := Session.makes_fetchLogs client endpoints.logs
      (s.fetchHostLinks client endpoints.hosts).2
    exact (list.trans logs).trans (makes_mountAndLoad client _ _ _)
  | loadHosts url =>
    exact (Session.makes_fetchHostLinks client url s).trans (makes_mountAndLoad client page _ _)
  | loadLogs url => exact Session.makes_fetchLogs client url s
  | fetchHost url => exact Session.makes_fetchHost client url s
  | fetchHostLinks url => exact Session.makes_fetchHostLinks client url s
  | fetchLogs url => exact Session.makes_fetchLogs client url s

/-- What calls add to a session. -/
lemma makes_runAll (calls : List Call) (page : Page) (s : Session σ) :
    s.Makes client (exchangesAll client calls s.state) (runAll client calls page s).2 := by
  induction calls generalizing page s with
  | nil => exact .refl s
  | cons call calls ih =>
    have first := makes_run client page s call
    have rest := ih (call.run client page s).1 (call.run client page s).2
    rw [first.state] at rest
    exact first.trans rest

/-- The trace of any calls mirrors their requests, for any client, any page and any session. The
calls ask for the addresses of the exchanges that they make, and get the replies of these. The new
events fall into one part for each exchange, which traces it: it begins with the only announcement
in it, which carries the address, holds exactly one event that tells how the request ended, and lies
in the span of the fetch that made the request. So the announcements of a trace are the requests. -/
theorem trace_mirrors_requests (calls : List Call) (page : Page) (s : Session σ) :
    let made := exchangesAll client calls s.state
    let urls := made.map Exchange.url
    let after := (runAll client calls page s).2
    after.requested = s.requested ++ urls ∧
    client.answers s.state urls = (made.map Exchange.reply, after.state) ∧
    ∃ traces : List (List Event),
      after.events = s.events ++ traces.flatten ∧
      (traces.flatten.filter Event.isGet).map (·.field "url") = urls.map some ∧
      List.Forall₂ Exchange.Traces made traces := by
  intro made urls after
  have makes : s.Makes client made after := makes_runAll client calls page s
  have traced : List.Forall₂ Exchange.Traces made (made.map Exchange.report) := by
    apply List.forall₂_map_right_iff.mpr
    exact List.forall₂_same.mpr fun x _ => x.traces_report
  refine ⟨makes.requested, ?_, made.map Exchange.report, ?_, Event.gets_flatten traced, traced⟩
  · exact Prod.ext makes.replies makes.state.symm
  · rw [makes.events, List.flatMap_def]

end Call

end HostBoard
