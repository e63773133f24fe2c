import HostBoard.Proofs.Service.Endings
import HostBoard.Proofs.Service.HostsError
import Mathlib.Data.List.Forall2

/-!
# No failure vanishes

Whatever goes wrong in a load is reported, even where the page does not show it. A fetch that has
ended is an `Exchange`: its span and the reply it got. This alone tells what the fetch has reported
(`Exchange.report`), so the events of a load are the reports of its exchanges, one after another.

There are two facts about a single report. It holds no warning exactly if the reply is what was
hoped for (`Exchange.quiet_iff`); and a failure that is handed on, to be shown somewhere, is the
`error` of some warning in it. The first goes from one exchange to all exchanges of a load; the
second meets the page view by view, because the exchanges of the hosts stand in the order of their
views.
-/

namespace HostBoard

/-- The warnings among events. -/
def Event.warnings (events : List Event) : List Event :=
  events.filter fun event => event.level = .warn

/-- A fetch that has ended: which one it was, and what was answered. -/
structure Exchange where
  span : Span
  reply : Reply

namespace Exchange

def ofHost (url : String) (reply : Reply) : Exchange := ⟨⟨.host, url⟩, reply⟩

def ofHostList (url : String) (reply : Reply) : Exchange := ⟨⟨.hostLinks, url⟩, reply⟩

def ofLogs (url : String) (reply : Reply) : Exchange := ⟨⟨.logs, url⟩, reply⟩

/-- What a fetch remarks about a response. -/
def remarks (x : Exchange) : List Event :=
  match x.span.kind with
  | .host => (HostOutcome.ofReply x.span.url x.reply).warnings x.span
  | .hostLinks => Session.linksWarnings x.span x.reply
  | .logs => (LogsOutcome.ofReply x.span.url x.reply).warnings x.span

/-- All that a fetch reports. -/
def report (x : Exchange) : List Event :=
  x.span.asking :: x.span.answered x.reply :: x.remarks

/-- The reply is what was hoped for: a response with a status of success, whose body can be read as
what was fetched. -/
def Fulfilled (x : Exchange) : Prop :=
  ∃ response, x.reply = .ok response ∧
    match x.span.kind with
    | .host => (200 ≤ response.status ∧ response.status ≤ 299) ∧
        ∃ host, HostDescriptor.decode x.span.url response.body = .ok host
    | .hostLinks => (200 ≤ response.status ∧ response.status ≤ 209) ∧
        ∃ entries, HostEntry.decodeList x.span.url response.body = .ok entries
    | .logs => (200 ≤ response.status ∧ response.status ≤ 209) ∧
        ∃ entries, LogEntry.decodeList x.span.url response.body = .ok entries

/-- A warning in the span of the fetch has the text as its error. -/
def Warns (x : Exchange) (text : String) : Prop :=
  ∃ event ∈ x.report, event.level = .warn ∧ event.span = x.span ∧
    event.fields.lookup "error" = some text

/-- The fetch is that of the view, and warns of the error that the view shows, if it shows any. -/
def Covers (x : Exchange) (view : HostView) : Prop :=
  x.span = ⟨.host, view.url⟩ ∧ ∀ text, view.error = some text → x.Warns text

end Exchange

/-- The events of one fetch of a host or of the logs. They lie in its span and hold one warning at
most, which for a rejection has the status and the body of it. -/
structure Span.Accounts (span : Span) (ending : Ending) (events : List Event) : Prop where
  inside : ∀ event ∈ events, event.span = span
  single : (Event.warnings events).length ≤ 1
  rejection : ∀ r, ending = .rejected r → ∃ message,
    Event.warnings events =
      [⟨.warn, message, [("status", toString r.status), ("body", r.body.compact)], span⟩]

namespace Exchange

open Event (warnings)

lemma remarks_ofHost (url : String) (reply : Reply) :
    (ofHost url reply).remarks =
      (Ending.ofReply .wholeClass (HostDescriptor.decode url) url reply).warnings ⟨.host, url⟩
        "host request rejected" "host payload rejected" := by
  rw [← HostOutcome.ending_ofReply, ← HostOutcome.warnings_eq]
  rfl

lemma remarks_ofLogs (url : String) (reply : Reply) :
    (ofLogs url reply).remarks =
      (Ending.ofReply .firstTen (LogEntry.decodeList url) url reply).warnings ⟨.logs, url⟩
        "log request rejected" "log payload rejected" := by
  rw [← LogsOutcome.ending_ofReply, ← LogsOutcome.warnings_eq]
  rfl

lemma mem_linksWarnings {span : Span} {reply : Reply} {event : Event}
    (among : event ∈ Session.linksWarnings span reply) :
    event.level = .warn ∧ event.span = span := by
  cases reply with
  | error e => cases among
  | ok response =>
    rcases List.mem_append.mp among with status | body
    · unfold HostLinks.statusWarnings at status
      split at status
      · cases status
      · split at status <;>
        · cases List.mem_singleton.mp status
          exact ⟨rfl, rfl⟩
    · unfold HostLinks.bodyWarnings at body
      split at body
      · cases body
      · cases List.mem_singleton.mp body
        exact ⟨rfl, rfl⟩

lemma mem_remarks {x : Exchange} {event : Event} (among : event ∈ x.remarks) :
    event.level = .warn ∧ event.span = x.span := by
  obtain ⟨⟨kind, url⟩, reply⟩ := x
  cases kind with
  | host => exact Ending.mem_warnings (remarks_ofHost url reply ▸ among)
  | logs => exact Ending.mem_warnings (remarks_ofLogs url reply ▸ among)
  | hostLinks => exact mem_linksWarnings among

lemma span_of_mem_report {x : Exchange} {event : Event} (among : event ∈ x.report) :
    event.span = x.span := by
  rcases List.mem_cons.mp among with rfl | among
  · rfl
  rcases List.mem_cons.mp among with rfl | among
  · cases x.reply <;> rfl
  · exact (mem_remarks among).2

lemma remarks_error (span : Span) (e : TransportError) : remarks ⟨span, .error e⟩ = [] := by
  obtain ⟨kind, url⟩ := span
  cases kind <;> rfl

/-- Without a response there is one warning, about the request. -/
lemma warnings_report_error (span : Span) (e : TransportError) :
    warnings (report ⟨span, .error e⟩) = [span.warn "request failed" [("error", e.text)]] := by
  rw [report, remarks_error]
  rfl

/-- With a response the warnings are the remarks. -/
lemma warnings_report_ok (span : Span) (response : Response) :
    warnings (report ⟨span, .ok response⟩) = remarks ⟨span, .ok response⟩ := by
  have remarked : warnings (remarks ⟨span, .ok response⟩) = remarks ⟨span, .ok response⟩ := by
    apply List.filter_eq_self.mpr
    intro event among
    exact decide_eq_true (mem_remarks among).1
  rw [report]
  exact remarked

lemma linksWarnings_eq_nil_iff (span : Span) (response : Response) :
    Session.linksWarnings span (.ok response) = [] ↔
      SuccessCheck.firstTen.accepts response.status = true ∧
        ∃ entries, HostEntry.decodeList span.url response.body = .ok entries := by
  -- The list is read whatever the status is, so each of the two can call for a warning.
  have status : HostLinks.statusWarnings span response = [] ↔
      SuccessCheck.firstTen.accepts response.status = true := by
    rw [HostLinks.statusWarnings]
    by_cases accepted : SuccessCheck.firstTen.accepts response.status = true
    · rw [if_pos accepted]
      exact iff_of_true rfl accepted
    · rw [if_neg accepted]
      refine iff_of_false ?_ accepted
      cases Payload.decodeValue span.url response.body with
      | ok body => exact nofun
      | error e => exact nofun
  have body : HostLinks.bodyWarnings span response = [] ↔
      ∃ entries, HostEntry.decodeList span.url response.body = .ok entries := by
    rw [HostLinks.bodyWarnings]
    cases HostEntry.decodeList span.url response.body with
    | ok entries => exact iff_of_true rfl ⟨entries, rfl⟩
    | error e => exact iff_of_false nofun nofun
  exact List.append_eq_nil_iff.trans (and_congr status body)

/-- A fetch warns of nothing exactly if its reply is what was hoped for. -/
lemma quiet_iff (x : Exchange) : warnings x.report = [] ↔ x.Fulfilled := by
  obtain ⟨⟨kind, url⟩, reply⟩ := x
  cases reply with
  | error e =>
    rw [warnings_report_error]
    exact iff_of_false nofun nofun
  | ok response =>
    rw [warnings_report_ok, Fulfilled]
    simp only [Except.ok.injEq, exists_eq_left', ← accepts_wholeClass_iff, ← accepts_firstTen_iff]
    cases kind with
    | host =>
      rw [← ofHost, remarks_ofHost]
      exact Ending.warnings_ofReply_ok_eq_nil_iff _ _ _ _ _ _ response
    | logs =>
      rw [← ofLogs, remarks_ofLogs]
      exact Ending.warnings_ofReply_ok_eq_nil_iff _ _ _ _ _ _ response
    | hostLinks => exact linksWarnings_eq_nil_iff ⟨.hostLinks, url⟩ response

lemma warns_of_error (span : Span) (e : TransportError) : Warns ⟨span, .error e⟩ e.text :=
  ⟨span.answered (.error e), List.mem_cons_of_mem _ List.mem_cons_self, rfl, rfl, rfl⟩

lemma warns_of_mem_remarks {x : Exchange} {message text : String}
    (among : x.span.warn message [("error", text)] ∈ x.remarks) : x.Warns text :=
  ⟨_, List.mem_cons_of_mem _ (List.mem_cons_of_mem _ among), rfl, rfl, rfl⟩

section

variable {x : Exchange} {rejection payload : String} {α : Type} {check : SuccessCheck}
  {read : String → Except DecodeError α} {url : String}

/-- A fetch that remarks what its ending calls for warns of the failure that it hands on. -/
lemma warns_of_failed {failure : Failure}
    (remarked : x.remarks = (Ending.ofReply check read url x.reply).warnings x.span rejection payload)
    (failed : Ending.ofReply check read url x.reply = .failed failure) : x.Warns failure.text := by
  rw [failed] at remarked
  obtain ⟨e, lost, rfl⟩ | ⟨response, e, -, rfl, -⟩ := Ending.ofReply_eq_failed _ _ _ failed
  · obtain ⟨span, reply⟩ := x
    subst lost
    exact warns_of_error span e
  · apply warns_of_mem_remarks
    rw [remarked]
    exact List.mem_singleton_self _

/-- A fetch that remarks what its ending calls for accounts for it. -/
lemma accounts_of_remarks
    (remarked : x.remarks =
      (Ending.ofReply check read url x.reply).warnings x.span rejection payload) :
    x.span.Accounts (Ending.ofReply check read url x.reply) x.report := by
  obtain ⟨span, reply⟩ := x
  refine ⟨fun event => span_of_mem_report, ?_, ?_⟩
  · cases reply with
    | error e =>
      rw [warnings_report_error]
      exact Nat.le_refl 1
    | ok response =>
      rw [warnings_report_ok, remarked]
      exact Ending.length_warnings_le _ _ _ _
  · intro r rejected
    cases reply with
    | error e => cases rejected
    | ok response =>
      rw [rejected] at remarked
      rw [warnings_report_ok, remarked]
      exact ⟨rejection, rfl⟩

end

lemma warns_ofHost {url : String} {reply : Reply} {failure : Failure}
    (failed : HostOutcome.ofReply url reply = .failed failure) :
    (ofHost url reply).Warns failure.text := by
  apply warns_of_failed (remarks_ofHost url reply)
  rw [ofHost, ← HostOutcome.ending_ofReply, failed]
  rfl

lemma warns_ofLogs {url : String} {reply : Reply} {failure : Failure}
    (failed : LogsOutcome.ofReply url reply = .failed failure) :
    (ofLogs url reply).Warns failure.text := by
  apply warns_of_failed (remarks_ofLogs url reply)
  rw [ofLogs, ← LogsOutcome.ending_ofReply, failed]
  rfl

lemma warns_ofHostList {url : String} {reply : Reply} {failure : Failure}
    (failed : HostLinks.ofReply url reply = .error failure) :
    (ofHostList url reply).Warns failure.text := by
  obtain ⟨e, rfl, rfl⟩ | ⟨response, e, rfl, rfl, unread⟩ := HostLinks.ofReply_eq_error failed
  · exact warns_of_error ⟨.hostLinks, url⟩ e
  · have remarked : Span.warn ⟨.hostLinks, url⟩ "host list payload rejected" [("error", e.text)] ∈
        HostLinks.bodyWarnings ⟨.hostLinks, url⟩ response := by
      simp only [HostLinks.bodyWarnings, unread]
      exact List.mem_singleton_self _
    apply warns_of_mem_remarks
    exact List.mem_append_right _ remarked

lemma accounts_ofHost (url : String) (reply : Reply) :
    (⟨.host, url⟩ : Span).Accounts (HostOutcome.ofReply url reply).ending
      (ofHost url reply).report := by
  rw [HostOutcome.ending_ofReply]
  exact accounts_of_remarks (remarks_ofHost url reply)

lemma accounts_ofLogs (url : String) (reply : Reply) :
    (⟨.logs, url⟩ : Span).Accounts (LogsOutcome.ofReply url reply).ending
      (ofLogs url reply).report := by
  rw [LogsOutcome.ending_ofReply]
  exact accounts_of_remarks (remarks_ofLogs url reply)

lemma all_quiet_iff (fetches : List Exchange) :
    warnings (fetches.flatMap report) = [] ↔ ∀ x ∈ fetches, x.Fulfilled := by
  rw [warnings, List.filter_flatMap, List.flatMap_eq_nil_iff]
  exact forall₂_congr fun x _ => quiet_iff x

end Exchange

variable {σ : Type} (client : Client σ)

namespace Session

variable (url : String) (s : Session σ)

lemma events_fetchHost :
    (s.fetchHost client url).2.events =
      s.events ++ (Exchange.ofHost url (client.get s.state url).1).report :=
  List.append_assoc s.events _ _

lemma events_fetchLogs :
    (s.fetchLogs client url).2.events =
      s.events ++ (Exchange.ofLogs url (client.get s.state url).1).report :=
  List.append_assoc s.events _ _

lemma events_fetchHostLinks :
    (s.fetchHostLinks client url).2.events =
      s.events ++ (Exchange.ofHostList url (client.get s.state url).1).report :=
  List.append_assoc s.events _ _

/-- Hosts report one after another, each about its own answer. -/
lemma events_fetchHosts (urls : List String) (s : Session σ) :
    (s.fetchHosts client urls).2.events = s.events ++
      (List.zipWith Exchange.ofHost urls (client.answers s.state urls).1).flatMap
        Exchange.report := by
  induction urls generalizing s with
  | nil => exact (List.append_nil s.events).symm
  | cons url urls ih =>
    have rest := ih (s.fetchHost client url).2
    rw [events_fetchHost, List.append_assoc] at rest
    exact rest

end Session

namespace Page

/-- The views of answered hosts meet the exchanges of their fetches one by one. A view that has just
been mounted shows an error only if its own fetch warns of it. -/
lemma covers_answeredViews (hrefs : List String) (replies : List Reply) :
    List.Forall₂ Exchange.Covers (List.zipWith Exchange.ofHost hrefs replies)
      (List.zipWith answeredView hrefs replies) := by
  induction hrefs generalizing replies with
  | nil => exact .nil
  | cons href hrefs ih =>
    cases replies with
    | nil => exact .nil
    | cons reply replies =>
      refine .cons ⟨?_, ?_⟩ (ih replies)
      · rw [url_answeredView]
        rfl
      · intro text shown
        obtain ⟨failure, failed, rfl⟩ := HostView.error_fetched_eq_some_iff.mp shown
        exact Exchange.warns_ofHost failed

/-- What the combined load reports: its fetches, in their order. -/
lemma events_load (endpoints : Endpoints) (page : Page) (s : Session σ) :
    let hosts := client.get s.state endpoints.hosts
    let logs := client.get hosts.2 endpoints.logs
    let hrefs := HostLinks.listed (HostLinks.ofReply endpoints.hosts hosts.1)
    (page.load client endpoints s).2.events = s.events ++
      (Exchange.ofHostList endpoints.hosts hosts.1 :: Exchange.ofLogs endpoints.logs logs.1 ::
        List.zipWith Exchange.ofHost hrefs (client.answers logs.2 hrefs).1).flatMap
          Exchange.report := by
  intro hosts logs hrefs
  have both : (collected client s endpoints).events = s.events ++
      ((Exchange.ofHostList endpoints.hosts hosts.1).report ++
        (Exchange.ofLogs endpoints.logs logs.1).report) := by
    rw [collected, Session.events_fetchLogs, Session.events_fetchHostLinks, List.append_assoc]
    rfl
  rw [load_eq, session_mountAndLoad_listed, Session.events_fetchHosts, both]
  simp only [List.flatMap_cons, List.append_assoc]
  rfl

/-- Nothing that goes wrong in a load goes unreported, for any client and any page. The load reports
its fetches one after another. It warns of nothing exactly if every reply is what was hoped for.
Each failure that it shows, as the error of the host list, as the text of the logs or as the error
of a new view, is the error of a warning in the span of the fetch that failed. And any fetch of a
host or of the logs warns once at most, and of a rejection with its status and its body. -/
theorem load_reports_every_failure (endpoints : Endpoints) (page : Page) (s : Session σ) :
    let hosts := client.get s.state endpoints.hosts
    let logs := client.get hosts.2 endpoints.logs
    let links := HostLinks.ofReply endpoints.hosts hosts.1
    let outcome := LogsOutcome.ofReply endpoints.logs logs.1
    let hrefs := HostLinks.listed links
    let list := Exchange.ofHostList endpoints.hosts hosts.1
    let log := Exchange.ofLogs endpoints.logs logs.1
    let views := List.zipWith Exchange.ofHost hrefs (client.answers logs.2 hrefs).1
    let loaded := page.load client endpoints s
    (∃ events, loaded.2.events = s.events ++ events ∧
      events = (list :: log :: views).flatMap Exchange.report ∧
      (Event.warnings events = [] ↔
        list.Fulfilled ∧ log.Fulfilled ∧ ∀ view ∈ views, view.Fulfilled)) ∧
    (loaded.1.hostsError = ((HostLinks.failure? links).map Failure.text).or page.hostsError ∧
      ∀ failure, links = .error failure → list.Warns failure.text) ∧
    (loaded.1.logs = page.logs.apply outcome ∧
      ∀ failure, outcome = .failed failure →
        loaded.1.logs.text = some failure.text ∧ log.Warns failure.text) ∧
    (∃ mounted, loaded.1.views = page.views ++ mounted ∧
      List.Forall₂ Exchange.Covers views mounted) ∧
    (∀ (t : Session σ) (url : String),
      (∃ events, (t.fetchHost client url).2.events = t.events ++ events ∧
        (⟨.host, url⟩ : Span).Accounts (t.fetchHost client url).1.ending events) ∧
      ∃ events, (t.fetchLogs client url).2.events = t.events ++ events ∧
        (⟨.logs, url⟩ : Span).Accounts (t.fetchLogs client url).1.ending events) := by
  intro hosts logs links outcome hrefs list log views loaded
  have shown : loaded.1.logs = page.logs.apply outcome := logs_load client page s endpoints
  refine ⟨?_, ⟨?_, ?_⟩, ⟨shown, ?_⟩, ?_, ?_⟩
  · refine ⟨_, events_load client endpoints page s, rfl, ?_⟩
    rw [Exchange.all_quiet_iff, List.forall_mem_cons, List.forall_mem_cons]
  · exact Operation.hostsError_mountAndLoad client links (page.applyLogs outcome) _
  · intro failure failed
    exact Exchange.warns_ofHostList failed
  · intro failure failed
    refine ⟨?_, Exchange.warns_ofLogs failed⟩
    rw [shown, failed]
    rfl
  · exact ⟨_, views_mountAndLoad client (page.applyLogs outcome) _ links,
      covers_answeredViews hrefs _⟩
  · intro t url
    exact ⟨⟨_, Session.events_fetchHost client url t, Exchange.accounts_ofHost url _⟩,
      ⟨_, Session.events_fetchLogs client url t, Exchange.accounts_ofLogs url _⟩⟩

end Page

end HostBoard
