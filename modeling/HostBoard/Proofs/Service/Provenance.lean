import HostBoard.Net.HttpClient
import HostBoard.Proofs.Service.Endings
import HostBoard.Proofs.Service.HostsError

/-!
# Failures name their own request

Whatever failure a page shows, it names the address as it was asked for, and never the one that
this was resolved to or that a redirect led to. So it can be told by its text where it belongs: to
its own view, or to the load that put it on the page.

All that is needed of a client is that the failures it answers with carry the address it was asked
for (`Client.NamesAddress`), which is so for the client over any network. An unreadable body is
charged to the same address by its decoder. For the views this is an invariant of the page that
every load keeps. The error of the host list and the text of the logs are overwritten from load to
load; what is shown at the end was put there by the last load that had a `Notice` to give
(`Load.shown_runAll`).
-/

namespace HostBoard

variable {σ : Type}

/-- The failures of the client carry the address that it was asked for. -/
def Client.NamesAddress (client : Client σ) : Prop :=
  ∀ (state : σ) (url : String) (e : TransportError),
    (client.get state url).1 = .error e → e.url = url

/-- The text says of an address that the request failed, or that what it sent cannot be read. -/
def Failure.Names (url text : String) : Prop :=
  ∃ message, text = "request to " ++ url ++ " failed: " ++ message ∨
    text = "invalid payload from " ++ url ++ ": " ++ message

/-- One of the three loads. -/
inductive Load where
  | all (endpoints : Endpoints)
  | hosts (url : String)
  | logs (url : String)

/-- A text that a load puts on the page: where the load was to ask, and whether it failed there. -/
structure Notice where
  url : String
  text : String
  failed : Bool

namespace Notice

/-- What is to be said about a host list from an address. -/
def ofLinks (url : String) : LinksOutcome → Option Notice
  | .ok _ => none
  | .error failure => some ⟨url, failure.text, true⟩

/-- What is to be said about the logs from an address. -/
def ofLogs (url : String) : LogsOutcome → Option Notice
  | .entries _ => none
  | .rejected r => some ⟨url, r.body.shown, false⟩
  | .failed failure => some ⟨url, failure.text, true⟩

end Notice

namespace Load

def operation : Load → Operation
  | .all endpoints => .load endpoints
  | .hosts url => .loadHosts url
  | .logs url => .loadLogs url

variable (client : Client σ)

/-- What a load does to a page and a session. -/
def run (load : Load) (page : Page) (s : Session σ) : Page × Session σ :=
  load.operation.run client page s

/-- What loads do, one after another. -/
def runAll (loads : List Load) (page : Page) (s : Session σ) : Page × Session σ :=
  Operation.runAll client (loads.map operation) page s

/-- Loads with the session in which each of them starts. -/
def starts : List Load → Page → Session σ → List (Load × Session σ)
  | [], _, _ => []
  | load :: loads, page, s =>
    (load, s) :: starts loads (load.run client page s).1 (load.run client page s).2

/-- The notice that a load gives of its host list. -/
def hostsNotice? : Load × Session σ → Option Notice
  | (.all endpoints, s) =>
    Notice.ofLinks endpoints.hosts (s.fetchHostLinks client endpoints.hosts).1
  | (.hosts url, s) => Notice.ofLinks url (s.fetchHostLinks client url).1
  | (.logs _, _) => none

/-- The notice that a load gives of its logs. -/
def logsNotice? : Load × Session σ → Option Notice
  | (.all endpoints, s) =>
    Notice.ofLogs endpoints.logs
      ((s.fetchHostLinks client endpoints.hosts).2.fetchLogs client endpoints.logs).1
  | (.hosts _, _) => none
  | (.logs url, s) => Notice.ofLogs url (s.fetchLogs client url).1

end Load

/-! ### Failures carry the address -/

lemma Failure.names_of_url {failure : Failure} {url : String} (carried : failure.url = url) :
    Failure.Names url failure.text := by
  subst carried
  cases failure with
  | transport e => exact ⟨e.message, .inl rfl⟩
  | decode e => exact ⟨e.message, .inr rfl⟩

namespace Notice

variable {url : String} {reply : Reply} {notice : Notice}

lemma names_of_links (named : ∀ e, reply = .error e → e.url = url)
    (given : ofLinks url (HostLinks.ofReply url reply) = some notice) :
    Failure.Names notice.url notice.text := by
  cases read : HostLinks.ofReply url reply with
  | ok links =>
    rw [read] at given
    cases given
  | error failure =>
    rw [read] at given
    cases given
    exact Failure.names_of_url (HostLinks.url_of_error named read)

lemma names_of_logs (named : ∀ e, reply = .error e → e.url = url)
    (given : ofLogs url (LogsOutcome.ofReply url reply) = some notice) (failed : notice.failed) :
    Failure.Names notice.url notice.text := by
  cases read : LogsOutcome.ofReply url reply with
  | entries entries =>
    rw [read] at given
    cases given
  | rejected r =>
    rw [read] at given
    cases given
    cases failed
  | failed failure =>
    rw [read] at given
    cases given
    exact Failure.names_of_url (LogsOutcome.url_of_failed named read)

end Notice

/-- The client over a network names what it was asked for, whatever this is resolved to. -/
lemma Network.client_namesAddress (idna : Idna) (net : Network) (base : Url) :
    (net.client idna base).NamesAddress := by
  intro seen href e failed
  have answered : (net.get idna base href).1 = .error e := failed
  unfold Network.get at answered
  -- It fails before anything is sent, or else with what the last of the redirects came to.
  split at answered
  next unresolved reason =>
    cases answered
    unfold Url.resolveHref at reason
    split at reason
    · cases reason
    · cases reason
      rfl
  next url resolved =>
    generalize net.send idna url redirectLimit url = sent at answered
    obtain ⟨result, seen⟩ := sent
    cases result with
    | ok response => cases answered
    | error reason =>
      cases answered
      rfl

/-! ### Views -/

/-- The error of the view, if it has one, names the address of the view. -/
def HostView.NamesItself (view : HostView) : Prop :=
  ∀ text, view.error = some text → Failure.Names view.url text

variable {client : Client σ} (names : client.NamesAddress)

include names

lemma Page.answeredView_namesItself (state : σ) (href : String) :
    (answeredView href (client.get state href).1).NamesItself := by
  intro text shown
  obtain ⟨failure, failed, rfl⟩ := HostView.error_fetched_eq_some_iff.mp shown
  rw [url_answeredView]
  exact Failure.names_of_url (HostOutcome.url_of_failed (names state href) failed)

lemma Page.answeredViews_nameThemselves (hrefs : List String) (state : σ) :
    ∀ view ∈ List.zipWith answeredView hrefs (client.answers state hrefs).1, view.NamesItself := by
  induction hrefs generalizing state with
  | nil => exact nofun
  | cons href hrefs ih =>
    intro view among
    rcases List.mem_cons.mp among with rfl | later
    · exact answeredView_namesItself names state href
    · exact ih (client.get state href).2 view later

lemma Page.views_nameThemselves (page : Page) (was : ∀ view ∈ page.views, view.NamesItself)
    (links : LinksOutcome) (s : Session σ) :
    ∀ view ∈ (page.mountAndLoad client links s).1.views, view.NamesItself := by
  rw [views_mountAndLoad]
  intro view among
  rcases List.mem_append.mp among with old | new
  · exact was view old
  · exact answeredViews_nameThemselves names (HostLinks.listed links) s.state view new

namespace Load

lemma views_run (load : Load) {page : Page} (was : ∀ view ∈ page.views, view.NamesItself)
    (s : Session σ) : ∀ view ∈ (load.run client page s).1.views, view.NamesItself := by
  cases load with
  | all endpoints => exact Page.views_nameThemselves names (page.applyLogs _) was _ _
  | hosts url => exact Page.views_nameThemselves names page was _ _
  | logs url => exact was

lemma views_runAll (loads : List Load) {page : Page} (was : ∀ view ∈ page.views, view.NamesItself)
    (s : Session σ) : ∀ view ∈ (runAll client loads page s).1.views, view.NamesItself := by
  induction loads generalizing page s with
  | nil => exact was
  | cons load loads ih => exact ih (views_run names load was s) (load.run client page s).2

/-! ### Notices -/

omit names

/-- The text in one place of the page is that of the last notice of a run, or else the one before,
if this is so for every single load. -/
lemma shown_runAll (place : Page → Option String) {notice? : Load × Session σ → Option Notice}
    (shown_run : ∀ (load : Load) (page : Page) (s : Session σ),
      place (load.run client page s).1 = ((notice? (load, s)).map Notice.text).or (place page))
    (loads : List Load) (page : Page) (s : Session σ) :
    place (runAll client loads page s).1 =
      (((starts client loads page s).filterMap notice?).getLast?.map Notice.text).or
        (place page) := by
  induction loads generalizing page s with
  | nil => rfl
  | cons load loads ih =>
    -- The notice of the first load is what was shown before the others.
    have rest := ih (load.run client page s).1 (load.run client page s).2
    rw [shown_run, ← Option.or_assoc, ← Option.map_or] at rest
    rw [starts]
    cases given : notice? (load, s) with
    | none =>
      rw [given, Option.or_none] at rest
      rw [List.filterMap_cons_none given]
      exact rest
    | some notice =>
      rw [given, ← List.getLast?_singleton, ← List.getLast?_append] at rest
      rw [List.filterMap_cons_some given]
      exact rest

lemma hostsError_run (client : Client σ) (load : Load) (page : Page) (s : Session σ) :
    (load.run client page s).1.hostsError =
      ((hostsNotice? client (load, s)).map Notice.text).or page.hostsError := by
  have text_ofLinks (url : String) (links : LinksOutcome) :
      (Notice.ofLinks url links).map Notice.text =
        (HostLinks.failure? links).map Failure.text := by
    cases links <;> rfl
  cases load with
  | all endpoints =>
    rw [hostsNotice?, text_ofLinks]
    exact Operation.hostsError_mountAndLoad client _ (page.applyLogs _) _
  | hosts url =>
    rw [hostsNotice?, text_ofLinks]
    exact Operation.hostsError_mountAndLoad client _ page _
  | logs url => rfl

lemma logsText_run (client : Client σ) (load : Load) (page : Page) (s : Session σ) :
    (load.run client page s).1.logs.text =
      ((logsNotice? client (load, s)).map Notice.text).or page.logs.text := by
  have text_apply (url : String) (outcome : LogsOutcome) :
      (page.logs.apply outcome).text =
        ((Notice.ofLogs url outcome).map Notice.text).or page.logs.text := by
    cases outcome <;> rfl
  cases load with
  | all endpoints =>
    have logs := Page.logs_load client page s endpoints
    exact (congrArg LogPanel.text logs).trans (text_apply endpoints.logs _)
  | hosts url => exact congrArg LogPanel.text (Page.logs_mountAndLoad client page _ _)
  | logs url => exact text_apply url _

include names

lemma hostsNotice_names {start : Load × Session σ} {notice : Notice}
    (given : hostsNotice? client start = some notice) : Failure.Names notice.url notice.text := by
  obtain ⟨load, s⟩ := start
  cases load with
  | all endpoints => exact Notice.names_of_links (names s.state endpoints.hosts) given
  | hosts url => exact Notice.names_of_links (names s.state url) given
  | logs url => cases given

lemma logsNotice_names {start : Load × Session σ} {notice : Notice}
    (given : logsNotice? client start = some notice) (failed : notice.failed) :
    Failure.Names notice.url notice.text := by
  obtain ⟨load, s⟩ := start
  cases load with
  | all endpoints => exact Notice.names_of_logs (names _ endpoints.logs) given failed
  | hosts url => cases given
  | logs url => exact Notice.names_of_logs (names s.state url) given failed

omit names

/-- Every failure that is shown names its own request, after any loads of the empty page with any
client whose failures carry the address it was asked for, such as the client over any network and
any base address. The error of a view names the address of that view. The error of the host list is
that of the last load with a notice of the host list, and names the address that this load was
given. The text of the logs is that of the last load with a notice of the logs, and names the
address that this load was given if the load failed. -/
theorem shown_failures_name_their_request :
    (∀ (idna : Idna) (net : Network) (base : Url), (net.client idna base).NamesAddress) ∧
    ∀ {σ : Type} (client : Client σ), client.NamesAddress →
      ∀ (loads : List Load) (s : Session σ),
        let page := (runAll client loads Page.empty s).1
        let given := starts client loads Page.empty s
        (∀ view ∈ page.views, ∀ text, view.error = some text → Failure.Names view.url text) ∧
        (∀ text, page.hostsError = some text → ∃ notice,
          (given.filterMap (hostsNotice? client)).getLast? = some notice ∧
          notice.text = text ∧ Failure.Names notice.url text) ∧
        (∀ text, page.logs.text = some text → ∃ notice,
          (given.filterMap (logsNotice? client)).getLast? = some notice ∧
          notice.text = text ∧ (notice.failed → Failure.Names notice.url text)) := by
  refine ⟨Network.client_namesAddress, ?_⟩
  intro σ client names loads s page given
  have blank : ∀ view ∈ Page.empty.views, view.NamesItself := nofun
  refine ⟨views_runAll names loads blank s, ?_, ?_⟩
  · intro text shown
    have last := shown_runAll Page.hostsError (hostsError_run client) loads Page.empty s
    rw [shown, Page.empty, Option.or_none] at last
    obtain ⟨notice, latest, rfl⟩ := Option.map_eq_some_iff.mp last.symm
    obtain ⟨start, -, from_start⟩ := List.mem_filterMap.mp (List.mem_of_getLast? latest)
    exact ⟨notice, latest, rfl, hostsNotice_names names from_start⟩
  · intro text shown
    have last :=
      shown_runAll (fun page => page.logs.text) (logsText_run client) loads Page.empty s
    rw [shown, Page.empty, LogPanel.empty, Option.or_none] at last
    obtain ⟨notice, latest, rfl⟩ := Option.map_eq_some_iff.mp last.symm
    obtain ⟨start, -, from_start⟩ := List.mem_filterMap.mp (List.mem_of_getLast? latest)
    exact ⟨notice, latest, rfl, logsNotice_names names from_start⟩

/-- A network with two hosts. One sends every request on to an address where nothing answers, and
the other answers with something that is no JSON. -/
def brokenNetwork : Network := .resources (fun _ => false) fun key =>
  List.lookup key
    [("http://localhost/hosts",
        ⟨200, (HostEntry.listToJson [⟨"/web"⟩, ⟨"db"⟩]).compact.toUTF8.toList, none, false⟩),
      ("http://localhost/web", ⟨302, [], some "/moved", false⟩),
      ("http://localhost/db", ⟨200, "oops".toUTF8.toList, none, false⟩)]

def localBase : Url :=
  ⟨"http", some ⟨"", none, some (.domain "localhost"), none⟩, .segments [""], none, none⟩

/-- The views of the two hosts, the host list that failed before and the logs all name what was
asked for: a path, or a name that was resolved, and not where a redirect led to. -/
theorem shown_failures_name_their_request_brokenNetwork :
    let client := brokenNetwork.client .asciiOnly localBase
    let loads : List Load := [.hosts "/list", .all ⟨"/hosts", "/logs"⟩]
    let page := (runAll client loads Page.empty (Session.start [])).1
    let given := starts client loads Page.empty (Session.start [])
    client.NamesAddress ∧
    page.views.map (fun view => (view.url, view.error)) =
      [("/web", some "request to /web failed: error sending request for url (http://localhost/web)"),
        ("db", some "invalid payload from db: expected value at line 1 column 1")] ∧
    (∀ view ∈ page.views, ∀ text, view.error = some text → Failure.Names view.url text) ∧
    (∃ notice, (given.filterMap (hostsNotice? client)).getLast? = some notice ∧
      notice.text =
        "request to /list failed: error sending request for url (http://localhost/list)" ∧
      Failure.Names notice.url notice.text) ∧
    (∃ notice, (given.filterMap (logsNotice? client)).getLast? = some notice ∧
      notice.text =
        "request to /logs failed: error sending request for url (http://localhost/logs)" ∧
      (notice.failed → Failure.Names notice.url notice.text)) := by
  intro client loads page given
  obtain ⟨over_network, over_any⟩ := shown_failures_name_their_request
  have names : client.NamesAddress := over_network .asciiOnly brokenNetwork localBase
  obtain ⟨views, hosts, logs⟩ := over_any client names loads (Session.start [])
  have shown : page.views.map (fun view => (view.url, view.error)) =
      [("/web", some "request to /web failed: error sending request for url (http://localhost/web)"),
        ("db", some "invalid payload from db: expected value at line 1 column 1")] ∧
      page.hostsError =
        some "request to /list failed: error sending request for url (http://localhost/list)" ∧
      page.logs.text =
        some "request to /logs failed: error sending request for url (http://localhost/logs)" := by
    decide +kernel
  obtain ⟨errors, hostsError, logsText⟩ := shown
  obtain ⟨listed, last_listed, list_text, list_named⟩ := hosts _ hostsError
  obtain ⟨logged, last_logged, log_text, log_named⟩ := logs _ logsText
  exact ⟨names, errors, views, ⟨listed, last_listed, list_text, list_text ▸ list_named⟩,
    ⟨logged, last_logged, log_text, log_text ▸ log_named⟩⟩

end Load

end HostBoard
