import HostBoard.Proofs.Page.Views
import HostBoard.Service.Load
import Mathlib.Tactic.Lemma

/-!
# The requests of a load

A client is asked for one address after another, and each answer leaves a state for the next. The
lemmas here say of every fetch which address it asks for, what it makes of the answer and which
state it leaves; the fetches of a list of hosts follow by induction on the list. Together with the
page they make up the combined load (`load_requests_and_page`): the two collections first, then
every address of the host list in order, and a page on which each new view shows the outcome of
its own request.
-/

namespace HostBoard

variable {σ : Type}

/-- The answers to requests made one after another, and the state that the last one leaves. -/
def Client.answers (client : Client σ) : σ → List String → List Reply × σ
  | state, [] => ([], state)
  | state, url :: urls =>
    let (reply, state) := client.get state url
    let (replies, state) := client.answers state urls
    (reply :: replies, state)

/-- Every request has one answer. -/
@[simp]
lemma Client.length_answers (client : Client σ) (state : σ) (urls : List String) :
    (client.answers state urls).1.length = urls.length := by
  induction urls generalizing state with
  | nil => rfl
  | cons url urls ih => exact congrArg Nat.succ (ih _)

namespace Session

variable (client : Client σ) (url : String) (s : Session σ)

@[simp]
lemma outcome_fetchHost :
    (s.fetchHost client url).1 = HostOutcome.ofReply url (client.get s.state url).1 := rfl

@[simp]
lemma state_fetchHost : (s.fetchHost client url).2.state = (client.get s.state url).2 := rfl

@[simp]
lemma requested_fetchHost :
    (s.fetchHost client url).2.requested = s.requested ++ [url] := rfl

@[simp]
lemma outcome_fetchLogs :
    (s.fetchLogs client url).1 = LogsOutcome.ofReply url (client.get s.state url).1 := rfl

@[simp]
lemma state_fetchLogs : (s.fetchLogs client url).2.state = (client.get s.state url).2 := rfl

@[simp]
lemma requested_fetchLogs :
    (s.fetchLogs client url).2.requested = s.requested ++ [url] := rfl

@[simp]
lemma outcome_fetchHostLinks :
    (s.fetchHostLinks client url).1 = HostLinks.ofReply url (client.get s.state url).1 := rfl

@[simp]
lemma state_fetchHostLinks :
    (s.fetchHostLinks client url).2.state = (client.get s.state url).2 := rfl

@[simp]
lemma requested_fetchHostLinks :
    (s.fetchHostLinks client url).2.requested = s.requested ++ [url] := rfl

/-- Every host's outcome is made of the answer to its own request. -/
lemma outcomes_fetchHosts (urls : List String) (s : Session σ) :
    (s.fetchHosts client urls).1 =
      List.zipWith HostOutcome.ofReply urls (client.answers s.state urls).1 := by
  induction urls generalizing s with
  | nil => rfl
  | cons url urls ih => exact congrArg (_ :: ·) (ih _)

lemma state_fetchHosts (urls : List String) (s : Session σ) :
    (s.fetchHosts client urls).2.state = (client.answers s.state urls).2 := by
  induction urls generalizing s with
  | nil => rfl
  | cons url urls ih => exact ih _

/-- Hosts are asked for in order, each once, whatever the answers are. -/
lemma requested_fetchHosts (urls : List String) (s : Session σ) :
    (s.fetchHosts client urls).2.requested = s.requested ++ urls := by
  induction urls generalizing s with
  | nil => exact (List.append_nil _).symm
  | cons url urls ih =>
    have rest := ih (s.fetchHost client url).2
    rw [requested_fetchHost, List.append_assoc] at rest
    exact rest

/-- No outcome gets lost between the requests and the list of outcomes. -/
lemma length_outcomes_fetchHosts (urls : List String) (s : Session σ) :
    (s.fetchHosts client urls).1.length = urls.length := by
  simp [outcomes_fetchHosts]

end Session

/-- The addresses that a host list holds; none if it cannot be read. -/
def HostLinks.listed : LinksOutcome → List String
  | .ok links => links.hrefs
  | .error _ => []

namespace Page

/-- A new view with the answer to its own request. -/
def answeredView (href : String) (reply : Reply) : HostView :=
  HostView.fetched href (HostOutcome.ofReply href reply)

@[simp]
lemma url_answeredView (href : String) (reply : Reply) : (answeredView href reply).url = href :=
  HostView.url_apply (HostOutcome.ofReply href reply) (HostView.unloaded href)

/-- Showing the outcomes of the answers is showing the answers. -/
lemma zipWith_fetched_ofReply (hrefs : List String) (replies : List Reply) :
    List.zipWith HostView.fetched hrefs (List.zipWith HostOutcome.ofReply hrefs replies) =
      List.zipWith answeredView hrefs replies := by
  induction hrefs generalizing replies with
  | nil => rfl
  | cons href hrefs ih =>
    cases replies with
    | nil => rfl
    | cons reply replies => exact congrArg (_ :: ·) (ih replies)

variable (client : Client σ) (page : Page) (s : Session σ)

/-- Mounting a list and loading it goes on with the addresses of the list. -/
lemma session_mountAndLoad (links : HostLinks) :
    (page.mountAndLoad client (.ok links) s).2 = (s.fetchHosts client links.hrefs).2 := by
  simp only [mountAndLoad, loadViews, urls_mountHosts]

/-- Mounting a list and loading it puts the new views behind the old ones, each with the answer to
its own request. -/
lemma page_mountAndLoad (links : HostLinks) :
    (page.mountAndLoad client (.ok links) s).1 =
      { page with
        views := page.views ++
          List.zipWith answeredView links.hrefs (client.answers s.state links.hrefs).1 } := by
  have shown := applyHosts_mountHosts links.hrefs (s.fetchHosts client links.hrefs).1 page
    (Session.length_outcomes_fetchHosts client links.hrefs s).symm
  rw [Session.outcomes_fetchHosts, zipWith_fetched_ofReply] at shown
  simp only [mountAndLoad, loadViews, urls_mountHosts]
  rw [Session.outcomes_fetchHosts]
  exact shown

/-- Whatever the host list says, the addresses that it holds are asked for. -/
lemma session_mountAndLoad_listed (links : LinksOutcome) :
    (page.mountAndLoad client links s).2 =
      (s.fetchHosts client (HostLinks.listed links)).2 := by
  cases links with
  | ok links => exact session_mountAndLoad client page s links
  | error failure => rfl

/-- Whatever the host list says, the addresses that it holds get their views. -/
lemma views_mountAndLoad (links : LinksOutcome) :
    (page.mountAndLoad client links s).1.views =
      page.views ++ List.zipWith answeredView (HostLinks.listed links)
        (client.answers s.state (HostLinks.listed links)).1 := by
  cases links with
  | ok links =>
    rw [page_mountAndLoad]
    rfl
  | error failure => exact (List.append_nil page.views).symm

lemma logs_mountAndLoad (links : LinksOutcome) :
    (page.mountAndLoad client links s).1.logs = page.logs := by
  cases links with
  | ok links => rw [page_mountAndLoad]
  | error failure => rfl

/-- The session in which both collections have been asked for. -/
def collected (endpoints : Endpoints) : Session σ :=
  ((s.fetchHostLinks client endpoints.hosts).2.fetchLogs client endpoints.logs).2

/-- The combined load shows the logs, and then mounts what the host list says. -/
lemma load_eq (endpoints : Endpoints) :
    let hosts := client.get s.state endpoints.hosts
    let logs := client.get hosts.2 endpoints.logs
    page.load client endpoints s =
      (page.applyLogs (LogsOutcome.ofReply endpoints.logs logs.1)).mountAndLoad client
        (HostLinks.ofReply endpoints.hosts hosts.1) (collected client s endpoints) := rfl

/-- The log panel after a load shows the answer for the logs, whatever the hosts answer. -/
lemma logs_load (endpoints : Endpoints) :
    (page.load client endpoints s).1.logs =
      page.logs.apply (LogsOutcome.ofReply endpoints.logs
        (client.get (client.get s.state endpoints.hosts).2 endpoints.logs).1) :=
  logs_mountAndLoad client _ _ _

lemma state_collected (endpoints : Endpoints) :
    (collected client s endpoints).state =
      (client.get (client.get s.state endpoints.hosts).2 endpoints.logs).2 := rfl

lemma requested_collected (endpoints : Endpoints) :
    (collected client s endpoints).requested = s.requested ++ [endpoints.hosts, endpoints.logs] := by
  simp [collected]

/-- The combined load, for any client and any page. It asks for the host list, for the logs and for
every address that the list holds, in this order. The range of new views fits the page, holds the
listed addresses and gets one answer for each of them. The old views stay, and a host list that
cannot be read is shown as an error in place of new views. -/
theorem load_requests_and_page (endpoints : Endpoints) :
    let hosts := client.get s.state endpoints.hosts
    let logs := client.get hosts.2 endpoints.logs
    let outcome := LogsOutcome.ofReply endpoints.logs logs.1
    let loaded := page.load client endpoints s
    match HostLinks.ofReply endpoints.hosts hosts.1 with
    | .ok links =>
      let answers := client.answers logs.2 links.hrefs
      let mounted := (page.applyLogs outcome).mountHosts links.hrefs
      let range := (mounted.views.take mounted.views.length).drop page.views.length
      loaded.2.requested = s.requested ++ endpoints.hosts :: endpoints.logs :: links.hrefs ∧
      loaded.2.state = answers.2 ∧
      page.views.length ≤ mounted.views.length ∧
      range.map HostView.url = links.hrefs ∧
      answers.1.length = mounted.views.length - page.views.length ∧
      loaded.1 =
        ⟨page.views ++ List.zipWith answeredView links.hrefs answers.1, page.hostsError,
          page.logs.apply outcome⟩
    | .error failure =>
      loaded.2.requested = s.requested ++ [endpoints.hosts, endpoints.logs] ∧
      loaded.2.state = logs.2 ∧
      loaded.1 = ⟨page.views, some failure.text, page.logs.apply outcome⟩ := by
  intro hosts logs outcome loaded
  have whole : loaded = (page.applyLogs outcome).mountAndLoad client
      (HostLinks.ofReply endpoints.hosts hosts.1) (collected client s endpoints) :=
    load_eq client page s endpoints
  cases read : HostLinks.ofReply endpoints.hosts hosts.1 with
  | ok links =>
    rw [read] at whole
    have session : loaded.2 = ((collected client s endpoints).fetchHosts client links.hrefs).2 := by
      rw [whole, session_mountAndLoad]
    refine ⟨?_, ?_, ?_, ?_, ?_, ?_⟩
    · rw [session, Session.requested_fetchHosts, requested_collected, List.append_assoc]
      rfl
    · rw [session, Session.state_fetchHosts, state_collected]
    · simp [mountHosts, applyLogs]
    · exact urls_mountHosts links.hrefs (page.applyLogs outcome)
    · simp [mountHosts, applyLogs]
    · rw [whole, page_mountAndLoad, state_collected]
      rfl
  | error failure =>
    rw [read] at whole
    refine ⟨?_, ?_, ?_⟩
    · rw [whole]
      exact requested_collected client s endpoints
    · rw [whole]
      exact state_collected client s endpoints
    · rw [whole]
      rfl

end Page

end HostBoard
