import HostBoard.Client.Routes
import HostBoard.Proofs.Service.Requests

/-!
# What the status of a response decides

A host list is read in the same way under every status. The status says only whether the body is
kept as a rejection beside the list, and that changes neither the hosts that are listed nor the
reason for which a body is no list (`HostLinks.sameHosts_ofResponse`). A load goes by the listed
hosts alone, so two loads whose host lists differ in their status come to the same page after the
same requests, provided that everything else is answered alike (`Client.AnswersAlike`).

For a host and for the logs the status decides which reader the body is given to, and nothing but
the status does.
-/

namespace HostBoard

variable {σ τ : Type}

/-- What becomes of a body that is given to a reader: something good, or else a failure. -/
inductive ReadAs {α γ : Type} (read : Except DecodeError α) (good : α → γ) (failed : Failure → γ) :
    γ → Prop where
  | ok {v : α} : read = .ok v → ReadAs read good failed (good v)
  | error {e : DecodeError} : read = .error e → ReadAs read good failed (failed (.decode e))

/-- A status decides on the reader: with a success the body is read as what was asked for, and
otherwise as any value, which is a rejection. -/
structure ReadByStatus {α γ : Type} (success : Prop) (typed : Except DecodeError α)
    (loaded : α → γ) (untyped : Except DecodeError Json) (rejected : Json → γ)
    (failed : Failure → γ) (outcome : γ) : Prop where
  of_success : success → ReadAs typed loaded failed outcome
  of_refusal : ¬success → ReadAs untyped rejected failed outcome

/-- Two readings of a host list with the same hosts, or for both of which the body is no list for
the same reason. -/
inductive HostLinks.SameHosts : LinksOutcome → LinksOutcome → Prop where
  | listed {hrefs : List String} {kept kept' : Option Rejection} :
    SameHosts (.ok ⟨hrefs, kept⟩) (.ok ⟨hrefs, kept'⟩)
  | unreadable {e : DecodeError} : SameHosts (.error (.decode e)) (.error (.decode e))

/-- Asked for the same addresses from now on, the two clients answer alike. -/
def Client.AnswersAlike (first : Client σ) (s : σ) (second : Client τ) (t : τ) : Prop :=
  ∀ asked, (first.answers s asked).1 = (second.answers t asked).1

/-- Two loads that lead to the same page and make the same requests. -/
structure Page.LoadedAlike (s : Session σ) (t : Session τ) (left : Page × Session σ)
    (right : Page × Session τ) : Prop where
  page : left.1 = right.1
  requests : ∃ asked, left.2.requested = s.requested ++ asked ∧
    right.2.requested = t.requested ++ asked

namespace HostLinks

/-- The status has no part in which hosts are listed. -/
lemma sameHosts_ofResponse (url body : String) (status status' : Nat) :
    SameHosts (ofResponse url ⟨status, body⟩) (ofResponse url ⟨status', body⟩) := by
  rw [ofResponse, ofResponse]
  cases HostEntry.decodeList url body with
  | ok entries => exact .listed
  | error e => exact .unreadable

lemma SameHosts.listed_eq {links links' : LinksOutcome} (same : SameHosts links links') :
    HostLinks.listed links = HostLinks.listed links' := by
  cases same with
  | listed => rfl
  | unreadable => rfl

end HostLinks

section

variable {first : Client σ} {second : Client τ} {s : σ} {t : τ}

lemma Client.AnswersAlike.reply (alike : first.AnswersAlike s second t) (url : String) :
    (first.get s url).1 = (second.get t url).1 :=
  (List.cons.inj (alike [url])).1

lemma Client.AnswersAlike.after (alike : first.AnswersAlike s second t) (url : String) :
    first.AnswersAlike (first.get s url).2 second (second.get t url).2 :=
  fun asked => (List.cons.inj (alike (url :: asked))).2

end

namespace Page

variable {first : Client σ} {second : Client τ} {s : Session σ} {t : Session τ}
  {links links' : LinksOutcome}

lemma requested_listed (client : Client σ) (page : Page) (links : LinksOutcome) (s : Session σ) :
    (page.mountAndLoad client links s).2.requested = s.requested ++ HostLinks.listed links := by
  rw [session_mountAndLoad_listed, Session.requested_fetchHosts]

/-- What a page takes from a host list is the hosts that it lists. -/
lemma mountAndLoad_of_sameHosts (page : Page) (same : HostLinks.SameHosts links links')
    (alike : first.AnswersAlike s.state second t.state) :
    LoadedAlike s t (page.mountAndLoad first links s) (page.mountAndLoad second links' t) where
  page := by
    cases same with
    | @listed hrefs kept kept' => rw [page_mountAndLoad, page_mountAndLoad, alike hrefs]
    | unreadable => rfl
  requests := by
    refine ⟨HostLinks.listed links, requested_listed first page links s, ?_⟩
    rw [requested_listed, same.listed_eq]

/-- A load that goes on after some requests makes these requests and its own. -/
lemma LoadedAlike.after {s' : Session σ} {t' : Session τ} {left : Page × Session σ}
    {right : Page × Session τ} (loaded : LoadedAlike s' t' left right) {before : List String}
    (left_before : s'.requested = s.requested ++ before)
    (right_before : t'.requested = t.requested ++ before) : LoadedAlike s t left right where
  page := loaded.page
  requests := by
    obtain ⟨asked, one, two⟩ := loaded.requests
    rw [left_before, List.append_assoc] at one
    rw [right_before, List.append_assoc] at two
    exact ⟨before ++ asked, one, two⟩

variable {hosts : String}
  (same : HostLinks.SameHosts (s.fetchHostLinks first hosts).1 (t.fetchHostLinks second hosts).1)
  (alike : first.AnswersAlike (first.get s.state hosts).2 second (second.get t.state hosts).2)

include same alike

lemma loadHosts_of_sameHosts (page : Page) :
    LoadedAlike s t (page.loadHosts first hosts s) (page.loadHosts second hosts t) := by
  have mounted := mountAndLoad_of_sameHosts (s := (s.fetchHostLinks first hosts).2)
    (t := (t.fetchHostLinks second hosts).2) page same alike
  exact mounted.after (Session.requested_fetchHostLinks first hosts s)
    (Session.requested_fetchHostLinks second hosts t)

lemma load_of_sameHosts (page : Page) (logs : String) :
    LoadedAlike s t (page.load first ⟨hosts, logs⟩ s) (page.load second ⟨hosts, logs⟩ t) := by
  have logged := alike.reply logs
  have mounted := mountAndLoad_of_sameHosts (s := collected first s ⟨hosts, logs⟩)
    (t := collected second t ⟨hosts, logs⟩)
    (page.applyLogs (LogsOutcome.ofReply logs (first.get (first.get s.state hosts).2 logs).1)) same
    (alike.after logs)
  have both := mounted.after (requested_collected first s ⟨hosts, logs⟩)
    (requested_collected second t ⟨hosts, logs⟩)
  rw [load_eq, load_eq, ← logged]
  exact both

end Page

/-! ### Hosts and logs -/

lemma HostOutcome.readByStatus (url body : String) (status : Nat) :
    ReadByStatus (200 ≤ status ∧ status ≤ 299) (HostDescriptor.decode url body) .loaded
      (Payload.decodeValue url body) (fun v => .rejected ⟨status, v⟩) .failed
      (ofResponse url ⟨status, body⟩) where
  of_success accepted := by
    rw [ofResponse, if_pos ((accepts_wholeClass_iff status).mpr accepted)]
    cases HostDescriptor.decode url body with
    | ok host => exact .ok rfl
    | error e => exact .error rfl
  of_refusal refused := by
    rw [ofResponse, if_neg (mt (accepts_wholeClass_iff status).mp refused)]
    cases Payload.decodeValue url body with
    | ok v => exact .ok rfl
    | error e => exact .error rfl

lemma LogsOutcome.readByStatus (url body : String) (status : Nat) :
    ReadByStatus (200 ≤ status ∧ status ≤ 209) (LogEntry.decodeList url body) .entries
      (Payload.decodeValue url body) (fun v => .rejected ⟨status, v⟩) .failed
      (ofResponse url ⟨status, body⟩) where
  of_success accepted := by
    rw [ofResponse, if_pos ((accepts_firstTen_iff status).mpr accepted)]
    cases LogEntry.decodeList url body with
    | ok entries => exact .ok rfl
    | error e => exact .error rfl
  of_refusal refused := by
    rw [ofResponse, if_neg (mt (accepts_firstTen_iff status).mp refused)]
    cases Payload.decodeValue url body with
    | ok v => exact .ok rfl
    | error e => exact .error rfl

/-- A host list is the same under every status. Two clients answer a request with one body, under
any two statuses. As a host list it holds the same hosts for both, or is no list for the same
reason. If both answer alike from then on, the loads of any page that begin with this request come
to the same page after the same requests. As a host and as logs the body is read in the way that its
status alone selects. -/
theorem host_list_ignores_status (first : Client σ) (second : Client τ) (s : Session σ)
    (t : Session τ) (url body : String) (status status' : Nat)
    (answered : (first.get s.state url).1 = .ok ⟨status, body⟩)
    (answered' : (second.get t.state url).1 = .ok ⟨status', body⟩) :
    HostLinks.SameHosts (s.fetchHostLinks first url).1 (t.fetchHostLinks second url).1 ∧
    (first.AnswersAlike (first.get s.state url).2 second (second.get t.state url).2 →
      ∀ (page : Page) (logs : String),
        Page.LoadedAlike s t (page.loadHosts first url s) (page.loadHosts second url t) ∧
        Page.LoadedAlike s t (page.load first ⟨url, logs⟩ s) (page.load second ⟨url, logs⟩ t)) ∧
    ReadByStatus (200 ≤ status ∧ status ≤ 299) (HostDescriptor.decode url body) .loaded
      (Payload.decodeValue url body) (fun v => .rejected ⟨status, v⟩) .failed
      (s.fetchHost first url).1 ∧
    ReadByStatus (200 ≤ status ∧ status ≤ 209) (LogEntry.decodeList url body) .entries
      (Payload.decodeValue url body) (fun v => .rejected ⟨status, v⟩) .failed
      (s.fetchLogs first url).1 := by
  have same :
      HostLinks.SameHosts (s.fetchHostLinks first url).1 (t.fetchHostLinks second url).1 := by
    rw [Session.outcome_fetchHostLinks, Session.outcome_fetchHostLinks, answered, answered']
    exact HostLinks.sameHosts_ofResponse url body status status'
  refine ⟨same, fun alike page logs => ?_, ?_, ?_⟩
  · exact ⟨Page.loadHosts_of_sameHosts same alike page, Page.load_of_sameHosts same alike page logs⟩
  · rw [Session.outcome_fetchHost, answered]
    exact HostOutcome.readByStatus url body status
  · rw [Session.outcome_fetchLogs, answered]
    exact LogsOutcome.readByStatus url body status

/-- A host list with one host, and with itself as a second one. -/
def ownListing : String :=
  (HostEntry.listToJson [⟨"/web"⟩, ⟨"/hosts"⟩]).compact

/-- A script that lists its hosts under a status, and is a host itself when asked again. -/
def listingScript (status : Nat) : Routes :=
  [("/hosts", [.ok ⟨status, ownListing⟩,
      .ok ⟨200, (HostDescriptor.toJson ⟨"lister", "up", []⟩).compact⟩]),
    ("/logs", [.ok ⟨200, (LogEntry.listToJson []).compact⟩]),
    ("/web", [.ok ⟨200, (HostDescriptor.toJson ⟨"web", "up", []⟩).compact⟩])]

/-- Under a success and under a refusal the list has both hosts, and both are shown. Asked for as a
host it is read as one under the success only. -/
theorem host_list_ignores_status_listingScript :
    let s := Session.start (listingScript 200)
    let t := Session.start (listingScript 500)
    (Routes.client.get s.state "/hosts").1 = .ok ⟨200, ownListing⟩ ∧
    (Routes.client.get t.state "/hosts").1 = .ok ⟨500, ownListing⟩ ∧
    HostLinks.SameHosts (s.fetchHostLinks Routes.client "/hosts").1
      (t.fetchHostLinks Routes.client "/hosts").1 ∧
    Page.LoadedAlike s t (Page.empty.loadHosts Routes.client "/hosts" s)
      (Page.empty.loadHosts Routes.client "/hosts" t) ∧
    Page.LoadedAlike s t (Page.empty.load Routes.client ⟨"/hosts", "/logs"⟩ s)
      (Page.empty.load Routes.client ⟨"/hosts", "/logs"⟩ t) ∧
    (Page.empty.loadHosts Routes.client "/hosts" t).1.views.map HostView.name =
      [some "web", some "lister"] ∧
    ReadAs (HostDescriptor.decode "/hosts" ownListing) .loaded .failed
      (s.fetchHost Routes.client "/hosts").1 ∧
    ReadAs (Payload.decodeValue "/hosts" ownListing) (fun v => .rejected ⟨500, v⟩) .failed
      (t.fetchHost Routes.client "/hosts").1 := by
  intro s t
  have answered : (Routes.client.get s.state "/hosts").1 = .ok ⟨200, ownListing⟩ := rfl
  have answered' : (Routes.client.get t.state "/hosts").1 = .ok ⟨500, ownListing⟩ := rfl
  -- Once the list has been handed out the two scripts are the same.
  have alike : Routes.client.AnswersAlike (Routes.client.get s.state "/hosts").2 Routes.client
      (Routes.client.get t.state "/hosts").2 := fun asked => rfl
  obtain ⟨same, loaded, host, -⟩ := host_list_ignores_status Routes.client Routes.client s t
    "/hosts" ownListing 200 500 answered answered'
  obtain ⟨-, -, host', -⟩ := host_list_ignores_status Routes.client Routes.client t s "/hosts"
    ownListing 500 200 answered' answered
  obtain ⟨hosts, all⟩ := loaded alike Page.empty "/logs"
  refine ⟨answered, answered', same, hosts, all, ?_, ?_, ?_⟩
  · decide +kernel
  · exact host.of_success (by decide)
  · exact host'.of_refusal (by decide)

end HostBoard
