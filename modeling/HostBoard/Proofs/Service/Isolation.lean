import HostBoard.Proofs.Client.Tables
import Mathlib.Data.List.Forall2

/-!
# Views do not interfere

Two loads of one page run side by side, with two clients that agree on every address but one. They
ask for the same addresses in the same order, and their pages differ in the views of that one
address at most, and in the log panel only if the address is that of the logs.

The relation that carries the comparison is `Client.AgreeExcept`: asked for the same addresses, the
two clients answer alike for every other one. A request to both keeps it, so by induction on the
listed addresses every pair of new views is alike (`Client.AgreeExcept.views`). The hosts
themselves are listed alike, because the host list does not stand at the address that differs.
-/

namespace HostBoard

variable {σ τ : Type} {first : Client σ} {second : Client τ} {s : σ} {t : τ} {u : String}

/-- Asked for the same addresses, the clients answer alike for every address but one. -/
def Client.AgreeExcept (u : String) (first : Client σ) (s : σ) (second : Client τ) (t : τ) : Prop :=
  ∀ (asked : List String) (url : String), url ≠ u →
    (first.get (first.answers s asked).2 url).1 = (second.get (second.answers t asked).2 url).1

/-- Two views of one address, which are the same unless it is the address that differs. -/
def HostView.AlikeExcept (u : String) (left right : HostView) : Prop :=
  left.url = right.url ∧ (left.url ≠ u → left = right)

/-- Two pages whose views are alike one by one, with the same error of the host list. -/
structure Page.AlikeExcept (u : String) (left right : Page) : Prop where
  views : List.Forall₂ (HostView.AlikeExcept u) left.views right.views
  hostsError : left.hostsError = right.hostsError

namespace Client.AgreeExcept

lemma of_tabled {table other : String → Nat → Reply} (left : first.Tabled s table)
    (right : second.Tabled t other) (same : ∀ url, url ≠ u → table url = other url) :
    AgreeExcept u first s second t := by
  intro asked url differs
  rw [left asked url, right asked url, same url differs]

lemma reply (agree : AgreeExcept u first s second t) {url : String} (differs : url ≠ u) :
    (first.get s url).1 = (second.get t url).1 :=
  agree [] url differs

/-- Both clients are asked for an address, and still agree. -/
lemma after (agree : AgreeExcept u first s second t) (url : String) :
    AgreeExcept u first (first.get s url).2 second (second.get t url).2 :=
  fun asked => agree (url :: asked)

/-- The views of a list of addresses, each with the answer to its own request. -/
lemma views (agree : AgreeExcept u first s second t) (hrefs : List String) :
    List.Forall₂ (HostView.AlikeExcept u)
      (List.zipWith Page.answeredView hrefs (first.answers s hrefs).1)
      (List.zipWith Page.answeredView hrefs (second.answers t hrefs).1) := by
  induction hrefs generalizing s t with
  | nil => exact .nil
  | cons href hrefs ih =>
    have here : HostView.AlikeExcept u (Page.answeredView href (first.get s href).1)
        (Page.answeredView href (second.get t href).1) := by
      rw [HostView.AlikeExcept, Page.url_answeredView, Page.url_answeredView]
      refine ⟨rfl, fun differs => ?_⟩
      rw [agree.reply differs]
    exact .cons here (ih (agree.after href))

end Client.AgreeExcept

namespace Page

lemma alikeExcept_applyLogs (u : String) (left right : LogsOutcome) (page : Page) :
    (page.applyLogs left).AlikeExcept u (page.applyLogs right) where
  views := List.forall₂_same.mpr fun _ _ => ⟨rfl, fun _ => rfl⟩
  hostsError := rfl

lemma AlikeExcept.urls {left right : Page} (alike : left.AlikeExcept u right) :
    left.views.map HostView.url = right.views.map HostView.url := by
  have views := alike.views
  generalize left.views = olds, right.views = news at views
  induction views with
  | nil => rfl
  | cons here _ rest => exact congrArg₂ List.cons here.1 rest

variable {left right : Page} {a : Session σ} {b : Session τ} {links links' : LinksOutcome}

/-- Both pages mount what the same host list says, and load it. -/
lemma AlikeExcept.mountAndLoad (alike : left.AlikeExcept u right)
    (agree : Client.AgreeExcept u first a.state second b.state) (same : links = links') :
    (left.mountAndLoad first links a).1.AlikeExcept u (right.mountAndLoad second links' b).1 := by
  subst same
  cases links with
  | ok links =>
    rw [page_mountAndLoad, page_mountAndLoad]
    exact ⟨List.rel_append alike.views (agree.views links.hrefs), alike.hostsError⟩
  | error failure => exact ⟨alike.views, rfl⟩

lemma requested_mountAndLoad (asked : a.requested = b.requested) (same : links = links') :
    (left.mountAndLoad first links a).2.requested =
      (right.mountAndLoad second links' b).2.requested := by
  subst same
  cases links with
  | ok links =>
    rw [session_mountAndLoad, session_mountAndLoad, Session.requested_fetchHosts,
      Session.requested_fetchHosts, asked]
  | error failure => exact asked

/-- One address cannot show in the views of another. Two clients answer every address on its own
and have the same table but for one row, which is not that of the host list. Then the loads of any
page ask for the same addresses in the same order and mount the same views, show the same error of
the host list, and show the same in every view of another address; and the log panels are the same
unless that row is the one of the logs. -/
theorem load_isolates_addresses (first : Client σ) (second : Client τ) (s : σ) (t : τ)
    (table other : String → Nat → Reply) (u : String) (endpoints : Endpoints) (page : Page)
    (left_tabled : first.Tabled s table) (right_tabled : second.Tabled t other)
    (same_rows : ∀ url, url ≠ u → table url = other url) (not_hosts : u ≠ endpoints.hosts) :
    let left := page.load first endpoints (Session.start s)
    let right := page.load second endpoints (Session.start t)
    left.2.requested = right.2.requested ∧
    left.1.views.map HostView.url = right.1.views.map HostView.url ∧
    left.1.hostsError = right.1.hostsError ∧
    List.Forall₂ (HostView.AlikeExcept u) left.1.views right.1.views ∧
    (u ≠ endpoints.logs → left.1.logs = right.1.logs) := by
  intro left right
  have agree : Client.AgreeExcept u first s second t := .of_tabled left_tabled right_tabled same_rows
  -- Both loads ask for the host list and then for the logs, whatever the answers are.
  have past_hosts := agree.after endpoints.hosts
  have past_logs := past_hosts.after endpoints.logs
  have listed : HostLinks.ofReply endpoints.hosts (first.get s endpoints.hosts).1 =
      HostLinks.ofReply endpoints.hosts (second.get t endpoints.hosts).1 := by
    rw [agree.reply not_hosts.symm]
  have alike : left.1.AlikeExcept u right.1 :=
    (alikeExcept_applyLogs u _ _ page).mountAndLoad past_logs listed
  have asked : left.2.requested = right.2.requested := requested_mountAndLoad rfl listed
  refine ⟨asked, alike.urls, alike.hostsError, alike.views, fun not_logs => ?_⟩
  have logged := past_hosts.reply not_logs.symm
  calc left.1.logs
      = page.logs.apply (LogsOutcome.ofReply endpoints.logs
          (first.get (first.get s endpoints.hosts).2 endpoints.logs).1) :=
        logs_load first page (Session.start s) endpoints
    _ = page.logs.apply (LogsOutcome.ofReply endpoints.logs
          (second.get (second.get t endpoints.hosts).2 endpoints.logs).1) := by rw [logged]
    _ = right.1.logs := (logs_load second page (Session.start t) endpoints).symm

/-- A script with two hosts, of which one is listed twice. -/
def hostsScript : Routes :=
  [("/hosts", [.ok ⟨200, (HostEntry.listToJson [⟨"/web"⟩, ⟨"/db"⟩, ⟨"/web"⟩]).compact⟩]),
    ("/logs", [.ok ⟨200, (LogEntry.listToJson []).compact⟩]),
    ("/web", [.ok ⟨200, (HostDescriptor.toJson ⟨"web", "up", []⟩).compact⟩]),
    ("/db", [.ok ⟨200, (HostDescriptor.toJson ⟨"db", "up", []⟩).compact⟩])]

/-- The host at one address fails, in both of its views, and the other host is shown as before. -/
theorem load_isolates_addresses_hostsScript :
    let outage := hostsScript.replace "/web" [.error "down"]
    let left := Page.empty.load Routes.client ⟨"/hosts", "/logs"⟩ (Session.start hostsScript)
    let right := Page.empty.load Routes.client ⟨"/hosts", "/logs"⟩ (Session.start outage)
    Routes.client.Tabled hostsScript hostsScript.table ∧
    Routes.client.Tabled outage outage.table ∧
    (∀ url, url ≠ "/web" → hostsScript.table url = outage.table url) ∧
    left.2.requested = right.2.requested ∧
    left.1.views.map HostView.url = right.1.views.map HostView.url ∧
    left.1.hostsError = right.1.hostsError ∧
    List.Forall₂ (HostView.AlikeExcept "/web") left.1.views right.1.views ∧
    left.1.logs = right.1.logs ∧
    left.1.views.map HostView.name = [some "web", some "db", some "web"] ∧
    right.1.views.map HostView.name = [none, some "db", none] := by
  have left_tabled := Routes.client_tabled hostsScript
  have right_tabled := Routes.client_tabled (hostsScript.replace "/web" [.error "down"])
  have same_rows : ∀ url, url ≠ "/web" →
      hostsScript.table url = (hostsScript.replace "/web" [.error "down"]).table url :=
    fun url differs => (Routes.table_replace_ne differs hostsScript [.error "down"]).symm
  obtain ⟨asked, urls, hostsError, views, logs⟩ :=
    load_isolates_addresses Routes.client Routes.client hostsScript _ hostsScript.table _ "/web"
      ⟨"/hosts", "/logs"⟩ Page.empty left_tabled right_tabled same_rows (by decide)
  refine ⟨left_tabled, right_tabled, same_rows, asked, urls, hostsError, views, logs (by decide),
    ?_, ?_⟩
  · decide +kernel
  · decide +kernel

end Page

end HostBoard
