import HostBoard.Proofs.Client.Tables

/-!
# The combined load and the two loads apart

The combined load asks for the host list, for the logs and then for the hosts. The two loads one
after the other ask for the same addresses in another order: the logs before everything, or after
everything. With a client that has a table of answers the order matters only where one address is
asked for twice, so that the two orders come to the same as long as the logs do not stand at an
address that is asked for on the way they are moved: the host list's on the way to the front, a
listed host's on the way to the end.

Three facts make up the argument. A load is known by the addresses that it asks for, in their order
(`Session.Asks`); to move the logs permutes them, and leaves every address with the answers it had
(`Client.Tabled.answers_eq`). And showing logs and mounting hosts concern different parts of a page,
so they commute (`Page.mountAndLoad_applyLogs`).
-/

namespace HostBoard

variable {σ : Type} {client : Client σ} {s t u : Session σ}

/-- A later session, and the addresses that were asked for since an earlier one. -/
structure Session.Asks (client : Client σ) (s : Session σ) (urls : List String) (t : Session σ) :
    Prop where
  requested : t.requested = s.requested ++ urls
  state : t.state = (client.answers s.state urls).2

/-- Two ways to load come to the same. The pages are the same, and so are the requests up to their
order; everything is then answered alike; and the states are the same, unless the client remembers
in its state in which order it was asked. -/
structure Page.ComeToSame (client : Client σ) (s : Session σ) (first second : Page × Session σ) :
    Prop where
  page : first.1 = second.1
  requested : first.2.requested.Perm second.2.requested
  alike : client.Alike first.2.state second.2.state
  state : client.Unordered s.state → first.2.state = second.2.state

namespace Session

lemma Asks.trans {first second : List String} (one : s.Asks client first t)
    (two : t.Asks client second u) : s.Asks client (first ++ second) u where
  requested := by rw [two.requested, one.requested, List.append_assoc]
  state := by rw [two.state, one.state, client.state_answers_append]

variable (client)

lemma asks_fetchHostLinks (url : String) (s : Session σ) :
    s.Asks client [url] (s.fetchHostLinks client url).2 := ⟨rfl, rfl⟩

lemma asks_fetchLogs (url : String) (s : Session σ) :
    s.Asks client [url] (s.fetchLogs client url).2 := ⟨rfl, rfl⟩

lemma asks_fetchHosts (urls : List String) (s : Session σ) :
    s.Asks client urls (s.fetchHosts client urls).2 :=
  ⟨requested_fetchHosts client urls s, state_fetchHosts client urls s⟩

end Session

namespace Page

variable (client)

lemma asks_mountAndLoad (links : LinksOutcome) (page : Page) (s : Session σ) :
    s.Asks client (HostLinks.listed links) (page.mountAndLoad client links s).2 := by
  rw [session_mountAndLoad_listed]
  exact Session.asks_fetchHosts client (HostLinks.listed links) s

lemma asks_loadHosts (url : String) (page : Page) (s : Session σ) :
    s.Asks client (url :: HostLinks.listed (s.fetchHostLinks client url).1)
      (page.loadHosts client url s).2 :=
  (Session.asks_fetchHostLinks client url s).trans (asks_mountAndLoad client _ page _)

lemma asks_load (endpoints : Endpoints) (page : Page) (s : Session σ) :
    s.Asks client (endpoints.hosts :: endpoints.logs ::
        HostLinks.listed (s.fetchHostLinks client endpoints.hosts).1)
      (page.load client endpoints s).2 :=
  ((Session.asks_fetchHostLinks client endpoints.hosts s).trans
    (Session.asks_fetchLogs client endpoints.logs _)).trans (asks_mountAndLoad client _ _ _)

/-- It does not matter whether logs are shown before hosts are mounted or after. -/
lemma mountAndLoad_applyLogs (outcome : LogsOutcome) (links : LinksOutcome) (page : Page)
    (s : Session σ) :
    ((page.applyLogs outcome).mountAndLoad client links s).1 =
      (page.mountAndLoad client links s).1.applyLogs outcome := by
  cases links with
  | ok links =>
    rw [page_mountAndLoad, page_mountAndLoad]
    rfl
  | error failure => rfl

/-- All that a page takes from a session is the answers for the listed addresses. -/
lemma mountAndLoad_congr {links : LinksOutcome} (page : Page)
    (same : (client.answers s.state (HostLinks.listed links)).1 =
      (client.answers t.state (HostLinks.listed links)).1) :
    (page.mountAndLoad client links s).1 = (page.mountAndLoad client links t).1 := by
  cases links with
  | ok links =>
    rw [page_mountAndLoad, page_mountAndLoad]
    rw [HostLinks.listed] at same
    rw [same]
  | error failure => rfl

variable {client} {table : String → Nat → Reply}

/-- Loads that ask for the same addresses in another order come to the same if they show the same. -/
lemma ComeToSame.of_perm (tabled : client.Tabled s.state table) {first second : Page × Session σ}
    {asked other : List String} (one : s.Asks client asked first.2)
    (two : s.Asks client other second.2) (perm : asked.Perm other) (page : first.1 = second.1) :
    ComeToSame client s first second where
  page := page
  requested := by
    rw [one.requested, two.requested]
    exact perm.append_left s.requested
  alike := by
    rw [one.state, two.state]
    exact tabled.alike perm
  state unordered := by
    rw [one.state, two.state]
    exact unordered.state_eq perm

/-- The logs can be moved to the front, past the host list. -/
lemma load_comeToSame_logsFirst (tabled : client.Tabled s.state table) {endpoints : Endpoints}
    (differ : endpoints.hosts ≠ endpoints.logs) (page : Page) :
    let logs := page.loadLogs client endpoints.logs s
    ComeToSame client s (page.load client endpoints s)
      (logs.1.loadHosts client endpoints.hosts logs.2) := by
  intro logs
  let hosts := s.fetchHostLinks client endpoints.hosts
  let both := hosts.2.fetchLogs client endpoints.logs
  let turned := logs.2.fetchHostLinks client endpoints.hosts
  have list : hosts.1 = turned.1 := by
    have unasked : [].count endpoints.hosts = [endpoints.logs].count endpoints.hosts :=
      (List.count_cons_of_ne differ.symm).symm
    exact congrArg (HostLinks.ofReply endpoints.hosts) (tabled.reply_eq unasked)
  have log : both.1 = (s.fetchLogs client endpoints.logs).1 := by
    have unasked : [endpoints.hosts].count endpoints.logs = [].count endpoints.logs :=
      List.count_cons_of_ne differ
    exact congrArg (LogsOutcome.ofReply endpoints.logs) (tabled.reply_eq unasked)
  -- From here on both have been asked for, so that the hosts are answered alike.
  have perm : [endpoints.hosts, endpoints.logs].Perm [endpoints.logs, endpoints.hosts] := .swap _ _ []
  have views : (client.answers both.2.state (HostLinks.listed turned.1)).1 =
      (client.answers turned.2.state (HostLinks.listed turned.1)).1 :=
    tabled.answers_eq fun url _ => perm.count_eq url
  have asked := asks_load client endpoints page s
  have apart := (Session.asks_fetchLogs client endpoints.logs s).trans
    (asks_loadHosts client endpoints.hosts logs.1 logs.2)
  refine .of_perm tabled asked apart ?_ ?_
  · rw [← show hosts.1 = turned.1 from list]
    exact perm.append_right (HostLinks.listed hosts.1)
  · calc (page.load client endpoints s).1
        = ((page.applyLogs both.1).mountAndLoad client hosts.1 both.2).1 := rfl
      _ = (logs.1.mountAndLoad client turned.1 both.2).1 := by
        rw [log, list]
        rfl
      _ = (logs.1.mountAndLoad client turned.1 turned.2).1 := mountAndLoad_congr client logs.1 views

/-- The logs can be moved to the end, past the listed hosts. -/
lemma load_comeToSame_hostsFirst (tabled : client.Tabled s.state table) {endpoints : Endpoints}
    (unlisted : endpoints.logs ∉ HostLinks.listed (s.fetchHostLinks client endpoints.hosts).1)
    (page : Page) :
    let hosts := page.loadHosts client endpoints.hosts s
    ComeToSame client s (page.load client endpoints s)
      (hosts.1.loadLogs client endpoints.logs hosts.2) := by
  intro loaded
  let hosts := s.fetchHostLinks client endpoints.hosts
  let both := hosts.2.fetchLogs client endpoints.logs
  let hrefs := HostLinks.listed hosts.1
  have alone : s.Asks client (endpoints.hosts :: hrefs) loaded.2 :=
    asks_loadHosts client endpoints.hosts page s
  have log : both.1 = (loaded.2.fetchLogs client endpoints.logs).1 := by
    have unasked : [endpoints.hosts].count endpoints.logs =
        (endpoints.hosts :: hrefs).count endpoints.logs := by
      rw [List.count_cons, List.count_cons, List.count_eq_zero.mpr unlisted]
      rfl
    have reply := tabled.reply_eq unasked
    rw [← alone.state] at reply
    exact congrArg (LogsOutcome.ofReply endpoints.logs) reply
  -- The hosts are asked for without the logs now, which are none of them.
  have views : (client.answers both.2.state hrefs).1 = (client.answers hosts.2.state hrefs).1 := by
    apply @Client.Tabled.answers_eq _ _ _ _ tabled ([endpoints.hosts] ++ [endpoints.logs])
      [endpoints.hosts]
    intro url among
    have other : endpoints.logs ≠ url := fun same => unlisted (same ▸ among)
    have absent : [endpoints.logs].count url = 0 := List.count_cons_of_ne other
    rw [List.count_append, absent, Nat.add_zero]
  have perm : (endpoints.hosts :: endpoints.logs :: hrefs).Perm
      (endpoints.hosts :: hrefs ++ [endpoints.logs]) :=
    (List.perm_append_singleton endpoints.logs hrefs).symm.cons endpoints.hosts
  have asked := asks_load client endpoints page s
  have apart := alone.trans (Session.asks_fetchLogs client endpoints.logs loaded.2)
  refine .of_perm tabled asked apart perm ?_
  calc (page.load client endpoints s).1
      = ((page.applyLogs both.1).mountAndLoad client hosts.1 both.2).1 := rfl
    _ = (page.mountAndLoad client hosts.1 both.2).1.applyLogs both.1 :=
      mountAndLoad_applyLogs client both.1 hosts.1 page both.2
    _ = (page.mountAndLoad client hosts.1 hosts.2).1.applyLogs both.1 := by
      rw [mountAndLoad_congr client page views]
    _ = (loaded.1.loadLogs client endpoints.logs loaded.2).1 := by
      rw [log]
      rfl

/-- The combined load and the two loads one after the other, for any client that answers from a
table, any page and any addresses. With the logs loaded first they come to the same if the host list
and the logs have different addresses; with the host list loaded first they come to the same if the
address of the logs is not one of the hosts that are listed. -/
theorem load_comes_to_loads_apart (client : Client σ) (s : Session σ)
    (table : String → Nat → Reply) (tabled : client.Tabled s.state table) (endpoints : Endpoints)
    (page : Page) :
    let combined := page.load client endpoints s
    let logs := page.loadLogs client endpoints.logs s
    let hosts := page.loadHosts client endpoints.hosts s
    (endpoints.hosts ≠ endpoints.logs →
      ComeToSame client s combined (logs.1.loadHosts client endpoints.hosts logs.2)) ∧
    (endpoints.logs ∉ HostLinks.listed (s.fetchHostLinks client endpoints.hosts).1 →
      ComeToSame client s combined (hosts.1.loadLogs client endpoints.logs hosts.2)) := by
  intro combined logs hosts
  refine ⟨fun differ => ?_, fun unlisted => ?_⟩
  · exact load_comeToSame_logsFirst tabled differ page
  · exact load_comeToSame_hostsFirst tabled unlisted page

/-- A script with one host that is listed twice, does not answer at first and answers then. -/
def wakingScript : Routes :=
  [("/hosts", [.ok ⟨200, (HostEntry.listToJson [⟨"/web"⟩, ⟨"/web"⟩]).compact⟩]),
    ("/logs", [.ok ⟨200, (LogEntry.listToJson [⟨"09:30", "up"⟩]).compact⟩]),
    ("/web", [.error "asleep", .ok ⟨200, (HostDescriptor.toJson ⟨"web", "up", []⟩).compact⟩])]

/-- All three loads of the script end with the same page and the same counts of requests. -/
theorem load_comes_to_loads_apart_wakingScript :
    let client := Client.ofTable wakingScript.table
    let s : Session (String → Nat) := Session.start fun _ => 0
    let combined := Page.empty.load client ⟨"/hosts", "/logs"⟩ s
    let logs := Page.empty.loadLogs client "/logs" s
    let logsFirst := logs.1.loadHosts client "/hosts" logs.2
    let hosts := Page.empty.loadHosts client "/hosts" s
    let hostsFirst := hosts.1.loadLogs client "/logs" hosts.2
    client.Tabled s.state wakingScript.table ∧
    "/logs" ∉ HostLinks.listed (s.fetchHostLinks client "/hosts").1 ∧
    combined.1 = logsFirst.1 ∧ combined.2.state = logsFirst.2.state ∧
    combined.1 = hostsFirst.1 ∧ combined.2.state = hostsFirst.2.state ∧
    combined.1.views.map HostView.name = [none, some "web"] ∧
    combined.1.logs.items = [⟨"09:30", "up"⟩] := by
  intro client s combined logs logsFirst hosts hostsFirst
  have tabled : client.Tabled s.state wakingScript.table := Client.tabled_ofTable _
  have unordered : client.Unordered s.state := Client.unordered_ofTable _ _
  have unlisted : "/logs" ∉ HostLinks.listed (s.fetchHostLinks client "/hosts").1 := by
    decide +kernel
  obtain ⟨moved_front, moved_end⟩ :=
    load_comes_to_loads_apart client s wakingScript.table tabled ⟨"/hosts", "/logs"⟩ Page.empty
  have front := moved_front (by decide)
  have back := moved_end unlisted
  refine ⟨tabled, unlisted, front.page, front.state unordered, back.page, back.state unordered,
    ?_, ?_⟩
  · decide +kernel
  · decide +kernel

end Page

end HostBoard
