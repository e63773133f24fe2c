import HostBoard.Proofs.Service.Requests
import HostBoard.Web.Component
import Mathlib.Logic.Basic

/-!
# The browser shows the page

The same loads are wired twice. A page fetches for all of its views and hands the outcomes out by
index; in a browser every component fetches for itself and keeps a state of its own. For any client
the two agree in what is shown, in what is asked for and in what is reported.

What needs an argument is the host list. The components of its views are mounted one after another,
each with its own fetch. By induction on the addresses this is the run of fetches that the page
makes (`session_mountChildren`), and every component ends with the answer to its own request
(`views_mountChildren`), as the view of the page at the same index does.
-/

namespace HostBoard.Web

variable {σ : Type} (client : Client σ)

lemma views_mountChildren (hrefs : List String) (s : Session σ) :
    (mountChildren client hrefs s).1 =
      List.zipWith Page.answeredView hrefs (client.answers s.state hrefs).1 := by
  induction hrefs generalizing s with
  | nil => rfl
  | cons href hrefs ih => exact congrArg (_ :: ·) (ih (s.fetchHost client href).2)

lemma session_mountChildren (hrefs : List String) (s : Session σ) :
    (mountChildren client hrefs s).2 = (s.fetchHosts client hrefs).2 := by
  induction hrefs generalizing s with
  | nil => rfl
  | cons href hrefs ih => exact ih (s.fetchHost client href).2

/-- Answered views stand for the addresses in their order. -/
lemma urls_answeredViews {hrefs : List String} {replies : List Reply}
    (same : replies.length = hrefs.length) :
    (List.zipWith Page.answeredView hrefs replies).map HostView.url = hrefs := by
  induction hrefs generalizing replies with
  | nil => rfl
  | cons href hrefs ih =>
    cases replies with
    | nil => cases same
    | cons reply replies =>
      exact congrArg₂ List.cons (Page.url_answeredView href reply) (ih (Nat.succ.inj same))

/-- Whatever the host list says, its component and the components of its views end up with what the
page holds, by the same requests. -/
lemma hostList_agrees (links : LinksOutcome) (s : Session σ) :
    let state := HostListState.ofLinks links
    let page := Page.empty.mountAndLoad client links s
    state = ⟨page.1.views.map HostView.url, page.1.hostsError⟩ ∧
    mountChildren client state.hrefs s = (page.1.views, page.2) ∧
    page.2.requested = s.requested ++ state.hrefs := by
  cases links with
  | ok links =>
    intro state page
    have shown := Page.page_mountAndLoad client Page.empty s links
    have views : page.1.views =
        List.zipWith Page.answeredView links.hrefs (client.answers s.state links.hrefs).1 :=
      congrArg Page.views shown
    have hostsError : page.1.hostsError = none := congrArg Page.hostsError shown
    have session : page.2 = (s.fetchHosts client links.hrefs).2 :=
      Page.session_mountAndLoad client Page.empty s links
    refine ⟨?_, ?_, ?_⟩
    · rw [views, hostsError, urls_answeredViews (client.length_answers s.state links.hrefs)]
      rfl
    · rw [views, session]
      exact Prod.ext (views_mountChildren client links.hrefs s)
        (session_mountChildren client links.hrefs s)
    · rw [session]
      exact Session.requested_fetchHosts client links.hrefs s
  | error failure => exact ⟨rfl, rfl, (List.append_nil s.requested).symm⟩

/-- A view that is mounted alone on the empty page shows the answer to its request. -/
lemma loadViews_mountHost (url : String) (s : Session σ) :
    (Page.empty.mountHost url).loadViews client 0 1 s =
      (⟨[(mountHostView client url s).1], none, .empty⟩, (mountHostView client url s).2) := by
  have mounted := Page.page_mountAndLoad client Page.empty s ⟨[url], none⟩
  have session := Page.session_mountAndLoad client Page.empty s ⟨[url], none⟩
  exact Prod.ext mounted session

/-- The components and the page, for any client and any address.

The host list component has the error of the page and the addresses of its views, is written with
one child for each view and with a paragraph for the error if there is one; its children end up as
the views of the page, after the same requests: the list, then the addresses it holds. A host view
component ends up as the view that its page holds, which is the unloaded view with the outcome of
its fetch, and the log panel component as the log panel of its page. -/
theorem components_agree_with_page (url : String) (s : Session σ) :
    (let list := mountHostList client url s
      let page := Page.empty.loadHosts client url s
      list.1.error = page.1.hostsError ∧
      list.1.hrefs = page.1.views.map HostView.url ∧
      mountChildren client list.1.hrefs list.2 = (page.1.views, page.2) ∧
      page.2.requested = s.requested ++ url :: list.1.hrefs ∧
      Component.hostList.display client url s =
        (element "div" " id=\"content\""
          (orNothing (fun e => element "p" " class=\"error\"" (text e)) page.1.hostsError ++
            sequence (fun view => hostViewMarkup (HostView.unloaded view.url)) page.1.views),
          page.2)) ∧
    (let view := (HostView.unloaded url).apply (s.fetchHost client url).1
      let page := (Page.empty.mountHost url).loadViews client 0 1 s
      mountHostView client url s = (view, page.2) ∧
      page.1.views = [view] ∧
      Component.hostView.display client url s = (hostViewMarkup view, page.2)) ∧
    (let panel := mountLogList client url s
      let page := Page.empty.loadLogs client url s
      panel.1.text = page.1.logs.text ∧
      panel.1.items = page.1.logs.items ∧
      page.2.requested = s.requested ++ [url] ∧
      Component.logList.display client url s = (logListMarkup page.1.logs, page.2)) := by
  refine ⟨?_, ?_, ⟨rfl, rfl, rfl, rfl⟩⟩
  · intro list page
    obtain ⟨state, children, asked⟩ := hostList_agrees client
      (s.fetchHostLinks client url).1 (s.fetchHostLinks client url).2
    have kept : list.1 = ⟨page.1.views.map HostView.url, page.1.hostsError⟩ := state
    have mounted : mountChildren client list.1.hrefs list.2 = (page.1.views, page.2) := children
    have displayed : Component.hostList.display client url s =
        (hostListMarkup list.1.error (list.1.hrefs.map HostView.unloaded),
          (mountChildren client list.1.hrefs list.2).2) := rfl
    refine ⟨congrArg HostListState.error kept, congrArg HostListState.hrefs kept, mounted, ?_, ?_⟩
    · rw [Session.requested_fetchHostLinks, List.append_assoc] at asked
      exact asked
    · rw [displayed, mounted, kept, hostListMarkup, sequence, List.map_map, List.flatMap_map]
      rfl
  · intro view page
    have mounted : page = (⟨[view], none, .empty⟩, (mountHostView client url s).2) :=
      loadViews_mountHost client url s
    have session : page.2 = (mountHostView client url s).2 := congrArg Prod.snd mounted
    refine ⟨?_, congrArg (fun shown => shown.1.views) mounted, ?_⟩
    · rw [session]
      rfl
    · rw [session]
      rfl

end HostBoard.Web
