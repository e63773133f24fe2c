import HostBoard.Page.Basic
import HostBoard.Service.Load
import HostBoard.Web.Markup

/-!
# Components of the browser page

Three components show the page in a browser. Each fetches its own address when it is mounted, keeps
what it shows in a state of its own, and is written as markup. The views of a host list are mounted
when the list is shown, and fetch their hosts after that.
-/

namespace HostBoard.Web

variable {σ : Type}

/-- The markup of a host view. -/
def hostViewMarkup (view : HostView) : Markup :=
  "<div data-status=\"".toList ++ attributeValue view.status ++ "\" class=\"host-view\">".toList ++
  element "div" " class=\"host-name\"" (text view.regions.name) ++
  element "div" " class=\"host-status\"" (text view.regions.status) ++
  element "div" " class=\"host-paths\"" (text view.regions.paths) ++
  orNothing (fun e => element "div" " class=\"host-error error\"" (text e)) view.error ++
  "</div>".toList

/-- What a host list shows: the addresses of its views, and its error. -/
structure HostListState where
  hrefs : List String
  error : Option String
deriving DecidableEq, Repr

/-- The state of a host list after its fetch. -/
def HostListState.ofLinks : LinksOutcome → HostListState
  | .ok links => ⟨links.hrefs, none⟩
  | .error failure => ⟨[], some failure.text⟩

/-- The markup of a host list, with its error and with its views as they are by then. -/
def hostListMarkup (error : Option String) (views : List HostView) : Markup :=
  element "div" " id=\"content\""
    (orNothing (fun e => element "p" " class=\"error\"" (text e)) error ++
      sequence hostViewMarkup views)

/-- The markup of a log item. -/
def logItemMarkup (item : LogItem) : Markup :=
  element "li" ""
    (element "span" " class=\"log-time\"" (text item.time) ++
      element "div" " class=\"log-message\"" (text item.message))

/-- The markup of the log panel. -/
def logListMarkup (panel : LogPanel) : Markup :=
  element "section" " class=\"logs\""
    (element "div" " id=\"logs\" class=\"error\"" (orNothing text panel.text) ++
      element "ul" " id=\"logcontent\"" (sequence logItemMarkup panel.items))

/-- Mount a host view: its state after its fetch. -/
def mountHostView (client : Client σ) (url : String) (s : Session σ) : HostView × Session σ :=
  let (outcome, s) := s.fetchHost client url
  ((HostView.unloaded url).apply outcome, s)

/-- Mount a host list: its state after its fetch. -/
def mountHostList (client : Client σ) (url : String) (s : Session σ) :
    HostListState × Session σ :=
  let (links, s) := s.fetchHostLinks client url
  (.ofLinks links, s)

/-- Mount the views of a host list, in order. -/
def mountChildren (client : Client σ) : List String → Session σ → List HostView × Session σ
  | [], s => ([], s)
  | href :: hrefs, s =>
    let (view, s) := mountHostView client href s
    let (views, s) := mountChildren client hrefs s
    (view :: views, s)

/-- Mount a log panel: its state after its fetch. -/
def mountLogList (client : Client σ) (url : String) (s : Session σ) : LogPanel × Session σ :=
  let (outcome, s) := s.fetchLogs client url
  (LogPanel.empty.apply outcome, s)

/-- The components that can be mounted. -/
inductive Component where
  | hostList
  | hostView
  | logList
deriving DecidableEq, Repr

/-- Mount a component and write it. A host list is written while its views are without content. -/
def Component.display (client : Client σ) (url : String) (s : Session σ) :
    Component → Markup × Session σ
  | .hostList =>
    let (state, s) := mountHostList client url s
    let (_, s) := mountChildren client state.hrefs s
    (hostListMarkup state.error (state.hrefs.map HostView.unloaded), s)
  | .hostView =>
    let (view, s) := mountHostView client url s
    (hostViewMarkup view, s)
  | .logList =>
    let (panel, s) := mountLogList client url s
    (logListMarkup panel, s)

/-- The addresses of the collections, from the data attributes of the page's body. -/
def endpoints (lookup : String → Option String) : Endpoints where
  hosts := (lookup "hostsUrl").getD Endpoints.default.hosts
  logs := (lookup "logsUrl").getD Endpoints.default.logs

end HostBoard.Web
