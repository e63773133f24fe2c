import HostBoard.Page.Basic
import HostBoard.Service.Session

/-!
# Loading the page

Loading the host list mounts a view for every address in it and then fetches each new view's host.
Loading the logs fills the log panel. The combined load fetches the two collections first.
-/

namespace HostBoard

/-- The addresses of the two collections. -/
structure Endpoints where
  hosts : String
  logs : String
deriving DecidableEq, Repr

/-- Where the collections are found unless something else is configured. -/
def Endpoints.default : Endpoints := ⟨"/api/host/alive", "/api/logs"⟩

namespace Page

variable {σ : Type}

/-- Fetch the hosts of the views from one index up to another, and show the results. -/
def loadViews (client : Client σ) (start stop : Nat) (page : Page) (s : Session σ) :
    Page × Session σ :=
  let urls := ((page.views.take stop).drop start).map HostView.url
  let (outcomes, s) := s.fetchHosts client urls
  (page.applyHosts start outcomes, s)

/-- Mount the hosts of a list and load them, or show why there is no list. -/
def mountAndLoad (client : Client σ) (links : LinksOutcome) (page : Page) (s : Session σ) :
    Page × Session σ :=
  match links with
  | .ok links =>
    let mounted := page.mountHosts links.hrefs
    mounted.loadViews client page.views.length mounted.views.length s
  | .error failure => (page.setHostsError failure, s)

/-- Load the host list. -/
def loadHosts (client : Client σ) (url : String) (page : Page) (s : Session σ) :
    Page × Session σ :=
  let (links, s) := s.fetchHostLinks client url
  page.mountAndLoad client links s

/-- Load the logs. -/
def loadLogs (client : Client σ) (url : String) (page : Page) (s : Session σ) :
    Page × Session σ :=
  let (outcome, s) := s.fetchLogs client url
  (page.applyLogs outcome, s)

/-- Load everything. -/
def load (client : Client σ) (endpoints : Endpoints) (page : Page) (s : Session σ) :
    Page × Session σ :=
  let (links, s) := s.fetchHostLinks client endpoints.hosts
  let (outcome, s) := s.fetchLogs client endpoints.logs
  (page.applyLogs outcome).mountAndLoad client links s

end Page

end HostBoard
