import HostBoard.Page.HostView
import HostBoard.Page.LogPanel

/-!
# The page

Everything the dashboard shows: the host views in the order in which they were mounted, the error
of the host list, and the log panel.
-/

namespace HostBoard

/-- The dashboard page. -/
structure Page where
  views : List HostView
  hostsError : Option String
  logs : LogPanel
deriving Repr

namespace Page

/-- The page before anything was loaded. -/
def empty : Page := ⟨[], none, .empty⟩

/-- Append an unloaded view for every address, in order. -/
def mountHosts (hrefs : List String) (page : Page) : Page :=
  { page with views := page.views ++ hrefs.map HostView.unloaded }

/-- Append an unloaded view. -/
def mountHost (url : String) (page : Page) : Page :=
  page.mountHosts [url]

/-- Change the view at an index, if there is one. -/
def modifyHost (index : Nat) (f : HostView → HostView) (page : Page) : Page :=
  { page with views := page.views.modify index f }

/-- Show the results of fetching hosts in the views from an index on. -/
def applyHosts (start : Nat) (outcomes : List HostOutcome) (page : Page) : Page :=
  (outcomes.zipIdx start).foldl (fun page (outcome, index) =>
    page.modifyHost index (HostView.apply outcome)) page

/-- Show the result of fetching the logs. -/
def applyLogs (outcome : LogsOutcome) (page : Page) : Page :=
  { page with logs := page.logs.apply outcome }

/-- Show why the host list could not be loaded. -/
def setHostsError (failure : Failure) (page : Page) : Page :=
  { page with hostsError := some failure.text }

end Page

end HostBoard
