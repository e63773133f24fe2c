import HostBoard.Service.Load

/-!
# Operations on the page

Everything that can happen to a page, as data, so that a whole run is a list.
-/

namespace HostBoard

/-- One operation. -/
inductive Operation where
  | load (endpoints : Endpoints)
  | loadHosts (url : String)
  | loadLogs (url : String)
  | mountHost (url : String)
  | mountHosts (hrefs : List String)
  | setContent (index : Nat) (host : HostDescriptor)
  | applyHost (index : Nat) (outcome : HostOutcome)
  | applyLogs (outcome : LogsOutcome)
  | setHostsError (failure : Failure)

namespace Operation

variable {σ : Type}

/-- What an operation does to a page and a session. -/
def run (client : Client σ) (op : Operation) (page : Page) (s : Session σ) : Page × Session σ :=
  match op with
  | .load endpoints => page.load client endpoints s
  | .loadHosts url => page.loadHosts client url s
  | .loadLogs url => page.loadLogs client url s
  | .mountHost url => (page.mountHost url, s)
  | .mountHosts hrefs => (page.mountHosts hrefs, s)
  | .setContent index host => (page.modifyHost index (HostView.setContent host), s)
  | .applyHost index outcome => (page.modifyHost index (HostView.apply outcome), s)
  | .applyLogs outcome => (page.applyLogs outcome, s)
  | .setHostsError failure => (page.setHostsError failure, s)

/-- What a list of operations does, one after another. -/
def runAll (client : Client σ) : List Operation → Page → Session σ → Page × Session σ
  | [], page, s => (page, s)
  | op :: ops, page, s =>
    let (page, s) := op.run client page s
    runAll client ops page s

end Operation

end HostBoard
