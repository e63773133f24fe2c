import HostBoard.Program
import HostBoard.Proofs.Service.HostsError

/-!
# The configuration decides how a run ends

A run can fail only before it has asked the network for anything. The base address of a
configuration that could be loaded has been read once already, so it is read again when the client
is built (`snapshot_eq_ok`); and from then on whatever goes wrong is shown on the page. That
page was empty when its only load began: it cannot show the error of a host list beside hosts, nor
a text in place of the logs beside log items (`Page.shows_either`).
-/

namespace HostBoard

/-- On the page of a single load an error of the host list stands in place of hosts, and a text
stands in place of log items. -/
lemma Page.shows_either {σ : Type} (client : Client σ) (endpoints : Endpoints) (s : Session σ) :
    let page := (Page.empty.load client endpoints s).1
    (page.hostsError.isSome → page.views = []) ∧ (page.logs.text.isSome → page.logs.items = []) := by
  intro page
  have loaded := load_eq client Page.empty s endpoints
  constructor
  · intro shown
    have views : page.views = _ := congrArg (fun result => result.1.views) loaded
    have hostsError : page.hostsError = _ := congrArg (fun result => result.1.hostsError) loaded
    rw [Operation.hostsError_mountAndLoad] at hostsError
    rw [views_mountAndLoad] at views
    -- Only a list that cannot be read is shown as an error, and such a list holds no address.
    cases read : HostLinks.ofReply endpoints.hosts (client.get s.state endpoints.hosts).1 with
    | ok links =>
      rw [read] at hostsError
      rw [hostsError] at shown
      cases shown
    | error failure =>
      rw [read] at views
      exact views
  · intro shown
    have logs : page.logs = _ := logs_load client Page.empty s endpoints
    rw [logs] at shown ⊢
    generalize LogsOutcome.ofReply endpoints.logs _ = outcome at shown ⊢
    cases outcome with
    | entries entries => cases shown
    | rejected r => rfl
    | failed failure => rfl

variable {idna : Idna} {files : Files} {env : Environment}

/-- With a configuration that was loaded the page can be loaded, on any network: the base address
that was checked is read again. -/
lemma snapshot_eq_ok {config : Config} (loaded : Config.load idna files env = .ok config)
    (net : Network) :
    ∃ base, Url.parseBase idna config.baseUrl = .ok base ∧
      let result := Page.empty.load (net.client idna base) config.endpoints (Session.start [])
      snapshot idna net config = .ok (result.1, result.2.state) := by
  obtain ⟨written, -, -, checked⟩ := Config.load_eq_ok_iff.mp loaded
  obtain ⟨⟨base, read⟩, -⟩ := Config.validate_eq_ok_iff.mp checked
  refine ⟨base, read, ?_⟩
  simp only [snapshot, read, bind, Except.bind, pure, Except.pure]

lemma run_of_ok {config : Config} (loaded : Config.load idna files env = .ok config)
    (net : Network) {page : Page} {seen : List String}
    (shown : snapshot idna net config = .ok (page, seen)) :
    (run idna files env net).exitCode = 0 ∧ (run idna files env net).output = page.report ∧
      (run idna files env net).seen = seen := by
  have whole : run idna files env net = ⟨.ok page.report, seen⟩ := by
    simp only [run, loaded, shown]
  rw [whole]
  exact ⟨rfl, rfl, rfl⟩

lemma run_of_error {e : ConfigError} (unloaded : Config.load idna files env = .error e)
    (net : Network) :
    (run idna files env net).exitCode = 1 ∧ (run idna files env net).output = "" ∧
      (run idna files env net).seen = [] := by
  have whole : run idna files env net = ⟨.error (.config e), []⟩ := by simp only [run, unloaded]
  rw [whole]
  exact ⟨rfl, rfl, rfl⟩

/-- The exit code, without any network. -/
lemma exitCode_run (idna : Idna) (files : Files) (env : Environment) (net : Network) :
    (run idna files env net).exitCode =
      match Config.load idna files env with
      | .ok _ => 0
      | .error _ => 1 := by
  cases loaded : Config.load idna files env with
  | ok config =>
    obtain ⟨base, -, shown⟩ := snapshot_eq_ok loaded net
    exact (run_of_ok loaded net shown).1
  | error e => exact (run_of_error loaded net).1

/-- How a run ends depends on its configuration alone, for all files, every environment and every
network. With a configuration its base address is read again, the empty page is loaded once over the
network from there, and the run prints the report of the page that comes of this and exits with
zero; the network sees what this load asks for. Without a configuration the run prints nothing, asks
the network for nothing and exits with one. On a printed page an error of the host list excludes
hosts, and a text of the logs excludes log items. -/
theorem configuration_decides_exit_code (idna : Idna) (files : Files) (env : Environment)
    (net : Network) :
    (match Config.load idna files env with
      | .ok config => ∃ base, Url.parseBase idna config.baseUrl = .ok base ∧
        let result := Page.empty.load (net.client idna base) config.endpoints (Session.start [])
        let page := result.1
        snapshot idna net config = .ok (page, result.2.state) ∧
        (run idna files env net).exitCode = 0 ∧
        (run idna files env net).output = page.report ∧
        (run idna files env net).seen = result.2.state ∧
        (page.hostsError.isSome → page.views = []) ∧
        (page.logs.text.isSome → page.logs.items = [])
      | .error _ =>
        (run idna files env net).exitCode = 1 ∧
        (run idna files env net).output = "" ∧
        (run idna files env net).seen = []) ∧
    ∀ other : Network, (run idna files env other).exitCode = (run idna files env net).exitCode := by
  refine ⟨?_, fun other =>
    (exitCode_run idna files env other).trans (exitCode_run idna files env net).symm⟩
  cases loaded : Config.load idna files env with
  | ok config =>
    obtain ⟨base, read, shown⟩ := snapshot_eq_ok loaded net
    obtain ⟨exits, prints, sees⟩ := run_of_ok loaded net shown
    have either := Page.shows_either (net.client idna base) config.endpoints (Session.start [])
    exact ⟨base, read, shown, exits, prints, sees, either⟩
  | error e => exact run_of_error loaded net

end HostBoard
