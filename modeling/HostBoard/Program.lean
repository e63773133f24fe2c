import HostBoard.Config.Load
import HostBoard.Net.HttpClient
import HostBoard.Page.Report

/-!
# The program

One run loads the configuration, loads the page once over the network and prints it. Failures of
loads are part of the page; only a configuration that cannot be used makes the run fail.
-/

namespace HostBoard

/-- Load the page once with given settings: the page, and what the network saw. -/
def snapshot (idna : Idna) (net : Network) (config : Config) :
    Except BaseUrlError (Page × List String) := do
  let base ← Url.parseBase idna config.baseUrl
  let (page, session) := Page.empty.load (net.client idna base) config.endpoints (Session.start [])
  return (page, session.state)

/-- Why a run failed. -/
inductive RunError where
  | config (error : ConfigError)
  | client (error : BaseUrlError)

/-- A run: what is printed and what the network saw, or why the run failed. -/
structure Run where
  result : Except RunError String
  seen : List String

namespace Run

/-- What is printed. -/
def output (run : Run) : String :=
  match run.result with
  | .ok text => text
  | .error _ => ""

/-- The exit code. -/
def exitCode (run : Run) : UInt32 :=
  match run.result with
  | .ok _ => 0
  | .error _ => 1

end Run

/-- Run the program. -/
def run (idna : Idna) (files : Files) (env : Environment) (net : Network) : Run :=
  match Config.load idna files env with
  | .error e => ⟨.error (.config e), []⟩
  | .ok config =>
    match snapshot idna net config with
    | .error e => ⟨.error (.client e), []⟩
    | .ok (page, seen) => ⟨.ok page.report, seen⟩

end HostBoard
