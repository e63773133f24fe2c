import HostBoard.Service.Outcome

/-!
# The log panel

The panel shows the log entries that were loaded, each load behind the ones before, and one text
for the last load that brought none.
-/

namespace HostBoard

/-- A log entry as it is shown. -/
structure LogItem where
  time : String
  message : String
deriving DecidableEq, Repr

/-- The item of an entry. -/
def LogItem.ofEntry (e : LogEntry) : LogItem :=
  ⟨e.time, e.message⟩

/-- The text and the items of the panel. -/
structure LogPanel where
  text : Option String
  items : List LogItem
deriving DecidableEq, Repr

namespace LogPanel

/-- The panel before any load. -/
def empty : LogPanel := ⟨none, []⟩

/-- Show the result of fetching the logs. -/
def apply (outcome : LogsOutcome) (panel : LogPanel) : LogPanel :=
  match outcome with
  | .entries entries => { panel with items := panel.items ++ entries.map LogItem.ofEntry }
  | .rejected r => { panel with text := some r.body.shown }
  | .failed failure => { panel with text := some failure.text }

end LogPanel

end HostBoard
