import HostBoard.Page.Basic

/-!
# The page as text

A report has three sections: the host views, the log text and the log items. Every section has a
header line, and what it holds is indented below.
-/

namespace HostBoard

namespace HostView

/-- The lines of a view, which is known by its number. -/
def lines (number : Nat) (view : HostView) : List String :=
  ["  [" ++ toString number ++ "] " ++ view.url,
    "      name:   " ++ view.regions.name,
    "      status: " ++ view.status,
    "      paths:  " ++ view.regions.paths] ++
  (view.error.map ("      error:  " ++ ·)).toList

end HostView

/-- The line of a log item. -/
def LogItem.line (item : LogItem) : String :=
  "  [" ++ item.time ++ "] " ++ item.message

namespace Page

/-- The lines of the host views, numbered from one. -/
def viewLines (page : Page) : List String :=
  (page.views.zipIdx 1).flatMap fun (view, number) => view.lines number

/-- The lines of the report. -/
def lines (page : Page) : List String :=
  ["content"] ++ (page.hostsError.map ("  ! " ++ ·)).toList ++ page.viewLines ++
  ["logs"] ++ (page.logs.text.map ("  " ++ ·)).toList ++
  ["logcontent"] ++ page.logs.items.map LogItem.line

/-- The report: its lines, each with a line break. -/
def report (page : Page) : String :=
  String.join (page.lines.map (· ++ "\n"))

end Page

end HostBoard
