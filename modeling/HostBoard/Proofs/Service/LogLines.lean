import HostBoard.Page.Report
import HostBoard.Proofs.Service.LogHistory
import HostBoard.Proofs.Text.Lines

/-!
# The lines of log items

The last section of a report holds the log items, each with a line break behind it. But an item may
have line breaks of its own: of those in the content of an entry only the first is replaced, and
those in its time are left as they are. Every line break that is left begins a line that belongs to
no item. So the section has as many lines as there are items, and each of them shows its item,
exactly if no entry has a line break in its time or a second one in its content.
-/

namespace HostBoard

/-- How many lines a report takes to show an entry. -/
def LogEntry.lineCount (e : LogEntry) : Nat :=
  Text.breaks e.time + (Text.breaks e.content - 1) + 1

/-- What the report of a page holds below its last header. -/
def Page.itemText (page : Page) : String :=
  Text.ofLines (page.logs.items.map LogItem.line)

lemma LogItem.breaks_line (item : LogItem) :
    Text.breaks item.line = Text.breaks item.time + Text.breaks item.message := by
  have opening : Text.breaks "  [" = 0 := by decide
  have closing : Text.breaks "] " = 0 := by decide
  rw [line, Text.breaks_append, Text.breaks_append, Text.breaks_append, opening, closing]
  omega

namespace LogEntry

/-- One line break is replaced, if there is any. -/
lemma count_markFirstBreak (chars : List Char) :
    (markFirstBreak chars).count '\n' = chars.count '\n' - 1 := by
  induction chars with
  | nil => rfl
  | cons c rest ih =>
    by_cases broken : c = '\n'
    · have unbroken : lineBreakMarker.count '\n' = 0 := by decide
      rw [markFirstBreak, if_pos broken, List.count_append, unbroken, broken, List.count_cons_self]
      omega
    · rw [markFirstBreak, if_neg broken, List.count_cons_of_ne broken, ih,
        List.count_cons_of_ne broken]

lemma breaks_message (e : LogEntry) : Text.breaks e.message = Text.breaks e.content - 1 := by
  rw [Text.breaks, message, String.toList_ofList, count_markFirstBreak, Text.breaks]

/-- The line of an item has the line breaks that are left of its entry. -/
lemma breaks_line (e : LogEntry) :
    Text.breaks (LogItem.ofEntry e).line = Text.breaks e.time + (Text.breaks e.content - 1) := by
  rw [LogItem.breaks_line, ← breaks_message]
  rfl

lemma unbroken_line_iff (e : LogEntry) :
    Text.Unbroken (LogItem.ofEntry e).line ↔
      Text.breaks e.time = 0 ∧ Text.breaks e.content ≤ 1 := by
  rw [← Text.breaks_eq_zero_iff, breaks_line]
  omega

end LogEntry

namespace Page

/-- The report of a page without hosts: three headers, with the text of the logs before the last
one, and then the log items. -/
lemma report_of_logs {page : Page} (no_views : page.views = [])
    (no_error : page.hostsError = none) :
    page.report =
      Text.ofLines (["content", "logs"] ++ (page.logs.text.map ("  " ++ ·)).toList ++
        ["logcontent"]) ++ page.itemText := by
  rw [itemText, ← Text.ofLines_append, report, lines, viewLines, no_views, no_error]
  rfl

variable {σ : Type}

/-- Loads of the logs leave everything but the log panel as it is. -/
lemma runAll_loadLogs (client : Client σ) (urls : List String) (page : Page) (s : Session σ) :
    (Operation.runAll client (urls.map Operation.loadLogs) page s).1 =
      { page with logs := page.logs.receiveAll (LogReply.received client s.state urls) } := by
  induction urls generalizing page s with
  | nil => rfl
  | cons url urls ih => exact ih _ _

/-- The log items in the report of a page, after any loads of the logs of an empty page with any
client. Below the last header an entry takes one line, one more for every line break in its time and
one more for every line break but the first in its content. So there are as many lines as items, and
the lines are those of the items in order, exactly if no entry has a line break in its time or a
second one in its content. -/
theorem log_items_take_lines_by_breaks (client : Client σ) (urls : List String) (s : Session σ) :
    let page := (Operation.runAll client (urls.map Operation.loadLogs) Page.empty s).1
    let entries := ((LogReply.received client s.state urls).filterMap LogReply.entries?).flatten
    let unbroken := ∀ e ∈ entries, Text.breaks e.time = 0 ∧ Text.breaks e.content ≤ 1
    page.report =
      Text.ofLines (["content", "logs"] ++ (page.logs.text.map ("  " ++ ·)).toList ++
        ["logcontent"]) ++ page.itemText ∧
    (Text.lines page.itemText).length = (entries.map LogEntry.lineCount).sum ∧
    ((Text.lines page.itemText).length = page.logs.items.length ↔ unbroken) ∧
    (Text.lines page.itemText = page.logs.items.map LogItem.line ↔ unbroken) := by
  intro page entries unbroken
  have loaded : page = _ := runAll_loadLogs client urls Page.empty s
  have items : page.logs.items = entries.map LogItem.ofEntry := by
    rw [loaded, LogPanel.items_receiveAll]
    rfl
  have each : (∀ line ∈ page.logs.items.map LogItem.line, Text.Unbroken line) ↔ unbroken := by
    rw [items, List.forall_mem_map, List.forall_mem_map]
    exact forall₂_congr fun e _ => e.unbroken_line_iff
  refine ⟨?_, ?_, ?_, ?_⟩
  · exact report_of_logs (by rw [loaded]; rfl) (by rw [loaded]; rfl)
  · rw [itemText, Text.length_lines_ofLines, items, List.map_map, List.map_map]
    refine congrArg List.sum (List.map_congr_left fun e _ => ?_)
    exact congrArg (· + 1) e.breaks_line
  · have count := Text.length_lines_ofLines_eq_iff (page.logs.items.map LogItem.line)
    rw [List.length_map] at count
    exact count.trans each
  · exact (Text.lines_ofLines_eq_iff _).trans each

/-- A script whose logs have one entry, with two line breaks in its content. -/
def brokenScript : Routes :=
  [("/logs", [.ok ⟨200, (LogEntry.listToJson [⟨"t1", "a\nb\nc"⟩]).compact⟩])]

/-- The report has one log item, and two lines below the last header. -/
theorem log_item_spreads_over_two_lines :
    let page := (Operation.runAll Routes.client [.loadLogs "/logs"] Page.empty
      (Session.start brokenScript)).1
    page.logs.items = [⟨"t1", "a<br/>b\nc"⟩] ∧
    page.report = "content\nlogs\nlogcontent\n" ++ page.itemText ∧
    Text.lines page.itemText = ["  [t1] a<br/>b", "c"] ∧
    (Text.lines page.itemText).length ≠ page.logs.items.length ∧
    Text.lines page.itemText ≠ page.logs.items.map LogItem.line := by
  decide +kernel

end Page

end HostBoard
