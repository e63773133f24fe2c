import HostBoard.Client.Routes
import HostBoard.Proofs.Service.Requests
import HostBoard.Service.Operation
import Mathlib.Data.List.Forall2
import Mathlib.Data.List.Induction

/-!
# The history of the log panel

What the log panel shows after any number of loads can be told from the replies to them, without
following the panel through them. Its items come from the replies that brought entries, one behind
the other, and its text comes from the last reply that brought none. The two are kept apart: a
reply with entries leaves the text alone (`receive_of_entries`), and any other reply sets the text
and leaves the items alone (`LogReply.Tells.receive`). So a reply without entries may come any number
of times in a row, and the panel is the same as after the first time.

What a reply tells is a relation on replies and texts (`LogReply.Tells`). It has one rule for each way
in which a reply can fail to bring entries, and some rule applies to every such reply
(`LogReply.exists_tells`).
-/

namespace HostBoard

/-- An item shows an entry: its time, and its content with the first line break, if there is one,
replaced by a marker. -/
structure LogEntry.ShownAs (e : LogEntry) (item : LogItem) : Prop where
  time : item.time = e.time
  unbroken : '\n' ∉ e.content.toList → item.message = e.content
  broken : ∀ before after : String, '\n' ∉ before.toList → e.content = before ++ "\n" ++ after →
    item.message = before ++ "<br/>" ++ after

lemma LogEntry.shownAs_ofEntry (e : LogEntry) : e.ShownAs (LogItem.ofEntry e) where
  time := rfl
  unbroken none_in := by
    rw [LogItem.ofEntry, message, markFirstBreak_of_not_mem none_in, String.ofList_toList]
  broken before after none_before content := by
    have chars : e.content.toList = before.toList ++ '\n' :: after.toList := by
      rw [content]
      simp
    rw [LogItem.ofEntry, message, chars, markFirstBreak_append none_before, String.ofList_append,
      String.ofList_append, String.ofList_toList, String.ofList_toList]
    rfl

/-- A reply to a request for the logs. -/
structure LogReply where
  url : String
  reply : Reply

namespace LogReply

/-- The entries that a reply brings, with a status from 200 to 209 and a list of them as its body. -/
def entries? (r : LogReply) : Option (List LogEntry) :=
  match r.reply with
  | .ok response =>
    if 200 ≤ response.status ∧ response.status ≤ 209 then
      (LogEntry.decodeList r.url response.body).toOption
    else none
  | .error _ => none

/-- What a reply without entries tells: why there is no response, why its
body cannot be read, or else its body, a string as it is and any other value as compact JSON. -/
inductive Tells : LogReply → String → Prop where
  | lost {url : String} {e : TransportError} : Tells ⟨url, .error e⟩ e.text
  | noList {url : String} {response : Response} {e : DecodeError} :
    200 ≤ response.status ∧ response.status ≤ 209 →
    LogEntry.decodeList url response.body = .error e →
    Tells ⟨url, .ok response⟩ e.text
  | noJson {url : String} {response : Response} {e : DecodeError} :
    ¬(200 ≤ response.status ∧ response.status ≤ 209) →
    Payload.decodeValue url response.body = .error e →
    Tells ⟨url, .ok response⟩ e.text
  | string {url : String} {response : Response} {text : String} :
    ¬(200 ≤ response.status ∧ response.status ≤ 209) →
    Payload.decodeValue url response.body = .ok (.string text) →
    Tells ⟨url, .ok response⟩ text
  | other {url : String} {response : Response} {body : Json} :
    ¬(200 ≤ response.status ∧ response.status ≤ 209) →
    Payload.decodeValue url response.body = .ok body →
    (∀ text, body ≠ .string text) →
    Tells ⟨url, .ok response⟩ body.compact

/-- The replies to requests for the logs that are made one after another. -/
def received {σ : Type} (client : Client σ) (state : σ) (urls : List String) : List LogReply :=
  List.zipWith LogReply.mk urls (client.answers state urls).1

end LogReply

namespace LogPanel

/-- Show a reply. -/
def receive (panel : LogPanel) (r : LogReply) : LogPanel :=
  panel.apply (LogsOutcome.ofReply r.url r.reply)

/-- Show replies one after another. -/
def receiveAll (panel : LogPanel) (history : List LogReply) : LogPanel :=
  history.foldl receive panel

end LogPanel

open LogPanel

section

variable {r : LogReply} (panel : LogPanel)

/-- Entries are appended, and nothing else changes. -/
lemma LogPanel.receive_of_entries {read : List LogEntry} (brought : r.entries? = some read) :
    panel.receive r = { panel with items := panel.items ++ read.map LogItem.ofEntry } := by
  obtain ⟨url, reply⟩ := r
  cases reply with
  | error e => cases brought
  | ok response =>
    simp only [LogReply.entries?, ← accepts_firstTen_iff] at brought
    split at brought
    next accepted =>
      cases decoded : LogEntry.decodeList url response.body with
      | error e =>
        rw [decoded] at brought
        cases brought
      | ok entries =>
        rw [decoded] at brought
        cases brought
        simp only [receive, LogsOutcome.ofReply, LogsOutcome.ofResponse, if_pos accepted, decoded,
          LogPanel.apply]
    · cases brought

/-- The panel shows what a reply tells, and the items stay. -/
lemma LogReply.Tells.receive {text : String} (told : r.Tells text) :
    panel.receive r = { panel with text := some text } := by
  cases told with
  | lost => rfl
  | noList accepted failed =>
    rw [← accepts_firstTen_iff] at accepted
    simp only [LogPanel.receive, LogsOutcome.ofReply, LogsOutcome.ofResponse, if_pos accepted, failed,
      LogPanel.apply, Failure.text]
  | noJson refused failed =>
    rw [← accepts_firstTen_iff] at refused
    simp only [LogPanel.receive, LogsOutcome.ofReply, LogsOutcome.ofResponse, if_neg refused, failed,
      LogPanel.apply, Failure.text]
  | string refused read =>
    rw [← accepts_firstTen_iff] at refused
    simp only [LogPanel.receive, LogsOutcome.ofReply, LogsOutcome.ofResponse, if_neg refused, read,
      LogPanel.apply, Json.shown]
  | @other url response body refused read no_string =>
    have shown : body.shown = body.compact := by
      cases body with
      | string text => exact absurd rfl (no_string text)
      | _ => rfl
    rw [← accepts_firstTen_iff] at refused
    simp only [LogPanel.receive, LogsOutcome.ofReply, LogsOutcome.ofResponse, if_neg refused, read,
      LogPanel.apply, shown]

/-- A reply that brings no entries tells something. -/
lemma LogReply.exists_tells (nothing : r.entries? = none) : ∃ text, r.Tells text := by
  obtain ⟨url, reply⟩ := r
  cases reply with
  | error e => exact ⟨_, .lost⟩
  | ok response =>
    by_cases accepted : 200 ≤ response.status ∧ response.status ≤ 209
    · simp only [entries?, if_pos accepted] at nothing
      cases decoded : LogEntry.decodeList url response.body with
      | error e => exact ⟨_, .noList accepted decoded⟩
      | ok entries =>
        rw [decoded] at nothing
        cases nothing
    · cases decoded : Payload.decodeValue url response.body with
      | error e => exact ⟨_, .noJson accepted decoded⟩
      | ok body =>
        cases body with
        | string text => exact ⟨_, .string accepted decoded⟩
        | _ => exact ⟨_, .other accepted decoded nofun⟩

end

namespace LogPanel

lemma receiveAll_cons (panel : LogPanel) (r : LogReply) (history : List LogReply) :
    panel.receiveAll (r :: history) = (panel.receive r).receiveAll history := rfl

lemma receiveAll_concat (panel : LogPanel) (history : List LogReply) (r : LogReply) :
    panel.receiveAll (history ++ [r]) = (panel.receiveAll history).receive r :=
  List.foldl_concat _ _ _ _

lemma receiveAll_append (panel : LogPanel) (before after : List LogReply) :
    panel.receiveAll (before ++ after) = (panel.receiveAll before).receiveAll after :=
  List.foldl_append

lemma items_receiveAll (panel : LogPanel) (history : List LogReply) :
    (panel.receiveAll history).items = panel.items ++
      (history.filterMap LogReply.entries?).flatten.map LogItem.ofEntry := by
  induction history generalizing panel with
  | nil => exact (List.append_nil panel.items).symm
  | cons r history ih =>
    rw [receiveAll_cons, ih]
    cases brought : r.entries? with
    | none =>
      obtain ⟨text, told⟩ := LogReply.exists_tells brought
      rw [told.receive, List.filterMap_cons_none brought]
    | some read =>
      rw [receive_of_entries panel brought, List.filterMap_cons_some brought, List.flatten_cons,
        List.map_append, List.append_assoc]

/-- The replies of a history that brought no entries. -/
def unfilled (history : List LogReply) : List LogReply :=
  history.filter fun r => r.entries?.isNone

-- The last reply decides, so the induction is on histories that grow at their end.
lemma text_receiveAll (history : List LogReply) (text : String) :
    (empty.receiveAll history).text = some text ↔
      ∃ last, (unfilled history).getLast? = some last ∧ last.Tells text := by
  induction history using List.reverseRecOn with
  | nil => exact iff_of_false nofun nofun
  | append_singleton history r ih =>
    rw [receiveAll_concat, unfilled, List.filter_append, ← unfilled]
    cases brought : r.entries? with
    | none =>
      have kept : ([r].filter fun r => r.entries?.isNone) = [r] := by simp [brought]
      rw [kept, List.getLast?_concat]
      constructor
      · intro shown
        obtain ⟨word, told⟩ := LogReply.exists_tells brought
        rw [told.receive] at shown
        exact ⟨r, rfl, Option.some.inj shown ▸ told⟩
      · rintro ⟨_, ⟨⟩, told⟩
        rw [told.receive]
    | some read =>
      have skipped : ([r].filter fun r => r.entries?.isNone) = [] := by simp [brought]
      rw [skipped, List.append_nil, receive_of_entries _ brought]
      exact ih

lemma text_receiveAll_eq_none (history : List LogReply) :
    (empty.receiveAll history).text = none ↔ ∀ r ∈ history, r.entries?.isSome := by
  have none_left : unfilled history = [] ↔ ∀ r ∈ history, r.entries?.isSome := by
    simp [unfilled, List.filter_eq_nil_iff, Option.isSome_iff_ne_none]
  rw [← none_left, Option.eq_none_iff_forall_ne_some]
  constructor
  · intro silent
    by_contra some_left
    obtain ⟨last, found⟩ := Option.ne_none_iff_exists'.mp
      (mt List.getLast?_eq_none_iff.mp some_left)
    obtain ⟨-, nothing⟩ := List.mem_filter.mp (List.mem_of_getLast? found)
    obtain ⟨text, told⟩ := LogReply.exists_tells (Option.isNone_iff_eq_none.mp nothing)
    exact silent text ((text_receiveAll history text).mpr ⟨last, found, told⟩)
  · intro empty_left text shown
    obtain ⟨last, found, -⟩ := (text_receiveAll history text).mp shown
    rw [empty_left] at found
    cases found

/-- A reply without entries may come again and again. -/
lemma receiveAll_replicate (panel : LogPanel) {r : LogReply} (nothing : r.entries? = none)
    (again : Nat) : panel.receiveAll (List.replicate (again + 1) r) = panel.receive r := by
  obtain ⟨text, told⟩ := LogReply.exists_tells nothing
  induction again with
  | zero => rfl
  | succ again ih =>
    rw [List.replicate_succ', receiveAll_concat, ih, told.receive panel]
    exact told.receive _

lemma receiveAll_repeated (panel : LogPanel) {r : LogReply} (nothing : r.entries? = none)
    (before after : List LogReply) (again : Nat) :
    panel.receiveAll (before ++ List.replicate (again + 1) r ++ after) =
      panel.receiveAll (before ++ r :: after) := by
  rw [receiveAll_append, receiveAll_append, receiveAll_append, receiveAll_replicate _ nothing]
  rfl

variable {σ : Type}

/-- The panel of a page after loads of the logs. -/
lemma logs_runAll (client : Client σ) (urls : List String) (page : Page) (s : Session σ) :
    (Operation.runAll client (urls.map Operation.loadLogs) page s).1.logs =
      page.logs.receiveAll (LogReply.received client s.state urls) := by
  induction urls generalizing page s with
  | nil => rfl
  | cons url urls ih => exact ih _ _

/-- The log panel is a function of the replies to the loads of the logs, for any client, any
addresses and any session. The items show the entries of the replies that brought some, in order and
one for each entry. There is no text as long as every reply brings entries, and otherwise it is what
the last other reply tells. Where such a reply comes several times in a row, the panel is that of any
loads in which it comes once. -/
theorem log_panel_is_function_of_history (client : Client σ) (urls : List String) (s : Session σ) :
    let page := (Operation.runAll client (urls.map Operation.loadLogs) Page.empty s).1
    let history := LogReply.received client s.state urls
    List.Forall₂ LogEntry.ShownAs (history.filterMap LogReply.entries?).flatten page.logs.items ∧
    (page.logs.text = none ↔ ∀ r ∈ history, r.entries?.isSome) ∧
    (∀ text, page.logs.text = some text ↔
      ∃ last, (history.filter fun r => r.entries?.isNone).getLast? = some last ∧ last.Tells text) ∧
    ∀ (r : LogReply) (before after : List LogReply) (again : Nat), r.entries? = none →
      history = before ++ List.replicate (again + 1) r ++ after →
      ∀ {τ : Type} (other : Client τ) (fewer : List String) (t : Session τ),
        LogReply.received other t.state fewer = before ++ r :: after →
        page.logs =
          (Operation.runAll other (fewer.map Operation.loadLogs) Page.empty t).1.logs := by
  intro page history
  have panel : page.logs = empty.receiveAll history := logs_runAll client urls Page.empty s
  refine ⟨?_, ?_, ?_, ?_⟩
  · have items := items_receiveAll empty history
    rw [panel, items]
    apply List.forall₂_map_right_iff.mpr
    exact List.forall₂_same.mpr fun e _ => e.shownAs_ofEntry
  · rw [panel]
    exact text_receiveAll_eq_none history
  · intro text
    rw [panel]
    exact text_receiveAll history text
  · intro r before after again nothing repeated τ other fewer t once
    rw [panel, repeated, receiveAll_repeated empty nothing, ← once]
    exact (logs_runAll other fewer Page.empty t).symm

/-- A reply with one entry, which has two line breaks. -/
def oneEntry : LogReply :=
  ⟨"/logs", .ok ⟨200, "[\x7b\"time\":\"t1\",\"content\":\"a\\nb\\nc\"\x7d]"⟩⟩

/-- A reply that tells of an outage. -/
def downNotice : LogReply :=
  ⟨"/logs", .ok ⟨500, "\"down\""⟩⟩

/-- A script with an outage of the logs between two times the same entry. -/
def noticedScript (notices : Nat) : Routes :=
  [("/logs", ([oneEntry] ++ List.replicate notices downNotice ++ [oneEntry]).map fun r =>
    r.reply.mapError TransportError.message)]

/-- An outage that is noticed twice shows what an outage noticed once shows: its text, and the entry
as often as it was loaded. -/
theorem log_panel_is_function_of_history_noticedScript :
    let page := (Operation.runAll Routes.client (List.replicate 4 (.loadLogs "/logs")) Page.empty
      (Session.start (noticedScript 2))).1
    let once := (Operation.runAll Routes.client (List.replicate 3 (.loadLogs "/logs")) Page.empty
      (Session.start (noticedScript 1))).1
    downNotice.entries? = none ∧
    page.logs = once.logs ∧
    page.logs = ⟨some "down", [⟨"t1", "a<br/>b\nc"⟩, ⟨"t1", "a<br/>b\nc"⟩]⟩ := by
  intro page once
  obtain ⟨-, -, -, repeated⟩ := log_panel_is_function_of_history Routes.client
    (List.replicate 4 "/logs") (Session.start (noticedScript 2))
  have nothing : downNotice.entries? = none := by decide +kernel
  have twice : LogReply.received Routes.client (noticedScript 2) (List.replicate 4 "/logs") =
      [oneEntry] ++ List.replicate (1 + 1) downNotice ++ [oneEntry] := rfl
  refine ⟨nothing, ?_, ?_⟩
  · exact repeated downNotice [oneEntry] [oneEntry] 1 nothing twice Routes.client
      (List.replicate 3 "/logs") (Session.start (noticedScript 1)) rfl
  · decide +kernel

end LogPanel

end HostBoard
