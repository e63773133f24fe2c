import HostBoard.Page.Report
import HostBoard.Proofs.Text.Lines
import Mathlib.Data.List.Forall2

/-!
# The report is unambiguous

Whoever has the report of a page knows everything that the page shows, if no text on the page has a
line break and no time of a log item has a closing bracket. The report is then read back line by
line (`Page.lines_report`), and the lines tell by how they begin to what they belong. A header is
never indented. The error of the host list, the number of a view and the error of a view begin each
in a way of its own, so a line that may be missing cannot be taken for the one that follows it
(`optional_line_inj`). By induction on the views this gives all views with what comes behind them
(`HostView.linesFrom_inj`), and what is left are the logs.
-/

namespace HostBoard

open Text (Unbroken)

/-- Two views of which a report shows the same. -/
structure HostView.ShownAlike (left right : HostView) : Prop where
  url : left.url = right.url
  name : left.regions.name = right.regions.name
  status : left.status = right.status
  paths : left.regions.paths = right.regions.paths
  error : left.error = right.error

/-- No text that a report shows of the view has a line break. -/
@[mk_iff]
structure HostView.Plain (view : HostView) : Prop where
  url : Unbroken view.url
  name : Unbroken view.regions.name
  status : Unbroken view.status
  paths : Unbroken view.regions.paths
  error : ∀ text ∈ view.error, Unbroken text

/-- No text of the item has a line break, and its time has no closing bracket. -/
@[mk_iff]
structure LogItem.Plain (item : LogItem) : Prop where
  time : Unbroken item.time
  unclosed : ']' ∉ item.time.toList
  message : Unbroken item.message

/-- No text that a report shows of the page has a line break, and no time has a closing bracket. -/
@[mk_iff]
structure Page.Plain (page : Page) : Prop where
  views : ∀ view ∈ page.views, view.Plain
  hostsError : ∀ text ∈ page.hostsError, Unbroken text
  logsText : ∀ text ∈ page.logs.text, Unbroken text
  items : ∀ item ∈ page.logs.items, item.Plain

instance (view : HostView) : Decidable view.Plain :=
  decidable_of_iff' _ view.plain_iff

instance (item : LogItem) : Decidable item.Plain :=
  decidable_of_iff' _ item.plain_iff

instance (page : Page) : Decidable page.Plain :=
  decidable_of_iff' _ page.plain_iff

/-- The lines of views that are numbered from a number on. -/
def HostView.linesFrom : Nat → List HostView → List String
  | _, [] => []
  | number, view :: views => view.lines number ++ linesFrom (number + 1) views

lemma Page.viewLines_eq (page : Page) : page.viewLines = HostView.linesFrom 1 page.views := by
  rw [viewLines]
  generalize page.views = views, 1 = number
  induction views generalizing number with
  | nil => rfl
  | cons view views ih =>
    rw [List.zipIdx_cons, List.flatMap_cons, ih]
    rfl

/-- The lines of a report, with each part in front of what follows it. -/
lemma Page.lines_eq (page : Page) :
    page.lines = "content" :: ((page.hostsError.map ("  ! " ++ ·)).toList ++
      (HostView.linesFrom 1 page.views ++
        "logs" :: ((page.logs.text.map ("  " ++ ·)).toList ++
          "logcontent" :: page.logs.items.map LogItem.line))) := by
  simp [lines, viewLines_eq]

/-! ### Lines of plain pages have no line breaks -/

lemma unbroken_toString (number : Nat) : Unbroken (toString number) := by
  intro broken
  have digit : ('\n').isDigit := Nat.isDigit_of_mem_toDigits (by decide) (by decide)
    (Nat.toList_repr ▸ broken)
  exact absurd digit (by decide)

lemma unbroken_optional {mark : String} (marked : Unbroken mark) {shown : Option String}
    (unbroken : ∀ text ∈ shown, Unbroken text) :
    ∀ line ∈ (shown.map (mark ++ ·)).toList, Unbroken line := by
  cases shown with
  | none => exact nofun
  | some text =>
    intro line among
    obtain rfl := List.mem_singleton.mp among
    exact Text.unbroken_append marked (unbroken text rfl)

namespace HostView

lemma Plain.lines {view : HostView} (plain : view.Plain) (number : Nat) :
    ∀ line ∈ view.lines number, Unbroken line := by
  intro line among
  rcases List.mem_append.mp among with fixed | optional
  · simp only [List.mem_cons, List.not_mem_nil, or_false] at fixed
    rcases fixed with rfl | rfl | rfl | rfl
    · apply Text.unbroken_append _ plain.url
      apply Text.unbroken_append _ (by decide)
      exact Text.unbroken_append (by decide) (unbroken_toString number)
    · exact Text.unbroken_append (by decide) plain.name
    · exact Text.unbroken_append (by decide) plain.status
    · exact Text.unbroken_append (by decide) plain.paths
  · exact unbroken_optional (by decide) plain.error line optional

lemma Plain.linesFrom {views : List HostView} (plain : ∀ view ∈ views, view.Plain) (number : Nat) :
    ∀ line ∈ HostView.linesFrom number views, Unbroken line := by
  induction views generalizing number with
  | nil => exact nofun
  | cons view views ih =>
    intro line among
    rcases List.mem_append.mp among with here | later
    · exact (plain view List.mem_cons_self).lines number line here
    · exact ih (fun other listed => plain other (List.mem_cons_of_mem _ listed)) _ line later

end HostView

lemma LogItem.Plain.line {item : LogItem} (plain : item.Plain) : Unbroken item.line := by
  apply Text.unbroken_append _ plain.message
  apply Text.unbroken_append _ (by decide)
  exact Text.unbroken_append (by decide) plain.time

lemma Page.Plain.lines {page : Page} (plain : page.Plain) :
    ∀ line ∈ page.lines, Unbroken line := by
  rw [Page.lines_eq]
  simp only [List.forall_mem_cons, List.forall_mem_append, List.forall_mem_map]
  refine ⟨by decide, unbroken_optional (by decide) plain.hostsError,
    HostView.Plain.linesFrom plain.views 1, by decide,
    unbroken_optional (by decide) plain.logsText, by decide, ?_⟩
  exact fun item listed => (plain.items item listed).line

/-- The report of a plain page is read back as the lines that were written. -/
lemma Page.lines_report {page : Page} (plain : page.Plain) : Text.lines page.report = page.lines :=
  Text.lines_ofLines plain.lines

/-! ### What the lines belong to -/

/-- No line with the mark stands in front. -/
def Unmarked (mark : String) (lines : List String) : Prop :=
  ∀ text, lines.head? ≠ some (mark ++ text)

/-- A line that may be missing is known from its mark. -/
lemma optional_line_inj {mark : String} {left right : Option String} {rest rest' : List String}
    (unmarked : Unmarked mark rest) (unmarked' : Unmarked mark rest')
    (same : (left.map (mark ++ ·)).toList ++ rest = (right.map (mark ++ ·)).toList ++ rest') :
    left = right ∧ rest = rest' := by
  cases left with
  | none =>
    cases right with
    | none => exact ⟨rfl, same⟩
    | some text => exact absurd (congrArg List.head? same) (unmarked text)
  | some text =>
    cases right with
    | none => exact absurd (congrArg List.head? same).symm (unmarked' text)
    | some text' =>
      obtain ⟨here, behind⟩ := List.cons.inj same
      exact ⟨congrArg some ((String.append_right_inj mark).mp here), behind⟩

/-- A line with the mark is none of those that begin a view, nor the header below the views. -/
structure ApartFromViews (mark : String) : Prop where
  first : ∀ text text', "  [" ++ text ≠ mark ++ text'
  header : ∀ text, "logs" ≠ mark ++ text

lemma apartFromViews_hostsError : ApartFromViews "  ! " where
  first text text' := String.toList_inj.not.mp (by simp)
  header text := String.toList_inj.not.mp (by simp)

lemma apartFromViews_error : ApartFromViews "      error:  " where
  first text text' := String.toList_inj.not.mp (by simp)
  header text := String.toList_inj.not.mp (by simp)

lemma ApartFromViews.unmarked {mark : String} (apart : ApartFromViews mark) (number : Nat)
    (views : List HostView) (rest : List String) :
    Unmarked mark (HostView.linesFrom number views ++ "logs" :: rest) := by
  cases views with
  | nil => exact fun text head => apart.header text (Option.some.inj head)
  | cons view views =>
    intro text head
    have first : "  [" ++ toString number ++ "] " ++ view.url = mark ++ text := Option.some.inj head
    rw [String.append_assoc, String.append_assoc] at first
    exact apart.first _ text first

lemma unmarked_items (rest : List String) : Unmarked "  " ("logcontent" :: rest) := by
  intro text head
  have header : "logcontent" ≠ "  " ++ text := String.toList_inj.not.mp (by simp)
  exact header (Option.some.inj head)

namespace HostView

/-- The lines of a view, with what follows them. -/
lemma linesFrom_cons (number : Nat) (view : HostView) (views : List HostView)
    (rest : List String) :
    linesFrom number (view :: views) ++ rest =
      ("  [" ++ toString number ++ "] " ++ view.url) :: ("      name:   " ++ view.regions.name) ::
        ("      status: " ++ view.status) :: ("      paths:  " ++ view.regions.paths) ::
          ((view.error.map ("      error:  " ++ ·)).toList ++
            (linesFrom (number + 1) views ++ rest)) := by
  simp [linesFrom, HostView.lines]

/-- The lines down to the header below the views tell what the views show, and what follows. -/
lemma linesFrom_inj {views views' : List HostView} {rest rest' : List String} (number : Nat)
    (same : linesFrom number views ++ "logs" :: rest = linesFrom number views' ++ "logs" :: rest') :
    List.Forall₂ ShownAlike views views' ∧ rest = rest' := by
  have begins (number : Nat) (text : String) : "  [" ++ toString number ++ "] " ++ text ≠ "logs" :=
    String.toList_inj.not.mp (by simp)
  induction views generalizing number views' with
  | nil =>
    cases views' with
    | nil => exact ⟨.nil, (List.cons.inj same).2⟩
    | cons view views' =>
      rw [linesFrom_cons] at same
      exact absurd (List.cons.inj same).1.symm (begins number view.url)
  | cons view views ih =>
    rw [linesFrom_cons] at same
    cases views' with
    | nil => exact absurd (List.cons.inj same).1 (begins number view.url)
    | cons view' views' =>
      rw [linesFrom_cons] at same
      simp only [List.cons.injEq, String.append_right_inj] at same
      obtain ⟨url, name, status, paths, behind⟩ := same
      have unmarked := apartFromViews_error.unmarked (number + 1)
      obtain ⟨error, behind⟩ :=
        optional_line_inj (unmarked views rest) (unmarked views' rest') behind
      obtain ⟨alike, behind⟩ := ih (number + 1) behind
      exact ⟨.cons ⟨url, name, status, paths, error⟩ alike, behind⟩

/-- Nothing else of the views is in their lines. -/
lemma linesFrom_congr {views views' : List HostView} (alike : List.Forall₂ ShownAlike views views')
    (number : Nat) : linesFrom number views = linesFrom number views' := by
  induction alike generalizing number with
  | nil => rfl
  | cons here _ ih =>
    rw [linesFrom, linesFrom, ih, HostView.lines, HostView.lines, here.url, here.name, here.status,
      here.paths, here.error]

end HostView

/-! ### Log items -/

/-- What stands in front of the first stop, and what behind it, is told by the whole. -/
lemma stop_inj {stop : Char} {before before' after after' : List Char} (none_in : stop ∉ before)
    (none_in' : stop ∉ before') (same : before ++ stop :: after = before' ++ stop :: after') :
    before = before' ∧ after = after' := by
  induction before generalizing before' with
  | nil =>
    cases before' with
    | nil => exact ⟨rfl, (List.cons.inj same).2⟩
    | cons c before' =>
      obtain rfl := (List.cons.inj same).1
      exact absurd List.mem_cons_self none_in'
  | cons c before ih =>
    cases before' with
    | nil =>
      obtain rfl := (List.cons.inj same).1
      exact absurd List.mem_cons_self none_in
    | cons c' before' =>
      obtain ⟨rfl, rest⟩ := List.cons.inj same
      obtain ⟨rfl, behind⟩ := ih (mt (List.mem_cons_of_mem c) none_in)
        (mt (List.mem_cons_of_mem c) none_in') rest
      exact ⟨rfl, behind⟩

lemma LogItem.line_inj {left right : LogItem} (unclosed : ']' ∉ left.time.toList)
    (unclosed' : ']' ∉ right.time.toList) (same : left.line = right.line) : left = right := by
  have chars : left.time.toList ++ ']' :: (' ' :: left.message.toList) =
      right.time.toList ++ ']' :: (' ' :: right.message.toList) := by
    simpa [line, ← String.toList_inj] using same
  obtain ⟨time, behind⟩ := stop_inj unclosed unclosed' chars
  have message := (List.cons.inj behind).2
  rw [String.toList_inj] at time message
  cases left
  cases right
  exact congrArg₂ LogItem.mk time message

lemma LogItem.lines_inj {items items' : List LogItem} (plain : ∀ item ∈ items, item.Plain)
    (plain' : ∀ item ∈ items', item.Plain) (same : items.map line = items'.map line) :
    items = items' := by
  induction items generalizing items' with
  | nil => exact (List.map_eq_nil_iff.mp same.symm).symm
  | cons item items ih =>
    obtain ⟨item', items', rfl, here, rest⟩ := List.map_eq_cons_iff.mp same.symm
    rw [List.forall_mem_cons] at plain plain'
    rw [line_inj plain.1.unclosed plain'.1.unclosed here.symm, ih plain.2 plain'.2 rest.symm]

/-! ### Pages -/

namespace Page

/-- The lines of a page tell everything that is shown of it. -/
lemma lines_inj {first second : Page} (plain : first.Plain) (plain' : second.Plain)
    (same : first.lines = second.lines) :
    List.Forall₂ HostView.ShownAlike first.views second.views ∧
      first.hostsError = second.hostsError ∧ first.logs.text = second.logs.text ∧
      first.logs.items = second.logs.items := by
  rw [lines_eq, lines_eq] at same
  obtain ⟨hostsError, views⟩ := optional_line_inj (apartFromViews_hostsError.unmarked 1 _ _)
    (apartFromViews_hostsError.unmarked 1 _ _) (List.cons.inj same).2
  obtain ⟨alike, logs⟩ := HostView.linesFrom_inj 1 views
  obtain ⟨text, items⟩ := optional_line_inj (unmarked_items _) (unmarked_items _) logs
  exact ⟨alike, hostsError, text,
    LogItem.lines_inj plain.items plain'.items (List.cons.inj items).2⟩

/-- Two pages whose texts have no line breaks, and whose times have no closing brackets, have the
same report exactly if they show the same: as many views, in order and each with the same address,
name, status, locations and error, the same error of the host list, the same text of the logs, where
an empty text is not the same as none, and the same log items. -/
theorem report_is_unambiguous {first second : Page} (plain : first.Plain) (plain' : second.Plain) :
    first.report = second.report ↔
      first.views.length = second.views.length ∧
      List.Forall₂ HostView.ShownAlike first.views second.views ∧
      first.hostsError = second.hostsError ∧
      first.logs.text = second.logs.text ∧
      first.logs.items = second.logs.items := by
  constructor
  · intro same
    have lines : first.lines = second.lines := by
      rw [← lines_report plain, same, lines_report plain']
    obtain ⟨views, shown⟩ := lines_inj plain plain' lines
    exact ⟨views.length_eq, views, shown⟩
  · rintro ⟨-, views, hostsError, text, items⟩
    rw [report, report, lines_eq, lines_eq, HostView.linesFrom_congr views, hostsError, text, items]

/-- A page with texts that look like other lines of a report, and with a status that no report
shows. -/
def lookalikePage (hidden : String) : Page where
  views := [⟨"/web", none, "undetermined", [], ⟨"", hidden, ""⟩, some "logs"⟩,
    ⟨"  [3] /db", some "db", "up", [], ⟨"db", hidden, "\x7b\x7d"⟩, none⟩]
  hostsError := some "[1] /web"
  logs := ⟨some "", [⟨"[t1", "] logcontent"⟩]⟩

/-- Two pages with one report, which are not the same and yet show the same. -/
theorem report_is_unambiguous_lookalikePage :
    let first := lookalikePage "up"
    let second := lookalikePage "down"
    first.Plain ∧ second.Plain ∧
    first.report = second.report ∧
    first.views.length = second.views.length ∧
    List.Forall₂ HostView.ShownAlike first.views second.views ∧
    first.hostsError = second.hostsError ∧
    first.logs.text = second.logs.text ∧
    first.logs.items = second.logs.items := by
  intro first second
  have plain : first.Plain := by decide
  have plain' : second.Plain := by decide
  have same : first.report = second.report := rfl
  exact ⟨plain, plain', same, (report_is_unambiguous plain plain').mp same⟩

end Page

end HostBoard
