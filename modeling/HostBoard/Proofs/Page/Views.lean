import HostBoard.Page.Basic
import Mathlib.Tactic.Lemma

/-!
# Mounted views and their outcomes

Mounting appends unloaded views, and the outcomes of their fetches are shown by index. The lemmas
here say what the two do together: a run of outcomes that starts at the first new view meets each
new view exactly once and leaves every view before it alone (`applyHosts_append`), so that a view
is the unloaded view of its address with its own outcome (`applyHosts_mountHosts`).

The induction on the outcomes moves the first new view to the end of the views that are done, which
keeps the index of the next outcome equal to their number.
-/

namespace HostBoard

/-- The view of an address once the outcome of its fetch is shown. -/
def HostView.fetched (url : String) (outcome : HostOutcome) : HostView :=
  (HostView.unloaded url).apply outcome

/-- A view shows an error only if its fetch has failed, and then the text of that failure. -/
lemma HostView.error_fetched_eq_some_iff {url : String} {outcome : HostOutcome} {text : String} :
    (HostView.fetched url outcome).error = some text ↔
      ∃ failure, outcome = .failed failure ∧ failure.text = text := by
  cases outcome with
  | loaded host => exact iff_of_false nofun nofun
  | rejected r => exact iff_of_false nofun nofun
  | failed failure =>
    constructor
    · intro shown
      exact ⟨failure, rfl, Option.some.inj shown⟩
    · rintro ⟨_, ⟨⟩, shown⟩
      exact congrArg some shown

namespace Page

@[simp]
lemma applyHosts_nil (start : Nat) (page : Page) : page.applyHosts start [] = page := rfl

/-- The first outcome goes to the first index, the others to the indices behind it. -/
lemma applyHosts_cons (start : Nat) (outcome : HostOutcome) (outcomes : List HostOutcome)
    (page : Page) :
    page.applyHosts start (outcome :: outcomes) =
      (page.modifyHost start (HostView.apply outcome)).applyHosts (start + 1) outcomes := rfl

/-- Changing the first view behind some others. -/
lemma modifyHost_append (before after : List HostView) (view : HostView) (hostsError : Option String)
    (logs : LogPanel) (f : HostView → HostView) :
    modifyHost before.length f ⟨before ++ view :: after, hostsError, logs⟩ =
      ⟨before ++ f view :: after, hostsError, logs⟩ := by
  have here : before.length < (before ++ view :: after).length := by simp
  simp [modifyHost, List.modify_eq_take_cons_drop here]

/-- As many outcomes as views: each view gets its own, and the views before them stay. -/
lemma applyHosts_append (before : List HostView) {views : List HostView}
    {outcomes : List HostOutcome} (hostsError : Option String) (logs : LogPanel)
    (same : views.length = outcomes.length) :
    applyHosts before.length outcomes ⟨before ++ views, hostsError, logs⟩ =
      ⟨before ++ List.zipWith (fun view outcome => view.apply outcome) views outcomes,
        hostsError, logs⟩ := by
  induction outcomes generalizing before views with
  | nil =>
    have none : views = [] := List.length_eq_zero_iff.mp same
    simp [none]
  | cons outcome outcomes ih =>
    cases views with
    | nil => simp at same
    | cons view views =>
      have rest : views.length = outcomes.length := Nat.succ.inj same
      have moved := ih (before ++ [view.apply outcome]) rest
      rw [applyHosts_cons, modifyHost_append]
      simpa using moved

/-- The addresses of the views between the old end of the page and its new one. -/
lemma urls_mountHosts (hrefs : List String) (page : Page) :
    (((page.mountHosts hrefs).views.take (page.mountHosts hrefs).views.length).drop
      page.views.length).map HostView.url = hrefs := by
  have urls : HostView.url ∘ HostView.unloaded = id := rfl
  rw [List.take_length, mountHosts, List.drop_left, List.map_map, urls, List.map_id]

/-- New views with their outcomes shown stand behind the old views. -/
lemma applyHosts_mountHosts (hrefs : List String) (outcomes : List HostOutcome) (page : Page)
    (same : hrefs.length = outcomes.length) :
    (page.mountHosts hrefs).applyHosts page.views.length outcomes =
      { page with views := page.views ++ List.zipWith HostView.fetched hrefs outcomes } := by
  have count : (hrefs.map HostView.unloaded).length = outcomes.length := by simpa using same
  have shown := applyHosts_append page.views page.hostsError page.logs count
  rw [List.zipWith_map_left] at shown
  exact shown

end Page

end HostBoard
