import HostBoard.Service.Operation
import Mathlib.Tactic.Lemma

/-!
# Pages only grow

Nothing that happens to a page takes anything back from it. Views stay at their index and keep
their address, a view that has been loaded stays loaded, log items are only appended, and the
regions of a view always say what its fields say.

All of this is one relation between an earlier page and a later one (`Page.Grows`), which is
reflexive and transitive. Each of the four ways to change a page is a step of it: mounting views,
changing one view, showing a log outcome, setting the error of the host list. Every operation is
made of such steps, and so is every run, by induction on its operations.
-/

namespace HostBoard

namespace HostView

/-- The regions of a view say what its fields say: nothing in both, or the same in both. -/
inductive Coherent (view : HostView) : Prop where
  | blank :
    view.name = none →
    view.status = "undetermined" →
    view.paths = [] →
    view.regions = ⟨"", "", ""⟩ →
    Coherent view
  | filled :
    view.name = some view.regions.name →
    view.status = view.regions.status →
    view.regions.paths = view.paths.text →
    Coherent view

/-- What no change of a view takes back from it. -/
structure Keeps (before after : HostView) : Prop where
  url : after.url = before.url
  loaded : before.isLoaded → after.isLoaded
  coherent : before.Coherent → after.Coherent

lemma coherent_unloaded (url : String) : (unloaded url).Coherent :=
  .blank rfl rfl rfl rfl

lemma Keeps.refl (view : HostView) : view.Keeps view :=
  ⟨rfl, id, id⟩

lemma Keeps.trans {first second third : HostView} (one : first.Keeps second)
    (two : second.Keeps third) : first.Keeps third where
  url := two.url.trans one.url
  loaded was := two.loaded (one.loaded was)
  coherent was := two.coherent (one.coherent was)

lemma keeps_setContent (host : HostDescriptor) (view : HostView) :
    view.Keeps (view.setContent host) where
  url := rfl
  loaded _ := rfl
  coherent _ := .filled rfl rfl rfl

lemma keeps_apply (outcome : HostOutcome) (view : HostView) : view.Keeps (view.apply outcome) := by
  cases outcome with
  | loaded host => exact keeps_setContent host view
  | rejected _ => exact .refl view
  | failed failure =>
    -- Only the error changes, of which neither the regions nor the fields behind them know.
    refine ⟨rfl, id, fun was => ?_⟩
    cases was with
    | blank name status paths regions => exact .blank name status paths regions
    | filled name status paths => exact .filled name status paths

end HostView

namespace Page

/-- A later page and an earlier one from which it came. -/
structure Grows (earlier later : Page) : Prop where
  views : ∀ (index : Nat) (view : HostView), earlier.views[index]? = some view →
    ∃ after, later.views[index]? = some after ∧ view.Keeps after
  coherent : (∀ view ∈ earlier.views, view.Coherent) → ∀ view ∈ later.views, view.Coherent
  items : earlier.logs.items <+: later.logs.items

lemma Grows.refl (page : Page) : page.Grows page where
  views _ view here := ⟨view, here, .refl view⟩
  coherent := id
  items := List.prefix_rfl

lemma Grows.trans {first second third : Page} (one : first.Grows second)
    (two : second.Grows third) : first.Grows third where
  views index view here := by
    obtain ⟨between, there, kept⟩ := one.views index view here
    obtain ⟨after, found, still⟩ := two.views index between there
    exact ⟨after, found, kept.trans still⟩
  coherent was := two.coherent (one.coherent was)
  items := one.items.trans two.items

/-- The addresses of the views of a page are the first ones of every later page. -/
lemma Grows.urls {earlier later : Page} (grows : earlier.Grows later) :
    earlier.views.map HostView.url <+: later.views.map HostView.url := by
  apply List.prefix_iff_getElem?.mpr
  intro index inside
  rw [List.length_map] at inside
  obtain ⟨after, found, kept⟩ :=
    grows.views index earlier.views[index] (List.getElem?_eq_getElem inside)
  rw [List.getElem?_map, found, List.getElem_map]
  exact congrArg some kept.url

lemma grows_mountHosts (hrefs : List String) (page : Page) :
    page.Grows (page.mountHosts hrefs) where
  views index view here := by
    obtain ⟨inside, -⟩ := List.getElem?_eq_some_iff.mp here
    refine ⟨view, ?_, .refl view⟩
    rw [mountHosts, List.getElem?_append_left inside, here]
  coherent was view among := by
    rcases List.mem_append.mp among with old | new
    · exact was view old
    · obtain ⟨href, -, rfl⟩ := List.mem_map.mp new
      exact HostView.coherent_unloaded href
  items := List.prefix_rfl

/-- A change of one view, whichever it is, if it takes nothing back from any view. -/
lemma grows_modifyHost (index : Nat) {f : HostView → HostView}
    (keeps : ∀ view : HostView, view.Keeps (f view)) (page : Page) :
    page.Grows (page.modifyHost index f) where
  views position view here := by
    rw [modifyHost, List.getElem?_modify, here]
    by_cases same : index = position
    · exact ⟨f view, by simp [same], keeps view⟩
    · exact ⟨view, by simp [same], .refl view⟩
  coherent was view among := by
    obtain ⟨position, inside, rfl⟩ := List.getElem_of_mem among
    have bound : position < page.views.length := by simpa [modifyHost] using inside
    have old : page.views[position].Coherent := was _ (List.getElem_mem bound)
    simp only [modifyHost, List.getElem_modify]
    split
    · exact (keeps _).coherent old
    · exact old
  items := List.prefix_rfl

lemma grows_applyHosts (start : Nat) (outcomes : List HostOutcome) (page : Page) :
    page.Grows (page.applyHosts start outcomes) := by
  induction outcomes generalizing start page with
  | nil => exact .refl page
  | cons outcome outcomes ih =>
    have first := grows_modifyHost start (HostView.keeps_apply outcome) page
    exact first.trans (ih (start + 1) (page.modifyHost start (HostView.apply outcome)))

lemma grows_applyLogs (outcome : LogsOutcome) (page : Page) :
    page.Grows (page.applyLogs outcome) where
  views := (Grows.refl page).views
  coherent := id
  items := by
    cases outcome with
    | entries entries => exact List.prefix_append page.logs.items _
    | rejected _ => exact List.prefix_rfl
    | failed _ => exact List.prefix_rfl

lemma grows_setHostsError (failure : Failure) (page : Page) :
    page.Grows (page.setHostsError failure) where
  views := (Grows.refl page).views
  coherent := id
  items := List.prefix_rfl

variable {σ : Type} (client : Client σ)

lemma grows_mountAndLoad (links : LinksOutcome) (page : Page) (s : Session σ) :
    page.Grows (page.mountAndLoad client links s).1 := by
  cases links with
  | ok links =>
    have mounted := grows_mountHosts links.hrefs page
    exact mounted.trans (grows_applyHosts page.views.length _ (page.mountHosts links.hrefs))
  | error failure => exact grows_setHostsError failure page

end Page

namespace Operation

variable {σ : Type} (client : Client σ)

/-- What one operation does to a page. -/
lemma grows_run (op : Operation) (page : Page) (s : Session σ) :
    page.Grows (op.run client page s).1 := by
  cases op with
  | load endpoints =>
    exact (Page.grows_applyLogs _ page).trans (Page.grows_mountAndLoad client _ _ _)
  | loadHosts url => exact Page.grows_mountAndLoad client _ page _
  | loadLogs url => exact Page.grows_applyLogs _ page
  | mountHost url => exact Page.grows_mountHosts [url] page
  | mountHosts hrefs => exact Page.grows_mountHosts hrefs page
  | setContent index host =>
    exact Page.grows_modifyHost index (HostView.keeps_setContent host) page
  | applyHost index outcome =>
    exact Page.grows_modifyHost index (HostView.keeps_apply outcome) page
  | applyLogs outcome => exact Page.grows_applyLogs outcome page
  | setHostsError failure => exact Page.grows_setHostsError failure page

/-- What a whole run does to a page. -/
lemma grows_runAll (ops : List Operation) (page : Page) (s : Session σ) :
    page.Grows (runAll client ops page s).1 := by
  induction ops generalizing page s with
  | nil => exact .refl page
  | cons op ops ih =>
    exact (grows_run client op page s).trans (ih (op.run client page s).1 (op.run client page s).2)

/-- A run goes on from where its beginning has ended. -/
lemma runAll_append (before after : List Operation) (page : Page) (s : Session σ) :
    runAll client (before ++ after) page s =
      runAll client after (runAll client before page s).1 (runAll client before page s).2 := by
  induction before generalizing page s with
  | nil => rfl
  | cons op before ih => exact ih (op.run client page s).1 (op.run client page s).2

/-- Two points of any run that starts with the empty page, for any client. The views of the earlier
point are the first ones of the later point, in their order and for the same addresses; so are the
log items; what was loaded is loaded; and at either point every view is coherent. -/
theorem page_is_append_only (before after : List Operation) (s : Session σ) :
    let earlier := (runAll client before Page.empty s).1
    let later := (runAll client (before ++ after) Page.empty s).1
    earlier.views.map HostView.url <+: later.views.map HostView.url ∧
    earlier.logs.items <+: later.logs.items ∧
    (∀ (index : Nat) (view : HostView), earlier.views[index]? = some view → view.isLoaded →
      ∃ still, later.views[index]? = some still ∧ still.isLoaded) ∧
    (∀ view ∈ earlier.views, view.Coherent) ∧
    (∀ view ∈ later.views, view.Coherent) := by
  intro earlier later
  have since : earlier.Grows later := by
    have rest := grows_runAll client after earlier (runAll client before Page.empty s).2
    rw [← runAll_append] at rest
    exact rest
  have coherent : ∀ view ∈ earlier.views, view.Coherent :=
    (grows_runAll client before Page.empty s).coherent nofun
  refine ⟨since.urls, since.items, ?_, coherent, since.coherent coherent⟩
  intro index view here loaded
  obtain ⟨still, found, kept⟩ := since.views index view here
  exact ⟨still, found, kept.loaded loaded⟩

end Operation

end HostBoard
