import HostBoard.Proofs.Service.Requests
import Mathlib.Data.List.Perm.Basic
import Mathlib.Data.List.Nodup

/-!
# Loads in flight

The combined load as a step relation. Both collections are asked for at once and complete in either
order; then the new views are mounted, and their fetches are all in flight and complete one at a
time in any order. Every outcome is kept in the slot of its own fetch, and the slots are shown in
their order once all of them are filled.

Two facts about one step carry the whole theory. A step stays on course (`OnCourse`): whatever has
completed so far holds the outcome that the client's answer calls for, in its own place. And a step
takes exactly the fetch that completes from the fetches that are still due (`due`). By induction
every run that finishes has completed each fetch once and ends with the page of the load in which
every fetch completes in the order it was started.
-/

namespace HostBoard

/-- A fetch of a load: one of the collections, or the new view at a position. -/
inductive Fetch where
  | hostList
  | logs
  | view (position : Nat)
deriving DecidableEq, Repr

/-- The place for the outcome of one new view. -/
structure Slot where
  url : String
  outcome : Option HostOutcome

/-- A load in progress. -/
inductive Flight where
  | collecting (links : Option LinksOutcome) (logs : Option LogsOutcome) (page : Page)
  | viewing (start : Nat) (slots : List Slot) (page : Page)
  | finished (page : Page)

namespace Flight

/-- The outcome that the answer for an address calls for. -/
def answered (reply : String → Reply) (url : String) : HostOutcome :=
  HostOutcome.ofReply url (reply url)

/-- The start of a load: both collections are in flight. -/
def launched (page : Page) : Flight :=
  .collecting none none page

/-- The empty slots of the views from an index on. -/
def slotsFrom (start : Nat) (page : Page) : List Slot :=
  ((page.views.take page.views.length).drop start).map fun view => ⟨view.url, none⟩

section

variable (reply : String → Reply) (endpoints : Endpoints)

/-- One fetch completes, and its outcome is kept. -/
inductive Completes : Flight → Fetch → Flight → Prop where
  | hostList {logs page} :
    Completes (.collecting none logs page) .hostList
      (.collecting (some (HostLinks.ofReply endpoints.hosts (reply endpoints.hosts))) logs page)
  | logs {links page} :
    Completes (.collecting links none page) .logs
      (.collecting links (some (LogsOutcome.ofReply endpoints.logs (reply endpoints.logs))) page)
  | view {start slots page position url} :
    slots[position]? = some ⟨url, none⟩ →
    Completes (.viewing start slots page) (.view position)
      (.viewing start (slots.set position ⟨url, some (answered reply url)⟩) page)

/-- The load goes on, with everything it waited for. -/
inductive Proceeds : Flight → Flight → Prop where
  | mount {links logs page} :
    Proceeds (.collecting (some (.ok links)) (some logs) page)
      (.viewing page.views.length
        (slotsFrom page.views.length ((page.applyLogs logs).mountHosts links.hrefs))
        ((page.applyLogs logs).mountHosts links.hrefs))
  | refuse {failure logs page} :
    Proceeds (.collecting (some (.error failure)) (some logs) page)
      (.finished ((page.applyLogs logs).setHostsError failure))
  | unveil {start slots outcomes page} :
    slots.map Slot.outcome = outcomes.map some →
    Proceeds (.viewing start slots page) (.finished (page.applyHosts start outcomes))

/-- A run, with the fetches in the order in which they complete. -/
inductive Run : Flight → List Fetch → Flight → Prop where
  | refl (flight : Flight) :
    Run flight [] flight
  | complete {first second last fetch order} :
    Completes reply endpoints first fetch second →
    Run second order last →
    Run first (fetch :: order) last
  | proceed {first second last order} :
    Proceeds first second →
    Run second order last →
    Run first order last

end

/-- The fetches of the new views, in the order in which they are started. -/
def viewFetches : LinksOutcome → List Fetch
  | .ok links => (List.range links.hrefs.length).map .view
  | .error _ => []

/-- The positions whose fetches are in flight. -/
def vacant (slots : List Slot) : List Nat :=
  (List.range slots.length).filter fun position =>
    (slots[position]?.bind Slot.outcome).isNone

variable {reply : String → Reply} {endpoints : Endpoints} {page : Page}

/-- Every filled slot holds the outcome of its own address. -/
def Kept (reply : String → Reply) (slots : List Slot) : Prop :=
  ∀ slot ∈ slots, ∀ outcome, slot.outcome = some outcome → outcome = answered reply slot.url

lemma mem_vacant {slots : List Slot} {position : Nat} :
    position ∈ vacant slots ↔ ∃ url, slots[position]? = some ⟨url, none⟩ := by
  simp only [vacant, List.mem_filter, List.mem_range]
  constructor
  · rintro ⟨inside, empty⟩
    rw [List.getElem?_eq_getElem inside] at empty ⊢
    refine ⟨slots[position].url, ?_⟩
    rw [← Option.isNone_iff_eq_none.mp empty]
    rfl
  · rintro ⟨url, at_position⟩
    refine ⟨(List.getElem?_eq_some_iff.mp at_position).1, ?_⟩
    rw [at_position]
    rfl

lemma nodup_vacant (slots : List Slot) : (vacant slots).Nodup :=
  List.nodup_range.filter _

/-- Filling a slot takes its position from the vacant ones. -/
lemma vacant_set {slots : List Slot} {position : Nat} {url : String} (outcome : HostOutcome)
    (empty : slots[position]? = some ⟨url, none⟩) :
    (vacant slots).Perm (position :: vacant (slots.set position ⟨url, some outcome⟩)) := by
  have inside : position < slots.length := (List.getElem?_eq_some_iff.mp empty).1
  have filled : position ∉ vacant (slots.set position ⟨url, some outcome⟩) := by
    rw [mem_vacant]
    rintro ⟨url', still⟩
    simp [List.getElem?_set_self inside] at still
  apply (List.perm_ext_iff_of_nodup (nodup_vacant _) (List.nodup_cons.mpr ⟨filled, nodup_vacant _⟩)).mpr
  intro other
  rw [List.mem_cons]
  by_cases same : other = position
  · subst same
    exact ⟨fun _ => .inl rfl, fun _ => mem_vacant.mpr ⟨url, empty⟩⟩
  · rw [mem_vacant, mem_vacant, List.getElem?_set_ne (Ne.symm same)]
    exact ⟨.inr, fun either => either.resolve_left same⟩

lemma Kept.set {slots : List Slot} {position : Nat} {url : String} (kept : Kept reply slots) :
    Kept reply (slots.set position ⟨url, some (answered reply url)⟩) := by
  intro slot among outcome held
  rcases List.mem_or_eq_of_mem_set among with old | new
  · exact kept slot old outcome held
  · subst new
    exact (Option.some.inj held).symm

/-- Once all slots are filled, the outcomes are those of their addresses. -/
lemma Kept.outcomes {slots : List Slot} {outcomes : List HostOutcome} (kept : Kept reply slots)
    (full : slots.map Slot.outcome = outcomes.map some) :
    outcomes = (slots.map Slot.url).map (answered reply) := by
  induction slots generalizing outcomes with
  | nil => simpa using full.symm
  | cons slot slots ih =>
    cases outcomes with
    | nil => simp at full
    | cons outcome outcomes =>
      simp only [List.map_cons, List.cons.injEq] at full ⊢
      obtain ⟨here, rest⟩ := full
      refine ⟨kept slot List.mem_cons_self outcome here, ?_⟩
      exact ih (fun other among => kept other (List.mem_cons_of_mem slot among)) rest

/-- Slots without a vacant position are full. -/
lemma exists_outcomes {slots : List Slot} (none_vacant : vacant slots = []) :
    ∃ outcomes : List HostOutcome, slots.map Slot.outcome = outcomes.map some := by
  have held : ∀ slot ∈ slots, ∃ outcome, slot.outcome = some outcome := by
    intro slot among
    obtain ⟨position, inside, rfl⟩ := List.getElem_of_mem among
    cases found : slots[position].outcome with
    | some outcome => exact ⟨outcome, rfl⟩
    | none =>
      have empty : slots[position]? = some ⟨slots[position].url, none⟩ := by
        rw [List.getElem?_eq_getElem inside, ← found]
      have listed : position ∈ vacant slots := mem_vacant.mpr ⟨_, empty⟩
      rw [none_vacant] at listed
      cases listed
  clear none_vacant
  induction slots with
  | nil => exact ⟨[], rfl⟩
  | cons slot slots ih =>
    obtain ⟨outcome, here⟩ := held slot List.mem_cons_self
    obtain ⟨outcomes, rest⟩ := ih fun other among => held other (List.mem_cons_of_mem slot among)
    refine ⟨outcome :: outcomes, ?_⟩
    rw [List.map_cons, here, rest]
    rfl

/-- The page of the load in which every fetch completes in the order it was started. -/
def inOrder (reply : String → Reply) (endpoints : Endpoints) (page : Page) : Page :=
  (page.load (Client.constant reply) endpoints (Session.start ())).1

/-- A client without memory gives every host the outcome of its address. -/
lemma outcomes_constant (urls : List String) (s : Session Unit) :
    (s.fetchHosts (Client.constant reply) urls).1 = urls.map (answered reply) := by
  induction urls generalizing s with
  | nil => rfl
  | cons url urls ih => exact congrArg (answered reply url :: ·) (ih _)

lemma inOrder_eq :
    inOrder reply endpoints page =
      ((page.applyLogs (LogsOutcome.ofReply endpoints.logs (reply endpoints.logs))).mountAndLoad
        (Client.constant reply) (HostLinks.ofReply endpoints.hosts (reply endpoints.hosts))
        (Page.collected (Client.constant reply) (Session.start ()) endpoints)).1 := rfl

/-- With a host list, the page in order shows every outcome in the view of its position. -/
lemma inOrder_of_ok {links : HostLinks}
    (read : HostLinks.ofReply endpoints.hosts (reply endpoints.hosts) = .ok links) :
    inOrder reply endpoints page =
      ((page.applyLogs (LogsOutcome.ofReply endpoints.logs (reply endpoints.logs))).mountHosts
        links.hrefs).applyHosts page.views.length (links.hrefs.map (answered reply)) := by
  rw [inOrder_eq, read]
  simp only [Page.mountAndLoad, Page.loadViews, Page.urls_mountHosts, outcomes_constant]
  rfl

/-- Without a host list, the page in order shows why there is none. -/
lemma inOrder_of_error {failure : Failure}
    (read : HostLinks.ofReply endpoints.hosts (reply endpoints.hosts) = .error failure) :
    inOrder reply endpoints page =
      (page.applyLogs (LogsOutcome.ofReply endpoints.logs (reply endpoints.logs))).setHostsError
        failure := by
  rw [inOrder_eq, read]
  rfl

/-- What has completed so far holds the outcome that its answer calls for, in its own place. -/
inductive OnCourse (reply : String → Reply) (endpoints : Endpoints) (page : Page) :
    Flight → Prop where
  | collecting {links logs} :
    (∀ found, links = some found →
      found = HostLinks.ofReply endpoints.hosts (reply endpoints.hosts)) →
    (∀ found, logs = some found →
      found = LogsOutcome.ofReply endpoints.logs (reply endpoints.logs)) →
    OnCourse reply endpoints page (.collecting links logs page)
  | viewing {links slots} :
    HostLinks.ofReply endpoints.hosts (reply endpoints.hosts) = .ok links →
    slots.map Slot.url = links.hrefs →
    Kept reply slots →
    OnCourse reply endpoints page (.viewing page.views.length slots
      ((page.applyLogs (LogsOutcome.ofReply endpoints.logs (reply endpoints.logs))).mountHosts
        links.hrefs))
  | finished :
    OnCourse reply endpoints page (.finished (inOrder reply endpoints page))

/-- A finished load that is on course has the page in order. -/
lemma OnCourse.page_eq {final : Page} (course : OnCourse reply endpoints page (.finished final)) :
    final = inOrder reply endpoints page := by
  generalize e : Flight.finished final = flight at course
  cases course with
  | collecting => cases e
  | viewing => cases e
  | finished => exact Flight.finished.inj e

lemma OnCourse.launched : OnCourse reply endpoints page (launched page) :=
  .collecting nofun nofun

/-- A fetch that completes keeps the load on course. -/
lemma Completes.onCourse {first second : Flight} {fetch : Fetch}
    (step : Completes reply endpoints first fetch second)
    (course : OnCourse reply endpoints page first) : OnCourse reply endpoints page second := by
  cases step with
  | hostList =>
    cases course with
    | collecting _ logs => exact .collecting (fun found held => (Option.some.inj held).symm) logs
  | logs =>
    cases course with
    | collecting links _ => exact .collecting links fun found held => (Option.some.inj held).symm
  | @view start slots _ position url empty =>
    cases course with
    | viewing read urls kept =>
      obtain ⟨inside, here⟩ := List.getElem?_eq_some_iff.mp empty
      have unchanged : slots.set position ⟨url, none⟩ = slots := by
        rw [← here, List.set_getElem_self inside]
      refine .viewing read ?_ kept.set
      -- Filling a slot does not touch its address.
      calc (slots.set position ⟨url, some (answered reply url)⟩).map Slot.url
          = (slots.set position ⟨url, none⟩).map Slot.url := by rw [List.map_set, List.map_set]
        _ = _ := by rw [unchanged, urls]

/-- A load that goes on stays on course. -/
lemma Proceeds.onCourse {first second : Flight} (step : Proceeds first second)
    (course : OnCourse reply endpoints page first) : OnCourse reply endpoints page second := by
  cases step with
  | mount =>
    cases course with
    | collecting links logs =>
      cases logs _ rfl
      refine .viewing (links _ rfl).symm ?_ ?_
      · rw [slotsFrom, List.map_map]
        exact Page.urls_mountHosts _ _
      · intro slot among outcome held
        obtain ⟨view, -, rfl⟩ := List.mem_map.mp among
        cases held
  | refuse =>
    cases course with
    | collecting links logs =>
      cases logs _ rfl
      rw [← inOrder_of_error (links _ rfl).symm]
      exact .finished
  | unveil full =>
    cases course with
    | viewing read urls kept =>
      rw [kept.outcomes full, urls, ← inOrder_of_ok read]
      exact .finished

lemma Run.onCourse {first last : Flight} {order : List Fetch}
    (run : Run reply endpoints first order last) (course : OnCourse reply endpoints page first) :
    OnCourse reply endpoints page last := by
  induction run with
  | refl => exact course
  | complete step _ ih => exact ih (step.onCourse course)
  | proceed step _ ih => exact ih (step.onCourse course)

/-- The fetches that have still to complete, those of views not yet mounted included. -/
def due (reply : String → Reply) (endpoints : Endpoints) : Flight → List Fetch
  | .collecting links logs _ =>
    (if links.isNone then [.hostList] else []) ++ (if logs.isNone then [.logs] else []) ++
      viewFetches (HostLinks.ofReply endpoints.hosts (reply endpoints.hosts))
  | .viewing _ slots _ => (vacant slots).map .view
  | .finished _ => []

/-- The fetch that completes was due, and the others still are. -/
lemma Completes.due {first second : Flight} {fetch : Fetch}
    (step : Completes reply endpoints first fetch second) :
    (first.due reply endpoints).Perm (fetch :: second.due reply endpoints) := by
  cases step with
  | hostList => exact .refl _
  | logs =>
    simp only [Flight.due, Option.isNone_none, if_true, Option.isNone_some, Bool.false_eq_true,
      if_false, List.append_nil, List.append_assoc]
    exact List.perm_middle
  | view empty => exact (vacant_set _ empty).map Fetch.view

/-- No slot is filled when the views are mounted. -/
lemma vacant_slotsFrom (hrefs : List String) (page : Page) :
    vacant (slotsFrom page.views.length (page.mountHosts hrefs)) = List.range hrefs.length := by
  have count : (slotsFrom page.views.length (page.mountHosts hrefs)).length = hrefs.length := by
    conv_rhs => rw [← Page.urls_mountHosts hrefs page]
    rw [slotsFrom, List.length_map, List.length_map]
  rw [vacant, count, List.filter_eq_self]
  intro position _
  have empty : Slot.outcome ∘ (fun view : HostView => ⟨view.url, none⟩) = fun _ => none := rfl
  rw [slotsFrom, List.getElem?_map, Option.bind_map, empty, Option.bind_fun_none]
  rfl

/-- What the load goes on with is due before and after. -/
lemma Proceeds.due {first second : Flight} (step : Proceeds first second)
    (course : OnCourse reply endpoints page first) :
    first.due reply endpoints = second.due reply endpoints := by
  cases step with
  | mount =>
    cases course with
    | collecting links _ =>
      rw [Flight.due, Flight.due, ← links _ rfl]
      exact (congrArg (List.map Fetch.view) (vacant_slotsFrom _ _)).symm
  | refuse =>
    cases course with
    | collecting links _ =>
      rw [Flight.due, ← links _ rfl]
      rfl
  | @unveil start slots outcomes _ full =>
    have none_vacant : vacant slots = [] := by
      apply List.eq_nil_iff_forall_not_mem.mpr
      intro position listed
      obtain ⟨url, empty⟩ := mem_vacant.mp listed
      have blank : (slots.map Slot.outcome)[position]? = some none := by
        rw [List.getElem?_map, empty]
        rfl
      rw [full, List.getElem?_map] at blank
      cases found : outcomes[position]? <;> simp [found] at blank
    rw [Flight.due, none_vacant]
    rfl

/-- A run completes what was due and is not due any more, each fetch once. -/
lemma Run.due {first last : Flight} {order : List Fetch}
    (run : Run reply endpoints first order last) (course : OnCourse reply endpoints page first) :
    (first.due reply endpoints).Perm (order ++ last.due reply endpoints) := by
  induction run with
  | refl => exact .refl _
  | complete step _ ih => exact step.due.trans ((ih (step.onCourse course)).cons _)
  | proceed step _ ih =>
    rw [step.due course]
    exact ih (step.onCourse course)

/-- The fetches of the views can complete in any order. -/
lemma run_viewing {start : Nat} {slots : List Slot} {mounted : Page} {order : List Fetch}
    (course : OnCourse reply endpoints page (.viewing start slots mounted))
    (every : order.Perm ((vacant slots).map Fetch.view)) :
    Run reply endpoints (.viewing start slots mounted) order
      (.finished (inOrder reply endpoints page)) := by
  induction order generalizing slots with
  | nil =>
    have none_vacant : vacant slots = [] := List.map_eq_nil_iff.mp every.nil_eq.symm
    obtain ⟨outcomes, full⟩ := exists_outcomes none_vacant
    have step : Proceeds (.viewing start slots mounted)
        (.finished (mounted.applyHosts start outcomes)) := .unveil full
    rw [← (step.onCourse course).page_eq]
    exact .proceed step (.refl _)
  | cons fetch order ih =>
    -- Whatever completes first is vacant, and the others are what is vacant afterwards.
    have listed := every.subset List.mem_cons_self
    obtain ⟨position, open_position, rfl⟩ := List.mem_map.mp listed
    obtain ⟨url, empty⟩ := mem_vacant.mp open_position
    have step : Completes reply endpoints (.viewing start slots mounted) (.view position)
        (.viewing start (slots.set position ⟨url, some (answered reply url)⟩) mounted) :=
      .view empty
    have rest := every.trans ((vacant_set (answered reply url) empty).map Fetch.view)
    exact .complete step (ih (step.onCourse course) rest.cons_inv)

/-- With both collections there, the views can complete in any order. -/
lemma run_collected {order : List Fetch}
    (every : order.Perm (viewFetches (HostLinks.ofReply endpoints.hosts (reply endpoints.hosts)))) :
    Run reply endpoints
      (.collecting (some (HostLinks.ofReply endpoints.hosts (reply endpoints.hosts)))
        (some (LogsOutcome.ofReply endpoints.logs (reply endpoints.logs))) page)
      order (.finished (inOrder reply endpoints page)) := by
  have course : OnCourse reply endpoints page
      (.collecting (some (HostLinks.ofReply endpoints.hosts (reply endpoints.hosts)))
        (some (LogsOutcome.ofReply endpoints.logs (reply endpoints.logs))) page) :=
    .collecting (fun _ held => (Option.some.inj held).symm) fun _ held => (Option.some.inj held).symm
  cases read : HostLinks.ofReply endpoints.hosts (reply endpoints.hosts) with
  | ok links =>
    rw [read] at course every
    have mounted := vacant_slotsFrom links.hrefs
      (page.applyLogs (LogsOutcome.ofReply endpoints.logs (reply endpoints.logs)))
    refine .proceed .mount (run_viewing (Proceeds.mount.onCourse course) ?_)
    rw [viewFetches, ← mounted] at every
    exact every
  | error failure =>
    rw [read] at every
    rw [every.eq_nil, inOrder_of_error read]
    exact .proceed .refuse (.refl _)

/-- Wherever a load has got to, it can finish. -/
lemma OnCourse.finishes {flight : Flight} (course : OnCourse reply endpoints page flight) :
    ∃ order, Run reply endpoints flight order (.finished (inOrder reply endpoints page)) := by
  have collected : Run reply endpoints
      (.collecting (some (HostLinks.ofReply endpoints.hosts (reply endpoints.hosts)))
        (some (LogsOutcome.ofReply endpoints.logs (reply endpoints.logs))) page)
      (viewFetches (HostLinks.ofReply endpoints.hosts (reply endpoints.hosts)))
      (.finished (inOrder reply endpoints page)) := run_collected (.refl _)
  cases course with
  | @collecting links logs found shown =>
    cases links with
    | none =>
      cases logs with
      | none => exact ⟨_, .complete .hostList (.complete .logs collected)⟩
      | some outcome =>
        cases shown _ rfl
        exact ⟨_, .complete .hostList collected⟩
    | some links =>
      cases found _ rfl
      cases logs with
      | none => exact ⟨_, .complete .logs collected⟩
      | some outcome =>
        cases shown _ rfl
        exact ⟨_, collected⟩
  | viewing read urls kept => exact ⟨_, run_viewing (.viewing read urls kept) (.refl _)⟩
  | finished => exact ⟨[], .refl _⟩

/-- The order in which fetches complete does not show on the page, for any client that answers by
address alone. A run that finishes has completed every fetch once and has the page of the load in
which fetches complete in the order they were started. Either order of the collections, followed by
any order of the views, is the order of such a run, and every run can be continued to one. -/
theorem page_independent_of_completion_order (reply : String → Reply) (endpoints : Endpoints)
    (page : Page) :
    let final := (page.load (Client.constant reply) endpoints (Session.start ())).1
    let views := viewFetches (HostLinks.ofReply endpoints.hosts (reply endpoints.hosts))
    (∀ order shown, Run reply endpoints (launched page) order (.finished shown) →
      shown = final ∧ order.Perm (.hostList :: .logs :: views)) ∧
    (∀ collections order, collections = [.hostList, .logs] ∨ collections = [.logs, .hostList] →
      order.Perm views →
      Run reply endpoints (launched page) (collections ++ order) (.finished final)) ∧
    (∀ order flight, Run reply endpoints (launched page) order flight →
      ∃ rest, Run reply endpoints flight rest (.finished final)) := by
  intro final views
  refine ⟨?_, ?_, ?_⟩
  · intro order shown run
    have course : OnCourse reply endpoints page (launched page) := .launched
    refine ⟨(run.onCourse course).page_eq, ?_⟩
    have all := run.due course
    rw [Flight.due, List.append_nil] at all
    exact all.symm
  · intro collections order either every
    rcases either with rfl | rfl
    · exact .complete .hostList (.complete .logs (run_collected every))
    · exact .complete .logs (.complete .hostList (run_collected every))
  · intro order flight run
    exact (run.onCourse OnCourse.launched).finishes

end Flight

end HostBoard
