import HostBoard.Client.Routes
import HostBoard.Proofs.Service.Requests
import HostBoard.Service.Operation

/-!
# The error of the host list

A host list that cannot be loaded leaves its error on the page. Only a later failure replaces it:
a host list that is loaded mounts its views and leaves the error where it is. So the page shows the
last failure of a run, which may be older than the last load, and a host list that has recovered is
shown below the error of its outage.

One operation has at most one word to say about the host list (`Operation.links?`), and the error
that it leaves is told by that word and the error before (`Operation.hostsError_run`). The words of
a run are those of its operations in order, and the error after the run follows by induction.
-/

namespace HostBoard

/-- Why there is no host list, if there is none. -/
def HostLinks.failure? : LinksOutcome → Option Failure
  | .ok _ => none
  | .error failure => some failure

namespace Operation

open HostLinks (failure?)

variable {σ : Type} (client : Client σ)

/-- What an operation finds out, or is told, about the host list. -/
def links? (s : Session σ) : Operation → Option LinksOutcome
  | .load endpoints => some (s.fetchHostLinks client endpoints.hosts).1
  | .loadHosts url => some (s.fetchHostLinks client url).1
  | .setHostsError failure => some (.error failure)
  | _ => none

/-- What a run finds out about the host list, in order. -/
def links : List Operation → Page → Session σ → List LinksOutcome
  | [], _, _ => []
  | op :: ops, page, s =>
    let (after, next) := op.run client page s
    (op.links? client s).toList ++ links ops after next

lemma hostsError_mountAndLoad (found : LinksOutcome) (page : Page) (s : Session σ) :
    (page.mountAndLoad client found s).1.hostsError =
      ((failure? found).map Failure.text).or page.hostsError := by
  cases found with
  | ok links =>
    rw [Page.page_mountAndLoad]
    rfl
  | error failure => rfl

/-- The error after one operation is the one it brings, or else the one before. -/
lemma hostsError_run (op : Operation) (page : Page) (s : Session σ) :
    (op.run client page s).1.hostsError =
      (((op.links? client s).bind failure?).map Failure.text).or page.hostsError := by
  cases op with
  | load endpoints => exact hostsError_mountAndLoad client _ (page.applyLogs _) _
  | loadHosts url => exact hostsError_mountAndLoad client _ page _
  | loadLogs url => rfl
  | mountHost url => rfl
  | mountHosts hrefs => rfl
  | setContent index host => rfl
  | applyHost index outcome => rfl
  | applyLogs outcome => rfl
  | setHostsError failure => rfl

/-- The error after a run is that of its last failure, or else the one before. -/
lemma hostsError_runAll (ops : List Operation) (page : Page) (s : Session σ) :
    (runAll client ops page s).1.hostsError =
      (((links client ops page s).filterMap failure?).getLast?.map Failure.text).or
        page.hostsError := by
  induction ops generalizing page s with
  | nil => rfl
  | cons op ops ih =>
    have first := hostsError_run client op page s
    have rest := ih (op.run client page s).1 (op.run client page s).2
    have word : ((op.links? client s).toList.filterMap failure?).getLast? =
        (op.links? client s).bind failure? := by
      cases op.links? client s with
      | none => rfl
      | some found => cases found <;> rfl
    rw [first] at rest
    rw [links, List.filterMap_append, List.getLast?_append, word, Option.map_or, Option.or_assoc]
    exact rest

/-- The last failure is the last word exactly if the last word is a failure or no word is one. -/
lemma last_failure_iff (found : List LinksOutcome) :
    (found.filterMap failure?).getLast?.map Failure.text =
        (found.getLast?.bind failure?).map Failure.text ↔
      (∃ failure, found.getLast? = some (.error failure)) ∨
        ∀ links ∈ found, failure? links = none := by
  rcases List.eq_nil_or_concat found with rfl | ⟨before, last, rfl⟩
  · exact iff_of_true rfl (.inr nofun)
  · rw [List.concat_eq_append, List.filterMap_append, List.getLast?_append, List.getLast?_concat]
    cases last with
    | error failure => exact iff_of_true rfl (.inl ⟨failure, rfl⟩)
    | ok links =>
      have quiet_before : (before.filterMap failure?).getLast?.map Failure.text = none ↔
          ∀ links ∈ before, failure? links = none := by
        rw [Option.map_eq_none_iff, List.getLast?_eq_none_iff, List.filterMap_eq_nil_iff]
      refine quiet_before.trans ⟨fun quiet => .inr ?_, ?_⟩
      · intro other among
        rcases List.mem_append.mp among with earlier | here
        · exact quiet other earlier
        · rw [List.mem_singleton.mp here]
          rfl
      · rintro (⟨failure, failed⟩ | quiet) other earlier
        · cases failed
        · exact quiet other (List.mem_append_left _ earlier)

/-- The error of the host list after any run from the empty page is the text of the last failure of
the host list in that run, however many host lists have been loaded since. It tells how the last
load of the host list ended exactly if that one failed or none ever did. -/
theorem hosts_error_is_last_failure (ops : List Operation) (s : Session σ) :
    let found := links client ops Page.empty s
    let shown := (runAll client ops Page.empty s).1.hostsError
    shown = (found.filterMap failure?).getLast?.map Failure.text ∧
    (shown = (found.getLast?.bind failure?).map Failure.text ↔
      (∃ failure, found.getLast? = some (.error failure)) ∨
        ∀ links ∈ found, failure? links = none) := by
  intro found shown
  have last : shown = (found.filterMap failure?).getLast?.map Failure.text := by
    have whole := hostsError_runAll client ops Page.empty s
    rw [Page.empty, Option.or_none] at whole
    exact whole
  refine ⟨last, ?_⟩
  rw [last]
  exact last_failure_iff found

/-- A script with an outage of the host list, which then lists one host. -/
def outageScript : Routes :=
  [("/hosts", [.error "down", .ok ⟨200, (HostEntry.listToJson [⟨"/web"⟩]).compact⟩]),
    ("/web", [.ok ⟨200, (HostDescriptor.toJson ⟨"web", "up", []⟩).compact⟩])]

/-- After the outage the host list is loaded and its host is shown, below the error of the outage. -/
theorem hosts_error_outlives_recovery :
    let ops : List Operation := [.loadHosts "/hosts", .loadHosts "/hosts"]
    let found := links Routes.client ops Page.empty (Session.start outageScript)
    let after := (runAll Routes.client ops Page.empty (Session.start outageScript)).1
    found.getLast?.map (fun links => links.toOption.map HostLinks.hrefs) = some (some ["/web"]) ∧
    after.views.map HostView.name = [some "web"] ∧
    after.hostsError = some "request to /hosts failed: down" := by
  refine ⟨?_, ?_, ?_⟩
  · decide +kernel
  · decide +kernel
  · decide +kernel

end Operation

end HostBoard
