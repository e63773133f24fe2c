import HostBoard.Page.HostView
import Mathlib.Data.List.DropRight
import Mathlib.Data.List.Induction
import Mathlib.Tactic.Lemma

/-!
# The history of a view

What a view shows after any number of outcomes can be told from the list of these outcomes, without
following the view through them (`HostView.ofHistory`). Its content is that of the last descriptor,
and its error is the last failure behind that descriptor, because a descriptor takes the error away
and a rejection takes nothing.

A new outcome at the end of a history changes the last descriptor and the last failure as it changes
the view (`ofHistory_concat`), so the induction is on histories that grow at their end.
-/

namespace HostBoard

namespace HostOutcome

/-- The descriptor that was loaded, if one was. -/
def loaded? : HostOutcome → Option HostDescriptor
  | .loaded host => some host
  | _ => none

/-- The failure, if there was one. -/
def failure? : HostOutcome → Option Failure
  | .failed failure => some failure
  | _ => none

/-- The last descriptor of a history. -/
def lastLoaded (outcomes : List HostOutcome) : Option HostDescriptor :=
  (outcomes.filterMap loaded?).getLast?

/-- The outcomes behind the last descriptor of a history. -/
def sinceLoaded (outcomes : List HostOutcome) : List HostOutcome :=
  outcomes.rtakeWhile fun outcome => outcome.loaded?.isNone

/-- The last failure behind the last descriptor of a history. -/
def lastFailure (outcomes : List HostOutcome) : Option Failure :=
  ((sinceLoaded outcomes).filterMap failure?).getLast?

lemma lastLoaded_concat (outcomes : List HostOutcome) (outcome : HostOutcome) :
    lastLoaded (outcomes ++ [outcome]) = outcome.loaded?.or (lastLoaded outcomes) := by
  rw [lastLoaded, List.filterMap_append, List.getLast?_append]
  cases outcome <;> rfl

lemma lastFailure_concat_loaded (outcomes : List HostOutcome) (host : HostDescriptor) :
    lastFailure (outcomes ++ [.loaded host]) = none := by
  rw [lastFailure, sinceLoaded, List.rtakeWhile_concat_neg _ _ _ (by simp [loaded?])]
  rfl

lemma lastFailure_concat_other (outcomes : List HostOutcome) {outcome : HostOutcome}
    (other : outcome.loaded? = none) :
    lastFailure (outcomes ++ [outcome]) = outcome.failure?.or (lastFailure outcomes) := by
  rw [lastFailure, sinceLoaded, List.rtakeWhile_concat_pos _ _ _ (by simp [other]),
    List.filterMap_append, List.getLast?_append]
  cases outcome <;> rfl

end HostOutcome

namespace HostView

open HostOutcome

/-- Show outcomes one after another. -/
def applyAll (outcomes : List HostOutcome) (view : HostView) : HostView :=
  outcomes.foldl (fun view outcome => view.apply outcome) view

/-- The regions that show a descriptor, or nothing. -/
def regionsOf : Option HostDescriptor → Regions
  | none => ⟨"", "", ""⟩
  | some host => ⟨host.name, host.status, host.paths.text⟩

/-- The view of an address with a history. -/
def ofHistory (url : String) (outcomes : List HostOutcome) : HostView where
  url := url
  name := (lastLoaded outcomes).map HostDescriptor.name
  status := ((lastLoaded outcomes).map HostDescriptor.status).getD "undetermined"
  paths := ((lastLoaded outcomes).map HostDescriptor.paths).getD []
  regions := regionsOf (lastLoaded outcomes)
  error := (lastFailure outcomes).map Failure.text

lemma ofHistory_concat (url : String) (outcomes : List HostOutcome) (outcome : HostOutcome) :
    ofHistory url (outcomes ++ [outcome]) = (ofHistory url outcomes).apply outcome := by
  cases outcome with
  | loaded host =>
    rw [ofHistory, lastLoaded_concat, lastFailure_concat_loaded]
    rfl
  | rejected rejection =>
    rw [ofHistory, lastLoaded_concat, lastFailure_concat_other outcomes rfl]
    rfl
  | failed failure =>
    rw [ofHistory, lastLoaded_concat, lastFailure_concat_other outcomes rfl]
    rfl

lemma applyAll_unloaded (url : String) (outcomes : List HostOutcome) :
    (unloaded url).applyAll outcomes = ofHistory url outcomes := by
  induction outcomes using List.reverseRecOn with
  | nil => rfl
  | append_singleton outcomes outcome ih =>
    rw [ofHistory_concat, ← ih]
    exact List.foldl_concat _ _ _ _

lemma applyAll_append (before after : List HostOutcome) (view : HostView) :
    view.applyAll (before ++ after) = (view.applyAll before).applyAll after :=
  List.foldl_append

lemma url_applyAll (outcomes : List HostOutcome) (view : HostView) :
    (view.applyAll outcomes).url = view.url := by
  induction outcomes generalizing view with
  | nil => rfl
  | cons outcome outcomes ih => exact (ih (view.apply outcome)).trans (url_apply outcome view)

/-- A view is a function of its history: after any outcomes it shows its address, the last
descriptor and the last failure behind that. Nothing is left of what came before a descriptor, and a
rejection may be put into a history or taken out of it anywhere. -/
theorem view_is_function_of_history (url : String) (outcomes : List HostOutcome) :
    (unloaded url).applyAll outcomes = ofHistory url outcomes ∧
    (∀ before host after,
      (unloaded url).applyAll (before ++ .loaded host :: after) =
        (unloaded url).applyAll (.loaded host :: after)) ∧
    ∀ before rejection after,
      (unloaded url).applyAll (before ++ .rejected rejection :: after) =
        (unloaded url).applyAll (before ++ after) := by
  refine ⟨applyAll_unloaded url outcomes, ?_, ?_⟩
  · intro before host after
    have same : ((unloaded url).applyAll before).apply (.loaded host) =
        (unloaded url).apply (.loaded host) := by
      rw [apply, setContent, url_applyAll]
      rfl
    rw [applyAll_append]
    exact congrArg (applyAll after) same
  · intro before rejection after
    rw [applyAll_append, applyAll_append]
    rfl

end HostView

end HostBoard
