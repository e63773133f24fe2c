import HostBoard.Service.Outcome

/-!
# Host views

A host view shows one managed host. It starts without content, and each descriptor that is loaded
replaces everything it shows. A failure is shown beside the content that is there; a rejection
leaves the view as it is.
-/

namespace HostBoard

/-- The texts in the three regions of a view. -/
structure Regions where
  name : String
  status : String
  paths : String
deriving DecidableEq, Repr

/-- The state of one view, bound to the address of its host. -/
structure HostView where
  url : String
  name : Option String
  status : String
  paths : Paths
  regions : Regions
  error : Option String
deriving Repr

namespace HostView

/-- The status of a view that has not been loaded. -/
def undetermined : String := "undetermined"

/-- A view that has not been loaded. -/
def unloaded (url : String) : HostView where
  url := url
  name := none
  status := undetermined
  paths := []
  regions := ⟨"", "", ""⟩
  error := none

/-- Some descriptor has been loaded. -/
def isLoaded (view : HostView) : Bool :=
  view.name.isSome

/-- Show a descriptor instead of everything that was shown. -/
def setContent (host : HostDescriptor) (view : HostView) : HostView where
  url := view.url
  name := some host.name
  status := host.status
  paths := host.paths
  regions := ⟨host.name, host.status, host.paths.text⟩
  error := none

/-- Show the result of fetching the view's host. -/
def apply (outcome : HostOutcome) (view : HostView) : HostView :=
  match outcome with
  | .loaded host => view.setContent host
  | .rejected _ => view
  | .failed failure => { view with error := some failure.text }

@[simp]
theorem url_apply (outcome : HostOutcome) (view : HostView) :
    (view.apply outcome).url = view.url := by
  cases outcome <;> rfl

end HostView

end HostBoard
