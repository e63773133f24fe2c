import HostBoard.Text.Quoted
import HostBoard.Url.Parser

/-!
# Base addresses

The address against which all others are resolved must be absolute, and of one of the two schemes
that the dashboard speaks.
-/

namespace HostBoard

/-- A text that is no base address, and why. -/
structure BaseUrlError where
  raw : String
  message : String
deriving DecidableEq, Repr

/-- The error in words. -/
def BaseUrlError.text (e : BaseUrlError) : String :=
  "invalid base url " ++ Text.quoted e.raw ++ ": " ++ e.message

namespace Url

/-- The schemes of a base address. -/
def isBaseScheme (scheme : String) : Bool :=
  scheme = "http" || scheme = "https"

/-- Read a base address. -/
def parseBase (idna : Idna) (raw : String) : Except BaseUrlError Url :=
  match parse idna none raw with
  | .error e => .error ⟨raw, e.message⟩
  | .ok url =>
    if isBaseScheme url.scheme then .ok url
    else .error ⟨raw, "unsupported scheme " ++ url.scheme⟩

/-- A base address is what can be read alone and has one of the two schemes. -/
theorem parseBase_eq_ok_iff {idna : Idna} {raw : String} {url : Url} :
    parseBase idna raw = .ok url ↔
      parse idna none raw = .ok url ∧ (url.scheme = "http" ∨ url.scheme = "https") := by
  rw [parseBase]
  cases parse idna none raw with
  | error e => exact iff_of_false nofun nofun
  | ok found =>
    simp only [isBaseScheme, Bool.or_eq_true, decide_eq_true_eq]
    by_cases known : found.scheme = "http" ∨ found.scheme = "https"
    · rw [if_pos known]
      constructor
      · rintro ⟨⟩
        exact ⟨rfl, known⟩
      · rintro ⟨⟨⟩, -⟩
        rfl
    · rw [if_neg known]
      refine iff_of_false nofun ?_
      rintro ⟨⟨⟩, hoped⟩
      exact known hoped

end Url

end HostBoard
