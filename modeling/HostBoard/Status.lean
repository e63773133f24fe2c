/-!
# Response statuses

Two tests for success are in use. A host's own resource counts as loaded with any status of the
200 class; the collections count as loaded with 200 to 209 only.
-/

namespace HostBoard

/-- How a response status is judged. -/
inductive SuccessCheck where
  | wholeClass
  | firstTen
deriving DecidableEq, Repr

/-- The status counts as success. -/
def SuccessCheck.accepts : SuccessCheck → Nat → Bool
  | .wholeClass, status => status / 100 = 2
  | .firstTen, status => status / 10 = 20

/-- The whole class is the statuses from 200 to 299. -/
theorem accepts_wholeClass_iff (status : Nat) :
    SuccessCheck.wholeClass.accepts status = true ↔ 200 ≤ status ∧ status ≤ 299 := by
  simp [SuccessCheck.accepts]
  omega

/-- The first ten are the statuses from 200 to 209. -/
theorem accepts_firstTen_iff (status : Nat) :
    SuccessCheck.firstTen.accepts status = true ↔ 200 ≤ status ∧ status ≤ 209 := by
  simp [SuccessCheck.accepts]
  omega

end HostBoard
