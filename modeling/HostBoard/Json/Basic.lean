import HostBoard.Decimal.Binary64

/-!
# JSON values

A JSON value keeps its whole numbers exact and every other number as a double. The members of an
object stand in ascending order of their keys, each key once; `insert` keeps them so, and a later
member replaces an earlier one of the same key.
-/

namespace HostBoard

/-- A number of a JSON text. -/
inductive Number where
  | int (value : Int)
  | float (value : Binary64)
deriving DecidableEq, Repr

/-- A JSON value. -/
inductive Json where
  | null
  | bool (value : Bool)
  | number (value : Number)
  | string (value : String)
  | array (items : List Json)
  | object (members : List (String × Json))
deriving Repr

namespace Json

/-- Put a member into a list of members in ascending order of keys, replacing one of its key. -/
def insert {α : Type} (key : String) (value : α) : List (String × α) → List (String × α)
  | [] => [(key, value)]
  | (k, v) :: members =>
    if key = k then (key, value) :: members
    else if key < k then (key, value) :: (k, v) :: members
    else (k, v) :: insert key value members

end Json

end HostBoard
