/-!
# Values and tables of a TOML document

While a document is read its tables stay open: a table remembers whether a header named it, or a
dotted key made it. What is closed is a value. Of a number that is not whole, and of a date or
time, only the kind is kept.
-/

namespace HostBoard.Toml

/-- A value. -/
inductive Value where
  | string (text : String)
  | integer (number : Int)
  | float
  | boolean (value : Bool)
  | moment
  | array (items : List Value)
  | table (entries : List (String × Value))
deriving Repr

/-- How a table came to be: named by a header or written whole, on the way to another one that a
header named, or by a dotted key. -/
inductive Origin where
  | named
  | passed
  | dotted
deriving DecidableEq, Repr

/-- What a key of an open table leads to: a value, a table, or a list of tables. -/
inductive Node where
  | value (value : Value)
  | table (origin : Origin) (entries : List (String × Node))
  | tables (front : List (List (String × Node))) (last : List (String × Node))
deriving Repr

/-- The entries of an open table. -/
abbrev Entries := List (String × Node)

/-- Set the node of a key. -/
def Entries.set (key : String) (node : Node) (entries : Entries) : Entries :=
  (key, node) :: entries.filter fun entry => entry.1 ≠ key

mutual

/-- The value of a node. -/
def Node.toValue : Node → Value
  | .value v => v
  | .table _ entries => .table (entriesValues entries)
  | .tables front last => .array (tablesValues front ++ [.table (entriesValues last)])

/-- The values of entries. -/
def entriesValues : List (String × Node) → List (String × Value)
  | [] => []
  | (key, node) :: entries => (key, node.toValue) :: entriesValues entries

/-- The values of a list of tables. -/
def tablesValues : List (List (String × Node)) → List Value
  | [] => []
  | entries :: tables => .table (entriesValues entries) :: tablesValues tables

end

/-- Go down a path of keys that headers name, making the tables that are missing, and change what
is there. A list of tables leads to its last table; a value leads nowhere. -/
def Entries.descend (path : List String) (change : Entries → Option Entries) (entries : Entries) :
    Option Entries :=
  match path with
  | [] => change entries
  | key :: path =>
    match entries.lookup key with
    | none => do
      let inner ← Entries.descend path change []
      return entries.set key (.table .passed inner)
    | some (.value _) => none
    | some (.table origin inner) => do
      let inner ← Entries.descend path change inner
      return entries.set key (.table origin inner)
    | some (.tables front last) => do
      let last ← Entries.descend path change last
      return entries.set key (.tables front last)

/-- Set a dotted key. Its tables may only be ones that dotted keys made; `onDotted` tells whether
the last of them is. -/
def Entries.insertDotted (path : List String) (key : String) (value : Value) (onDotted : Bool)
    (entries : Entries) : Option Entries :=
  match path with
  | [] =>
    if onDotted ∧ (entries.lookup key).isNone then some (entries.set key (.value value)) else none
  | next :: path =>
    match entries.lookup next with
    | none => do
      let inner ← Entries.insertDotted path key value true []
      return entries.set next (.table .dotted inner)
    | some (.value _) => none
    | some (.table origin inner) =>
      if origin = .named then none
      else do
        let inner ← Entries.insertDotted path key value (origin = .dotted) inner
        return entries.set next (.table origin inner)
    | some (.tables front last) => do
      let last ← Entries.insertDotted path key value false last
      return entries.set next (.tables front last)

/-- Set the value of a key, which may be dotted. -/
def Entries.insert (path : List String) (key : String) (value : Value) (entries : Entries) :
    Option Entries :=
  Entries.insertDotted path key value true entries

/-- Open the table that a header names; it may only have been passed on the way to others. -/
def Entries.openTable (path : List String) (key : String) (entries : Entries) : Option Entries :=
  entries.descend path fun entries =>
    match entries.lookup key with
    | none => some (entries.set key (.table .named []))
    | some (.table .passed inner) => some (entries.set key (.table .named inner))
    | _ => none

/-- Open one more table of a list that a header names. -/
def Entries.openTables (path : List String) (key : String) (entries : Entries) : Option Entries :=
  entries.descend path fun entries =>
    match entries.lookup key with
    | none => some (entries.set key (.tables [] []))
    | some (.tables front last) => some (entries.set key (.tables (front ++ [last]) []))
    | _ => none

end HostBoard.Toml
