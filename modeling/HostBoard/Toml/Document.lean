import HostBoard.Toml.Reader

/-!
# TOML documents

A document is a list of lines: headers, which say in which table the following keys stand, keys
with their values, comments and empty lines. Every key and every table may be defined once.
-/

namespace HostBoard.Toml

/-- What a document says at one place. -/
inductive Statement where
  | table (path : List String) (name : String)
  | tables (path : List String) (name : String)
  | entry (path : List String) (name : String) (value : Value)
  | nothing

/-- A header behind its brackets; its name stands before as many brackets again. -/
def header (brackets : List Char) : Scan (List String × String) := fun text => do
  let (name, rest) ← key text
  let rest ← expect brackets rest
  let rest ← endOfLine rest
  return (name, rest)

/-- One statement with the end of its line. -/
def statement : Scan Statement := fun text =>
  match text with
  | [] => none
  | '[' :: '[' :: rest =>
    (header [']', ']'] rest).map fun ((path, name), rest) => (.tables path name, rest)
  | '[' :: rest => (header [']'] rest).map fun ((path, name), rest) => (.table path name, rest)
  | '#' :: _ => (lineEnd (skipComment text)).map (.nothing, ·)
  | '\n' :: rest => some (.nothing, rest)
  | '\r' :: _ => (lineBreak text).map (.nothing, ·)
  | text => do
    let ((path, name, v), rest) ← keyValue (value nestingLimit) text
    let rest ← endOfLine rest
    return (.entry path name v, rest)

/-- The statements of a document, if all of it can be read. -/
def statements (text : List Char) : Option (List Statement) :=
  let (read, rest) := many (fun text => statement (skipBlanks text)) text
  if (skipBlanks rest).isEmpty then some read else none

/-- The tables read so far, and the table in which keys stand. -/
structure Reading where
  entries : Entries
  current : List String

/-- What a statement adds to what was read. -/
def Reading.follow (r : Reading) : Statement → Option Reading
  | .table path name => do
    return ⟨← r.entries.openTable path name, path ++ [name]⟩
  | .tables path name => do
    return ⟨← r.entries.openTables path name, path ++ [name]⟩
  | .entry path name v => do
    let entries ← r.entries.descend r.current (Entries.insert path name v)
    return { r with entries := entries }
  | .nothing => some r

/-- A mark for the order of octets, which may stand in front of a document. -/
def dropByteOrderMark : List Char → List Char
  | '\uFEFF' :: text => text
  | text => text

/-- Read a document: the entries of its root table. -/
def parse (text : String) : Option (List (String × Value)) := do
  let read ← statements (dropByteOrderMark text.toList)
  let reading ← read.foldlM Reading.follow ⟨[], []⟩
  return entriesValues reading.entries

end HostBoard.Toml
