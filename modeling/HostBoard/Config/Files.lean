import HostBoard.Text.Utf8

/-!
# Files

A directory with files and further directories, and how a path is followed in it. Nothing is known
of what lies above the directory in which the program runs, so it counts as empty.
-/

namespace HostBoard

/-- A file with its octets, or a directory. -/
inductive FileNode where
  | file (octets : List UInt8)
  | directory (entries : List (String × FileNode))

/-- The entries of a directory. -/
abbrev Directory := List (String × FileNode)

/-- Why a file cannot be read: there is none, or any other reason. -/
inductive ReadError where
  | notFound
  | unreadable
deriving DecidableEq, Repr

/-- Something that may be read by its path. -/
abbrev Files := String → Except ReadError (List UInt8)

namespace Directory

/-- How many octets a name may have. -/
def nameLimit : Nat := 255

/-- How many octets a path may have. -/
def pathLimit : Nat := 4095

/-- Where a path has led: into a directory, with the ones above it, or to a file. -/
inductive Place where
  | inside (current : Directory) (above : List Directory)
  | atFile (octets : List UInt8)

/-- Follow one part of a path. A file has no parts. -/
def step (place : Place) (name : String) : Except ReadError Place :=
  match place with
  | .atFile _ => .error .unreadable
  | .inside current above =>
    if name = "" ∨ name = "." then .ok place
    else if name = ".." then .ok (.inside (above.headD []) above.tail)
    else if nameLimit < name.utf8ByteSize then .error .unreadable
    else
      match current.lookup name with
      | none => .error .notFound
      | some (.file octets) => .ok (.atFile octets)
      | some (.directory entries) => .ok (.inside entries (current :: above))

/-- The parts of a path. -/
def parts (path : String) : List String :=
  (path.toList.splitOn '/').map String.ofList

/-- Read the file that a path leads to. -/
def read (directory : Directory) : Files := fun path =>
  if path = "" then .error .notFound
  else if pathLimit < path.utf8ByteSize then .error .unreadable
  else
    match (parts path).foldlM step (.inside directory []) with
    | .ok (.atFile octets) => .ok octets
    | .ok (.inside _ _) => .error .unreadable
    | .error e => .error e

end Directory

/-- Read a file as text, all of whose octets must spell characters. -/
def Files.text (files : Files) (path : String) : Except ReadError String :=
  match files path with
  | .error e => .error e
  | .ok octets =>
    match Text.ofOctets? octets with
    | some text => .ok text
    | none => .error .unreadable

end HostBoard
