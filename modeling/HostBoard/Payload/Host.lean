import HostBoard.Payload.Basic

/-!
# Host descriptors

The resource of one managed host: its name, its status, and the locations it serves. A host that
serves none may leave them out.
-/

namespace HostBoard

/-- Served locations, in ascending order, each with a path or with its configuration. -/
abbrev Paths := List (String × Json)

/-- The compact JSON text of served locations. -/
def Paths.text (paths : Paths) : String :=
  (Json.object paths).compact

/-- One managed host. -/
structure HostDescriptor where
  name : String
  status : String
  paths : Paths
deriving Repr

namespace HostDescriptor

/-- The fields of a descriptor that have been read. -/
structure Draft where
  name : Option String
  status : Option String
  paths : Option Paths

/-- The name of a host. -/
def nameField : Json.Field Draft where
  name := "name"
  optional := false
  isSet draft := draft.name.isSome
  read budget draft c := do
    let (v, c) ← Json.text budget c
    return ({ draft with name := some v }, c)

/-- The status of a host. -/
def statusField : Json.Field Draft where
  name := "status"
  optional := false
  isSet draft := draft.status.isSome
  read budget draft c := do
    let (v, c) ← Json.text budget c
    return ({ draft with status := some v }, c)

/-- The served locations of a host. -/
def pathsField : Json.Field Draft where
  name := "paths"
  optional := true
  isSet draft := draft.paths.isSome
  read budget draft c := do
    let (v, c) ← Json.mapping Json.value budget c
    return ({ draft with paths := some v }, c)

/-- Descriptors have a name and a status, and may have served locations. -/
def shape : Json.Shape Draft HostDescriptor where
  label := "HostDescriptor"
  fields := [nameField, statusField, pathsField]
  empty := ⟨none, none, none⟩
  finish
    | ⟨none, _, _⟩ => .error "name"
    | ⟨some _, none, _⟩ => .error "status"
    | ⟨some name, some status, paths⟩ => .ok ⟨name, status, paths.getD []⟩

/-- Decode a descriptor. -/
def decode (url body : String) : Except DecodeError HostDescriptor :=
  Payload.decode shape.read url body

/-- The JSON value of a descriptor, with its fields in order. -/
def toJson (host : HostDescriptor) : Json :=
  .object [("name", .string host.name), ("status", .string host.status),
    ("paths", .object host.paths)]

end HostDescriptor

end HostBoard
