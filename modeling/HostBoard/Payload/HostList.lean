import HostBoard.Payload.Basic

/-!
# The host list

Each entry of the host list carries links, of which only the one to the host itself is read.
-/

namespace HostBoard

/-- An entry of the host list: the address of the host's own resource. -/
structure HostEntry where
  href : String
deriving DecidableEq, Repr

namespace HostEntry

/-- A record with a single field, which holds an address or leads to one. -/
def wrapper (label name : String) (inner : Json.Reader String) :
    Json.Shape (Option String) String where
  label := label
  fields := [{
    name := name
    optional := false
    isSet := Option.isSome
    read := fun budget _ c => do
      let (href, c) ← inner budget c
      return (some href, c) }]
  empty := none
  finish
    | none => .error name
    | some href => .ok href

/-- A link holds an address. -/
def link : Json.Shape (Option String) String :=
  wrapper "Link" "href" Json.text

/-- The links of an entry hold one to the entry itself. -/
def links : Json.Shape (Option String) String :=
  wrapper "Links" "self" link.read

/-- An entry holds its links. -/
def entry : Json.Shape (Option String) String :=
  wrapper "HostListEntry" "_links" links.read

/-- Read an entry. -/
def read : Json.Reader HostEntry := fun budget c => do
  let (href, c) ← entry.read budget c
  return (⟨href⟩, c)

/-- Decode a host list. -/
def decodeList (url body : String) : Except DecodeError (List HostEntry) :=
  Payload.decode (Json.list read) url body

/-- The JSON value of an entry. -/
def toJson (e : HostEntry) : Json :=
  .object [("_links", .object [("self", .object [("href", .string e.href)])])]

/-- The JSON value of a host list. -/
def listToJson (entries : List HostEntry) : Json :=
  .array (entries.map toJson)

end HostEntry

end HostBoard
