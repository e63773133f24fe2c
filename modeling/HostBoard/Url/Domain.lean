import HostBoard.Url.Ipv4

/-!
# Domains

A domain is written in ASCII. A plain one stays as it is, in lower case; every other one, with a
character outside ASCII or with a label that stands for an international one, is written as the
tables of international names say. These tables are not part of the library but given to whatever
reads a domain, and nothing is assumed of them.
-/

namespace HostBoard

/-- The tables of international domain names: how a name that is not plain, given by its octets, is
written in ASCII, if it is a name at all. -/
abbrev Idna := List UInt8 → Option (List Char)

/-- Tables without any name in them. -/
def Idna.asciiOnly : Idna :=
  fun _ => none

namespace Url

/-- A character that no domain may hold. -/
def isForbidden (c : Char) : Bool :=
  isControl c || isWide c ||
    [' ', '#', '%', '/', ':', '<', '>', '?', '@', '[', '\\', ']', '^', '|'].contains c

/-- The label stands for an international one. -/
def isInternational (label : List Char) : Bool :=
  (label.take 4).map Char.toLower = ['x', 'n', '-', '-']

/-- The name is in ASCII, and so is what each of its labels stands for. -/
def isPlain (name : List Char) : Bool :=
  name.all (fun c => !isWide c) && (splitAt '.' name).all fun label => !isInternational label

/-- Write a domain in ASCII, unless it then holds a character that no domain may hold. -/
def domain? (idna : Idna) (octets : List UInt8) : Option (List Char) :=
  let name := octets.map fun o => Char.ofNat o.toNat
  let written := if isPlain name then some (name.map Char.toLower) else idna octets
  written.filter fun domain => !domain.any isForbidden

end Url

end HostBoard
