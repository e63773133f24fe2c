import HostBoard.Url.Error
import HostBoard.Url.Percent

/-!
# IPv4 addresses

A host whose last label is a number is an IPv4 address. Up to four numbers are written in decimal,
octal or hexadecimal digits; the last number fills all octets that the others leave.
-/

namespace HostBoard.Url

/-- Split at every occurrence of a character. -/
def splitAt (sep : Char) : List Char → List (List Char)
  | [] => [[]]
  | c :: text =>
    if c = sep then [] :: splitAt sep text
    else
      match splitAt sep text with
      | [] => [[c]]
      | part :: parts => (c :: part) :: parts

/-- The value of a number of an address: `0x` starts hexadecimal and `0` octal digits. -/
def ipv4Number? (digits : List Char) : Option Nat :=
  match digits with
  | [] => none
  | '0' :: 'x' :: digits => Text.digitsValue? 16 digits
  | '0' :: 'X' :: digits => Text.digitsValue? 16 digits
  | '0' :: d :: digits => Text.digitsValue? 8 (d :: digits)
  | digits => Text.digitsValue? 10 digits

/-- The labels of a domain, without the empty one behind a closing dot. -/
def labels (domain : List Char) : List (List Char) :=
  let parts := splitAt '.' domain
  if parts.length ≠ 1 ∧ parts.getLast? = some [] then parts.dropLast else parts

/-- The last label is a number, so that the domain must be an IPv4 address. -/
def endsInNumber (domain : List Char) : Bool :=
  match (labels domain).getLast? with
  | none => false
  | some last => (!last.isEmpty && last.all Char.isDigit) || (ipv4Number? last).isSome

/-- Put the numbers of an address together; the last fills the octets that are left. -/
def ipv4Value? (numbers : List Nat) : Option Nat :=
  let first := numbers.dropLast
  let last := numbers.getLast?.getD 0
  if numbers.isEmpty ∨ 4 < numbers.length then none
  else if first.any (255 < ·) then none
  else if Nat.pow 256 (4 - first.length) ≤ last then none
  else some (first.zipIdx.foldl (fun sum (n, i) => sum + n * Nat.pow 256 (3 - i)) last)

/-- Read an IPv4 address. -/
def parseIpv4 (domain : List Char) : Except UrlError Nat :=
  match (labels domain).mapM ipv4Number? >>= ipv4Value? with
  | some address => .ok address
  | none => .error .badIpv4

/-- An IPv4 address as four decimal numbers. -/
def ipv4Text (address : Nat) : String :=
  ".".intercalate ((List.range 4).map fun i => toString (address / Nat.pow 256 (3 - i) % 256))

end HostBoard.Url
