import HostBoard.Url.Ipv4

/-!
# IPv6 addresses

Eight pieces of sixteen bits. One run of zero pieces may be left out between two colons, and the
last two pieces may be written as an IPv4 address. In writing, the first of the longest runs of at
least two zero pieces is left out.
-/

namespace HostBoard.Url

/-- One piece: one to four hexadecimal digits. -/
def piece? (group : List Char) : Option Nat :=
  if group.isEmpty ∨ 4 < group.length then none else Text.digitsValue? 16 group

/-- A number of an embedded IPv4 address: decimal, up to 255, without leading zeros. -/
def embeddedNumber? (digits : List Char) : Option Nat :=
  if digits.isEmpty ∨ 3 < digits.length then none
  else if digits.head? = some '0' ∧ digits.length ≠ 1 then none
  else
    match Text.digitsValue? 10 digits with
    | some n => if n ≤ 255 then some n else none
    | none => none

/-- An embedded IPv4 address as two pieces. -/
def embedded? (group : List Char) : Option (List Nat) :=
  match (splitAt '.' group).mapM embeddedNumber? with
  | some [a, b, c, d] => some [a * 256 + b, c * 256 + d]
  | _ => none

/-- The pieces of groups; only the last group of an address may be an IPv4 address. -/
def pieces? (atEnd : Bool) : List (List Char) → Option (List Nat)
  | [] => some []
  | [group] =>
    if atEnd ∧ group.contains '.' then embedded? group
    else (piece? group).map ([·])
  | group :: groups => do
    let p ← piece? group
    let ps ← pieces? atEnd groups
    return p :: ps

/-- The pieces of a part of an address, which may be empty. -/
def part? (atEnd : Bool) (text : List Char) : Option (List Nat) :=
  if text.isEmpty then some [] else pieces? atEnd (splitAt ':' text)

/-- Split at the first pair of colons. -/
def splitAtGap : List Char → Option (List Char × List Char)
  | ':' :: ':' :: text => some ([], text)
  | c :: text => (splitAtGap text).map fun (front, back) => (c :: front, back)
  | [] => none

/-- The eight pieces of an address. -/
def ipv6Pieces? (text : List Char) : Option (List Nat) :=
  match splitAtGap text with
  | none => do
    let pieces ← part? true text
    if pieces.length = 8 then some pieces else none
  | some (front, back) => do
    let front ← part? false front
    let back ← part? true back
    if front.length + back.length ≤ 7 then
      some (front ++ List.replicate (8 - front.length - back.length) 0 ++ back)
    else none

/-- Read an IPv6 address. -/
def parseIpv6 (text : List Char) : Except UrlError (List Nat) :=
  match ipv6Pieces? text with
  | some pieces => .ok pieces
  | none => .error .badIpv6

/-- The number of zero pieces at the start. -/
def zeroRun (pieces : List Nat) : Nat :=
  (pieces.takeWhile (· = 0)).length

/-- Where the first of the longest runs of zero pieces starts, and its length. -/
def longestRun (pieces : List Nat) : Nat × Nat :=
  (List.range pieces.length).foldl (fun best i =>
    let run := zeroRun (pieces.drop i)
    if best.2 < run then (i, run) else best) (0, 0)

/-- Pieces with colons between them. -/
def piecesText (pieces : List Nat) : String :=
  ":".intercalate (pieces.map fun p => String.ofList (Nat.toDigits 16 p))

/-- An IPv6 address between brackets. -/
def ipv6Text (pieces : List Nat) : String :=
  let (start, length) := longestRun pieces
  if length < 2 then "[" ++ piecesText pieces ++ "]"
  else "[" ++ piecesText (pieces.take start) ++ "::" ++ piecesText (pieces.drop (start + length)) ++ "]"

end HostBoard.Url
