import HostBoard.Text.Digits
import HostBoard.Text.Utf8

/-!
# Percent-encoding

A character that may not stand in a part of an address is written as its octets, each a percent
sign and two upper-case hexadecimal digits. Every part has its own set of such characters; the
control characters and everything outside ASCII belong to all of them.
-/

namespace HostBoard.Url

/-- Control characters, the delete character included. -/
def isControl (c : Char) : Bool :=
  c.toNat < 0x20 || c.toNat = 0x7f

/-- A character outside ASCII. -/
def isWide (c : Char) : Bool :=
  0x80 ≤ c.toNat

/-- What is encoded everywhere. -/
def alwaysEncoded (c : Char) : Bool :=
  isControl c || isWide c

/-- What is encoded in a fragment. -/
def inFragment (c : Char) : Bool :=
  alwaysEncoded c || [' ', '"', '<', '>', '\x60'].contains c

/-- What is encoded in a path. -/
def inPath (c : Char) : Bool :=
  inFragment c || ['#', '?', '\x7b', '\x7d'].contains c

/-- What is encoded in a user name or password. -/
def inUserinfo (c : Char) : Bool :=
  inPath c || ['/', ':', ';', '=', '@', '[', '\\', ']', '^', '|'].contains c

/-- What is encoded in a query; the schemes of the web also encode the apostrophe. -/
def inQuery (special : Bool) (c : Char) : Bool :=
  alwaysEncoded c || [' ', '"', '#', '<', '>'].contains c || (special && c = '\x27')

/-- The upper-case hexadecimal digit of a value. -/
def hexUpper (n : Nat) : Char :=
  (Nat.digitChar n).toUpper

/-- An octet as a percent sign and two digits. -/
def encodeOctet (o : UInt8) : List Char :=
  ['%', hexUpper (o.toNat / 16), hexUpper (o.toNat % 16)]

/-- A character as the percent signs of its octets. -/
def encodeChar (c : Char) : List Char :=
  (Text.octets (String.singleton c)).flatMap encodeOctet

/-- Encode the characters of a set. -/
def percentEncode (set : Char → Bool) (text : List Char) : List Char :=
  text.flatMap fun c => if set c then encodeChar c else [c]

/-- Undo percent-encoding; a percent sign without two digits stands for itself. -/
def percentDecode : List Char → List UInt8
  | '%' :: a :: b :: text =>
    match Text.digitsValue? 16 [a, b] with
    | some n => n.toUInt8 :: percentDecode text
    | none => 0x25 :: percentDecode (a :: b :: text)
  | c :: text => Text.octets (String.singleton c) ++ percentDecode text
  | [] => []

end HostBoard.Url
