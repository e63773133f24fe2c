import HostBoard.Decimal.Layout
import HostBoard.Json.Basic

/-!
# Compact JSON text

The one-line text of a JSON value, without blanks. A string escapes the quote, the backslash and
the control characters, and nothing else. A double is written in its shortest digits, positionally
as long as its point stands among sixteen digits or behind at most four leading zeros.
-/

namespace HostBoard

namespace Json

/-- Doubles from `0.00001` to below `10 ^ 16` are written positionally. -/
def layout : Layout := ⟨-4, 16⟩

/-- How one character stands in a JSON string. -/
def escapedChar (c : Char) : List Char :=
  match c with
  | '"' => ['\\', '"']
  | '\\' => ['\\', '\\']
  | '\x08' => ['\\', 'b']
  | '\t' => ['\\', 't']
  | '\n' => ['\\', 'n']
  | '\x0c' => ['\\', 'f']
  | '\r' => ['\\', 'r']
  | c =>
    if c.toNat < 0x20 then
      ['\\', 'u', '0', '0', Nat.digitChar (c.toNat / 16), Nat.digitChar (c.toNat % 16)]
    else [c]

/-- A JSON string with its quotes. -/
def stringChars (text : String) : List Char :=
  '"' :: (text.toList.flatMap escapedChar ++ ['"'])

/-- A whole number, with a minus sign if it is negative. -/
def intChars (n : Int) : List Char :=
  if n < 0 then '-' :: Nat.toDigits 10 n.natAbs else Nat.toDigits 10 n.natAbs

/-- The text of a number. -/
def numberChars : Number → List Char
  | .int n => intChars n
  | .float x => layout.double x

mutual

/-- The compact text of a value, as characters. -/
def chars : Json → List Char
  | .null => ['n', 'u', 'l', 'l']
  | .bool true => ['t', 'r', 'u', 'e']
  | .bool false => ['f', 'a', 'l', 's', 'e']
  | .number n => numberChars n
  | .string s => stringChars s
  | .array items => '[' :: itemsChars items
  | .object members => '\x7b' :: membersChars members

/-- The items of an array and its closing bracket. -/
def itemsChars : List Json → List Char
  | [] => [']']
  | v :: items => chars v ++ moreItemsChars items

/-- The items behind the first, each behind a comma, and the closing bracket. -/
def moreItemsChars : List Json → List Char
  | [] => [']']
  | v :: items => ',' :: (chars v ++ moreItemsChars items)

/-- The members of an object and its closing brace. -/
def membersChars : List (String × Json) → List Char
  | [] => ['\x7d']
  | (key, v) :: members => stringChars key ++ ':' :: (chars v ++ moreMembersChars members)

/-- The members behind the first, each behind a comma, and the closing brace. -/
def moreMembersChars : List (String × Json) → List Char
  | [] => ['\x7d']
  | (key, v) :: members => ',' :: (stringChars key ++ ':' :: (chars v ++ moreMembersChars members))

end

/-- The compact text of a value. -/
def compact (v : Json) : String :=
  String.ofList v.chars

/-- The text shown for a value: a string as it is, anything else as compact JSON. -/
def shown : Json → String
  | .string s => s
  | v => v.compact

end Json

end HostBoard
