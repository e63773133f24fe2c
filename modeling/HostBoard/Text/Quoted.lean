import HostBoard.Text.Extending

/-!
# Quoted text

A text between double quotes, written so that every character of it can be told apart on a page:
quotes, backslashes and line breaks are escaped, and so is every character that has no visible
form of its own. The apostrophe stands as it is.
-/

namespace HostBoard.Text

/-- A code point between braces, in lower-case hexadecimal digits. -/
def codePoint (c : Char) : List Char :=
  '\\' :: 'u' :: '\x7b' :: (Nat.toDigits 16 c.toNat ++ ['\x7d'])

/-- How one character stands in a quoted text. -/
def quotedChar (c : Char) : List Char :=
  match c with
  | '"' => ['\\', '"']
  | '\\' => ['\\', '\\']
  | '\n' => ['\\', 'n']
  | '\r' => ['\\', 'r']
  | '\t' => ['\\', 't']
  | '\x00' => ['\\', '0']
  | c => if isExtending c || isUnprintable c then codePoint c else [c]

/-- The text between double quotes, with its special characters escaped. -/
def quoted (text : String) : String :=
  String.ofList ('"' :: (text.toList.flatMap quotedChar ++ ['"']))

end HostBoard.Text
