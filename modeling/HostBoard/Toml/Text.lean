import HostBoard.Text.Digits
import HostBoard.Toml.Scan

/-!
# Strings of a TOML text

Strings stand between quotation marks, with escapes, or between apostrophes, without. Three marks
in a row open a string of several lines; a line break right behind them does not count, and one or
two marks may stand within it and before its end.
-/

namespace HostBoard.Toml

/-- A character that stands for itself in any string: no control character but the tab. -/
def isPlain (c : Char) : Bool :=
  isCommentChar c

/-- The character with the code that a number of hexadecimal digits gives. -/
def hexEscape (count : Nat) : Scan Char := fun text => do
  let digits := text.take count
  if digits.length ≠ count then none
  else
    let n ← Text.digitsValue? 16 digits
    if n.isValidChar then some (Char.ofNat n, text.drop count) else none

/-- An escape behind its backslash. -/
def escape : Scan Char := fun text =>
  match text with
  | 'b' :: rest => some ('\x08', rest)
  | 't' :: rest => some ('\t', rest)
  | 'n' :: rest => some ('\n', rest)
  | 'f' :: rest => some ('\x0c', rest)
  | 'r' :: rest => some ('\r', rest)
  | '"' :: rest => some ('"', rest)
  | '\\' :: rest => some ('\\', rest)
  | 'u' :: rest => hexEscape 4 rest
  | 'U' :: rest => hexEscape 8 rest
  | _ => none

/-- A character of a string between quotation marks. -/
def basicChar : Scan Char := fun text =>
  match text with
  | [] => none
  | c :: rest =>
    if c = '\\' then escape rest
    else if c = '"' then none
    else if isPlain c then some (c, rest)
    else none

/-- A character of a string between apostrophes. -/
def literalChar : Scan Char := fun text =>
  match text with
  | [] => none
  | c :: rest => if c ≠ '\x27' ∧ isPlain c then some (c, rest) else none

/-- A string of one line: characters between two marks, the first of which is already gone. -/
def singleLine (char : Scan Char) (mark : Char) : Scan String := fun text =>
  let (chars, rest) := many char text
  (expect [mark] rest).map (String.ofList chars, ·)

/-- A backslash at the end of a line, with all blanks and line breaks that follow it. -/
def joinedLines (text : List Char) : Option (List Char) :=
  match text with
  | '\\' :: rest => do
    let rest ← lineBreak (skipBlanks rest)
    return (many (fun text =>
      match text with
      | [] => none
      | c :: rest => if isBlank c then some ((), rest) else (lineBreak text).map ((), ·)) rest).2
  | _ => none

/-- What one place of a string of several lines contributes: a line break, a joint of lines, or a
character that is read as in a string of one line. -/
def multiLineChar (char : Scan Char) (joins : Bool) : Scan (List Char) := fun text =>
  match lineBreak text with
  | some rest => some (['\n'], rest)
  | none =>
    match if joins then joinedLines text else none with
    | some rest => some ([], rest)
    | none => (char text).map fun (c, rest) => ([c], rest)

/-- How many marks stand at the start, counted up to six. -/
def markRun (mark : Char) (text : List Char) : Nat :=
  ((text.take 6).takeWhile (· = mark)).length

/-- One or two marks within a string of several lines; something else must follow them. -/
def innerMarks (mark : Char) (text : List Char) : Option (List Char × List Char) :=
  let n := markRun mark text
  if 0 < n ∧ n < 3 ∧ n < text.length then some (List.replicate n mark, text.drop n) else none

/-- One place of a string of several lines. -/
def multiLinePart (char : Scan Char) (joins : Bool) (mark : Char) : Scan (List Char) := fun text =>
  match multiLineChar char joins text with
  | some part => some part
  | none => innerMarks mark text

/-- The end of a string of several lines: three marks, before which two more may stand. -/
def multiLineEnd (mark : Char) : Scan (List Char) := fun text =>
  let n := markRun mark text
  if 3 ≤ n then
    let inner := min (n - 3) 2
    some (List.replicate inner mark, text.drop (inner + 3))
  else none

/-- A string of several lines, the first three marks of which are already gone. -/
def multiLine (char : Scan Char) (joins : Bool) (mark : Char) : Scan String := fun text =>
  let text := (lineBreak text).getD text
  let (parts, rest) := many (multiLinePart char joins mark) text
  (multiLineEnd mark rest).map fun (inner, rest) => (String.ofList (parts.flatten ++ inner), rest)

/-- A string on one line, as keys are written. -/
def lineString : Scan String := fun text =>
  match text with
  | '"' :: rest => singleLine basicChar '"' rest
  | '\x27' :: rest => singleLine literalChar '\x27' rest
  | _ => none

/-- Any string. -/
def string : Scan String := fun text =>
  match text with
  | '"' :: '"' :: '"' :: rest => multiLine basicChar true '"' rest
  | '\x27' :: '\x27' :: '\x27' :: rest => multiLine literalChar false '\x27' rest
  | text => lineString text

end HostBoard.Toml
