/-!
# Scanning a TOML text

A scanner takes a text to a result and to the rest of the text, or refuses it. Why a text is
refused is never shown to anyone, so a refusal says nothing.
-/

namespace HostBoard.Toml

/-- A scanner: what was read and what is left. -/
abbrev Scan (α : Type) := List Char → Option (α × List Char)

/-- Scan as often as possible, at most a given number of times. -/
def repeatUpTo {α : Type} (scan : Scan α) : Nat → List Char → List α × List Char
  | 0, text => ([], text)
  | n + 1, text =>
    match scan text with
    | none => ([], text)
    | some (a, rest) =>
      let (as, rest) := repeatUpTo scan n rest
      (a :: as, rest)

/-- Scan as often as possible, with a scanner that takes at least one character each time. -/
def many {α : Type} (scan : Scan α) (text : List Char) : List α × List Char :=
  repeatUpTo scan text.length text

/-- Take given characters away, if the text starts with them. -/
def expect : List Char → List Char → Option (List Char)
  | [], text => some text
  | _ :: _, [] => none
  | e :: expected, c :: text => if c = e then expect expected text else none

/-- A blank within a line. -/
def isBlank (c : Char) : Bool :=
  c = ' ' || c = '\t'

/-- What is left behind the blanks. -/
def skipBlanks (text : List Char) : List Char :=
  text.dropWhile isBlank

/-- A character that may stand in a comment: no control character but the tab. -/
def isCommentChar (c : Char) : Bool :=
  c = '\t' || (0x20 ≤ c.toNat && c.toNat ≠ 0x7f)

/-- Take a line break away. -/
def lineBreak : List Char → Option (List Char)
  | '\n' :: text => some text
  | '\r' :: '\n' :: text => some text
  | _ => none

/-- What is left behind a comment, if there is one. -/
def skipComment (text : List Char) : List Char :=
  match text with
  | '#' :: text => text.dropWhile isCommentChar
  | text => text

/-- The end of a line: a line break or the end of the text. -/
def lineEnd (text : List Char) : Option (List Char) :=
  if text.isEmpty then some [] else lineBreak text

/-- What may follow at the end of a line: blanks and a comment. -/
def endOfLine (text : List Char) : Option (List Char) :=
  lineEnd (skipComment (skipBlanks text))

/-- One blank, line break or commented line. -/
def gap : Scan Unit := fun text =>
  match text with
  | [] => none
  | c :: rest =>
    if isBlank c then some ((), rest)
    else (lineBreak (skipComment (c :: rest))).map ((), ·)

/-- What is left behind blanks, line breaks and comments. -/
def skipGaps (text : List Char) : List Char :=
  (many gap text).2

end HostBoard.Toml
