import HostBoard.Toml.Moment
import HostBoard.Toml.Number
import HostBoard.Toml.Table

/-!
# Reading keys and values

Arrays may go over several lines and may end in a comma; tables within a line may not. Both may be
nested up to a budget, which is handed down: what is inside has one less.
-/

namespace HostBoard.Toml

/-- How many arrays and tables within lines may be open at once. -/
def nestingLimit : Nat := 79

/-- How many parts a dotted key may have. -/
def keyLimit : Nat := 79

/-- A character of a key without quotes. -/
def isBareKeyChar (c : Char) : Bool :=
  c.isAlphanum || c = '_' || c = '-'

/-- One part of a key. -/
def simpleKey : Scan String := fun text =>
  match text.takeWhile isBareKeyChar with
  | [] => lineString text
  | name => some (String.ofList name, text.dropWhile isBareKeyChar)

/-- One part of a key with the blanks around it. -/
def paddedKey : Scan String := fun text =>
  (simpleKey (skipBlanks text)).map fun (key, rest) => (key, skipBlanks rest)

/-- A key: parts with dots between them, given as all but the last and the last. -/
def key : Scan (List String × String) := fun text => do
  let (first, rest) ← paddedKey text
  let (more, rest) := many (fun text => expect ['.'] text >>= paddedKey) rest
  let parts := first :: more
  if keyLimit < parts.length then none
  else return ((parts.dropLast, parts.getLastD first), rest)

/-- A key, the sign of equality and a value. -/
def keyValue (value : Scan Value) : Scan (List String × String × Value) := fun text => do
  let ((path, name), rest) ← key text
  let rest ← expect ['='] rest
  let (v, rest) ← value (skipBlanks rest)
  return ((path, name, v), rest)

/-- An item of an array behind a comma. -/
def moreItems (value : Scan Value) : Scan Value := fun text => do
  let rest ← expect [','] (skipGaps text)
  value (skipGaps rest)

/-- The items of an array behind its bracket. -/
def array (value : Scan Value) : Scan Value := fun text =>
  let text := skipGaps text
  match value text with
  | none => (expect [']'] text).map (.array [], ·)
  | some (first, rest) => do
    let (more, rest) := many (moreItems value) rest
    let rest := skipGaps rest
    let rest ← expect [']'] (skipGaps ((expect [','] rest).getD rest))
    return (.array (first :: more), rest)

/-- An entry of a table within a line, behind a comma. -/
def moreEntries (value : Scan Value) : Scan (List String × String × Value) := fun text => do
  let rest ← expect [','] (skipBlanks text)
  keyValue value rest

/-- Put entries together. -/
def collect (entries : List (List String × String × Value)) : Option Entries :=
  entries.foldlM (fun read (path, name, v) => Entries.insert path name v read) []

/-- The entries of a table within a line, behind its brace. -/
def inlineTable (value : Scan Value) : Scan Value := fun text =>
  match keyValue value text with
  | none => (expect ['\x7d'] (skipBlanks text)).map (.table [], ·)
  | some (first, rest) => do
    let (more, rest) := many (moreEntries value) rest
    let entries ← collect (first :: more)
    let rest ← expect ['\x7d'] (skipBlanks rest)
    return (.table (entriesValues entries), rest)

/-- A number, a date or a time. -/
def numeric : Scan Value := fun text =>
  match moment text with
  | some (_, rest) => some (.moment, rest)
  | none =>
    match (float text).or (specialFloat text) with
    | some (_, rest) => some (.float, rest)
    | none => (integer text).map fun (n, rest) => (.integer n, rest)

/-- A value that holds no others. -/
def simpleValue : Scan Value := fun text =>
  match text with
  | 't' :: rest => (expect ['r', 'u', 'e'] rest).map (.boolean true, ·)
  | 'f' :: rest => (expect ['a', 'l', 's', 'e'] rest).map (.boolean false, ·)
  | '"' :: _ => (string text).map fun (s, rest) => (.string s, rest)
  | '\x27' :: _ => (string text).map fun (s, rest) => (.string s, rest)
  | text => numeric text

/-- A value, given how many arrays and tables may still be opened. -/
def value : Nat → Scan Value
  | budget, text =>
    match text with
    | '[' :: rest =>
      match budget with
      | 0 => none
      | budget + 1 => array (value budget) rest
    | '\x7b' :: rest =>
      match budget with
      | 0 => none
      | budget + 1 => inlineTable (value budget) rest
    | text => simpleValue text

end HostBoard.Toml
