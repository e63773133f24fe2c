import HostBoard.Toml.Scan

/-!
# Dates and times of a TOML text

A date, a time, or a date with a time and perhaps an offset. No setting takes one, so only the
spelling is checked, with the ranges of its numbers.
-/

namespace HostBoard.Toml

/-- A given number of digits. -/
def fixedDigits (count : Nat) : Scan Nat := fun text =>
  let digits := text.take count
  if digits.length = count ∧ digits.all Char.isDigit then
    some (Nat.ofDigitChars 10 digits 0, text.drop count)
  else none

/-- Two digits up to a limit. -/
def twoDigits (least most : Nat) : Scan Nat := fun text =>
  match fixedDigits 2 text with
  | some (n, rest) => if least ≤ n ∧ n ≤ most then some (n, rest) else none
  | none => none

/-- A leap year. -/
def isLeapYear (year : Nat) : Bool :=
  year % 4 = 0 && (year % 100 ≠ 0 || year % 400 = 0)

/-- The number of days in a month. -/
def daysIn (year month : Nat) : Nat :=
  if month = 2 then (if isLeapYear year then 29 else 28)
  else if month = 4 ∨ month = 6 ∨ month = 9 ∨ month = 11 then 30
  else 31

/-- A date. -/
def date (text : List Char) : Option (List Char) := do
  let (year, rest) ← fixedDigits 4 text
  let rest ← expect ['-'] rest
  let (month, rest) ← twoDigits 1 12 rest
  let rest ← expect ['-'] rest
  let (_, rest) ← twoDigits 1 (daysIn year month) rest
  return rest

/-- The fraction of a second, if there is one. -/
def secondFraction (text : List Char) : List Char :=
  match text with
  | '.' :: d :: rest => if d.isDigit then rest.dropWhile Char.isDigit else text
  | _ => text

/-- A time of day; a minute may have a leap second. -/
def time (text : List Char) : Option (List Char) := do
  let (_, rest) ← twoDigits 0 23 text
  let rest ← expect [':'] rest
  let (_, rest) ← twoDigits 0 59 rest
  let rest ← expect [':'] rest
  let (_, rest) ← twoDigits 0 60 rest
  return secondFraction rest

/-- An offset from universal time. -/
def offset (text : List Char) : Option (List Char) :=
  match text with
  | [] => none
  | c :: rest =>
    if c = 'Z' ∨ c = 'z' then some rest
    else if c = '+' ∨ c = '-' then do
      let (_, rest) ← twoDigits 0 23 rest
      let rest ← expect [':'] rest
      let (_, rest) ← twoDigits 0 59 rest
      return rest
    else none

/-- A time behind a date, if there is one. -/
def timeBehindDate (text : List Char) : List Char :=
  match text with
  | [] => []
  | c :: rest =>
    if c = 'T' ∨ c = 't' ∨ c = ' ' then
      match time rest with
      | some rest => (offset rest).getD rest
      | none => text
    else text

/-- A date, a time, or both. -/
def moment : Scan Unit := fun text =>
  match date text with
  | some rest => some ((), timeBehindDate rest)
  | none => (time text).map ((), ·)

end HostBoard.Toml
