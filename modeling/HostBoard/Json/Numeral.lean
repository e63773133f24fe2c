import HostBoard.Json.Fault

/-!
# Numbers of a JSON text

A numeral is scanned first and valued afterwards. A whole numeral within the range of 64-bit words
keeps its exact value. Any other becomes a double in two rounded steps: as many leading digits as a
64-bit word holds are taken as one number, and that is multiplied or divided by a power of ten.
-/

namespace HostBoard.Json

/-- The parts of a numeral: its digits, and the sign and digits of its power of ten. -/
structure Numeral where
  negative : Bool
  whole : List Char
  fraction : Option (List Char)
  exponent : Option (Bool × List Char)
deriving DecidableEq, Repr

/-- The greatest unsigned 64-bit word. -/
def maxWord : Nat := Nat.pow 2 64 - 1

/-- The greatest power of ten that is taken at its word. -/
def maxExponent : Nat := Nat.pow 2 31 - 1

/-- Append digits to a number as long as it stays within a limit; the other digits are left. -/
def gather (limit : Nat) : Nat → List Char → Nat × List Char
  | n, [] => (n, [])
  | n, d :: digits =>
    let next := n * 10 + (d.toNat - 48)
    if next ≤ limit then gather limit next digits else (n, d :: digits)

/-- The run of digits at the cursor. -/
def digitRun (c : Cursor) : List Char × Cursor :=
  (c.rest.takeWhile Char.isDigit, c.skipWhile Char.isDigit)

/-- Scan the digits before the point: a single zero, or digits that do not start with zero. -/
def scanWhole (atEnd : Cause) (c : Cursor) : Except Fault (List Char × Cursor) :=
  match c.rest with
  | [] => .error (c.fault atEnd)
  | '0' :: rest =>
    if (rest.head?.map Char.isDigit).getD false then .error (c.eat.faultAhead .badNumber)
    else .ok (['0'], c.eat)
  | d :: _ => if d.isDigit then .ok (digitRun c) else .error (c.faultAhead .badNumber)

/-- Scan a point and the digits behind it, of which there must be one. -/
def scanFraction (atEnd : Cause) (c : Cursor) : Except Fault (Option (List Char) × Cursor) :=
  match c.rest with
  | '.' :: _ =>
    match digitRun c.eat with
    | ([], c) => .error (c.faultAhead (if c.rest.isEmpty then atEnd else .badNumber))
    | (digits, c) => .ok (some digits, c)
  | _ => .ok (none, c)

/-- The sign of a power of ten. -/
def scanSign (c : Cursor) : Bool × Cursor :=
  match c.rest with
  | '-' :: _ => (true, c.eat)
  | '+' :: _ => (false, c.eat)
  | _ => (false, c)

/-- Scan a power of ten: a mark, perhaps a sign, and digits, of which there must be one. -/
def scanExponent (atEnd : Cause) (c : Cursor) : Except Fault (Option (Bool × List Char) × Cursor) :=
  if c.rest.head? = some 'e' ∨ c.rest.head? = some 'E' then
    let (negative, c) := scanSign c.eat
    match digitRun c with
    | ([], c) => .error (c.faultAhead (if c.rest.isEmpty then atEnd else .badNumber))
    | (digits, c) => .ok (some (negative, digits), c)
  else .ok (none, c)

/-- Scan a numeral behind its sign. A text that ends too early has the cause given. -/
def Numeral.scan (atEnd : Cause) (negative : Bool) (c : Cursor) :
    Except Fault (Numeral × Cursor) := do
  let (whole, c) ← scanWhole atEnd c
  let (fraction, c) ← scanFraction atEnd c
  let (exponent, c) ← scanExponent atEnd c
  return (⟨negative, whole, fraction, exponent⟩, c)

namespace Numeral

/-- The leading digits as one number, and the power of ten that the places of the others make. -/
def significand (n : Numeral) : Nat × Int :=
  let (whole, skipped) := gather maxWord 0 n.whole
  let digits := n.fraction.getD []
  let (all, unused) := gather maxWord whole digits
  (all, (skipped.length : Int) - ((digits.length - unused.length : Nat) : Int))

/-- Divide a double by a power of ten, `10 ^ 308` at a time. -/
def scaleDown (x : Binary64) (k : Nat) : Binary64 :=
  if k ≤ 308 then x.div (.pow10 k)
  else if x.isZero then x
  else scaleDown (x.div (.pow10 308)) (k - 308)
termination_by k

/-- A whole number times a power of ten, as a double; none if that is too large. -/
def scale (significand : Nat) (exponent : Int) : Option Binary64 :=
  let x := Binary64.ofNat significand
  if exponent < 0 then some (scaleDown x exponent.natAbs)
  else if exponent ≤ 308 then x.mul (.pow10 exponent.natAbs)
  else if x.isZero then some x
  else none

/-- The double with the sign of a numeral. -/
def signed (n : Numeral) (x : Binary64) : Number :=
  .float (if n.negative then x.neg else x)

/-- The exact value of a whole numeral, or a double where 64-bit words do not reach. -/
def wholeValue (n : Numeral) (value : Nat) : Number :=
  if !n.negative then .int value
  else if 0 < value ∧ value ≤ Nat.pow 2 63 then .int (-value)
  else n.signed (.ofNat value)

/-- How many digits of the power of ten were read when it got too large. -/
def overlong (digits : List Char) : Option Nat :=
  match gather maxExponent 0 digits with
  | (_, []) => none
  | (_, left) => some (digits.length - left.length + 1)

/-- The value of a numeral that ends at the cursor. -/
def value (n : Numeral) (c : Cursor) : Except Fault Number :=
  let (significand, exponent) := n.significand
  match n.fraction, n.exponent with
  | none, none =>
    if exponent = 0 then .ok (n.wholeValue significand)
    else finish (scale significand exponent)
  | _, none => finish (scale significand exponent)
  | _, some (negative, digits) =>
    match overlong digits with
    | none =>
      let shift := (gather maxExponent 0 digits).1
      finish (scale significand (if negative then exponent - shift else exponent + shift))
    | some count =>
      if significand ≠ 0 ∧ !negative then
        let back := digits.length - count
        .error ⟨.numberTooLarge, ⟨c.position.line, c.position.column - back⟩⟩
      else .ok (n.signed .zero)
where
  /-- A double that is too large is a fault where the numeral ends. -/
  finish (x : Option Binary64) : Except Fault Number :=
    match x with
    | some x => .ok (n.signed x)
    | none => .error (c.fault .numberTooLarge)

/-- Read a numeral behind its sign. -/
def read (negative : Bool) (c : Cursor) : Except Fault (Number × Cursor) := do
  let (n, c) ← scan .endInValue negative c
  let value ← n.value c
  return (value, c)

/-- Check the spelling of a numeral behind its sign, whatever its value. -/
def skip (c : Cursor) : Except Fault Cursor := do
  let (_, c) ← scan .badNumber false c
  return c

end Numeral

end HostBoard.Json
