import HostBoard.Decimal.Binary64
import HostBoard.Toml.Text

/-!
# Numbers of a TOML text

Whole numbers fit into 64 bits with a sign. Digits may be grouped by single underscores between
them. Of a number with a fraction or a power of ten only its spelling matters here, and that it is
not too large.
-/

namespace HostBoard.Toml

/-- A digit of a class, perhaps behind an underscore. -/
def groupedDigit (isDigit : Char → Bool) : Scan Char := fun text =>
  match text with
  | '_' :: d :: rest => if isDigit d then some (d, rest) else none
  | d :: rest => if isDigit d then some (d, rest) else none
  | [] => none

/-- Digits of a class, at least one, with single underscores between them. -/
def groupedDigits (isDigit : Char → Bool) : Scan (List Char) := fun text =>
  match text with
  | d :: rest =>
    if isDigit d then
      let (digits, rest) := many (groupedDigit isDigit) rest
      some (d :: digits, rest)
    else none
  | [] => none

/-- A sign, if there is one; true for minus. -/
def sign (text : List Char) : Bool × List Char :=
  match text with
  | '-' :: rest => (true, rest)
  | '+' :: rest => (false, rest)
  | rest => (false, rest)

/-- A decimal number without leading zeros, with its sign. -/
def decimal : Scan (Bool × List Char) := fun text =>
  let (negative, rest) := sign text
  match rest with
  | '0' :: rest => some ((negative, ['0']), rest)
  | rest => (groupedDigits Char.isDigit rest).map fun (digits, rest) => ((negative, digits), rest)

/-- The digits behind a point. -/
def fraction : Scan (List Char) := fun text =>
  match text with
  | '.' :: rest => groupedDigits Char.isDigit rest
  | _ => none

/-- A power of ten. -/
def power : Scan Int := fun text =>
  match text with
  | c :: rest =>
    if c = 'e' ∨ c = 'E' then
      let (negative, rest) := sign rest
      (groupedDigits Char.isDigit rest).map fun (digits, rest) =>
        let n := Nat.ofDigitChars 10 digits 0
        (if negative then -(n : Int) else n, rest)
    else none
  | [] => none

/-- The number `0.d₁d₂… * 10 ^ point` is below the greatest double, or rounds to it. Only numbers
of about its size need arithmetic. -/
def isFinite (digits : List Char) (point : Int) : Bool :=
  let digits' := digits.dropWhile (· = '0')
  let point := point - ((digits.length - digits'.length : Nat) : Int)
  if digits'.isEmpty ∨ point < 300 then true
  else if 320 < point then false
  else
    let n := Nat.ofDigitChars 10 digits' 0
    (Binary64.ofRatio (n * Nat.pow 10 point.toNat) (Nat.pow 10 digits'.length)).isSome

/-- A number with a fraction or a power of ten. Too large a number is refused, unless negative. -/
def float : Scan Unit := fun text => do
  let ((negative, whole), rest) ← decimal text
  let (decimals, exponent, rest) ← match power rest with
    | some (e, rest) => some ([], e, rest)
    | none => do
      let (decimals, rest) ← fraction rest
      match power rest with
      | some (e, rest) => some (decimals, e, rest)
      | none => some (decimals, 0, rest)
  if negative || isFinite (whole ++ decimals) (whole.length + exponent) then some ((), rest)
  else none

/-- The words for what is no number of a finite size. -/
def specialFloat : Scan Unit := fun text =>
  let (_, rest) := sign text
  match rest with
  | 'i' :: 'n' :: 'f' :: rest => some ((), rest)
  | 'n' :: 'a' :: 'n' :: rest => some ((), rest)
  | _ => none

/-- A whole number that fits into 64 bits with a sign. -/
def bounded (n : Int) : Option Int :=
  if -9223372036854775808 ≤ n ∧ n ≤ 9223372036854775807 then some n else none

/-- The digits of a whole number in a base. -/
def inBase (base : Nat) : Scan Int := fun text => do
  let (digits, rest) ← groupedDigits (fun c => (Text.digit? base c).isSome) text
  let n ← Text.digitsValue? base digits >>= fun n => bounded n
  return (n, rest)

/-- A whole number. -/
def integer : Scan Int := fun text =>
  match text with
  | '0' :: 'x' :: rest => inBase 16 rest
  | '0' :: 'o' :: rest => inBase 8 rest
  | '0' :: 'b' :: rest => inBase 2 rest
  | text => do
    let ((negative, digits), rest) ← decimal text
    let n ← Text.digitsValue? 10 digits
    let n ← bounded (if negative then -(n : Int) else n)
    return (n, rest)

end HostBoard.Toml
