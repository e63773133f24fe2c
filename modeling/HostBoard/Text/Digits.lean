/-!
# Digits

The value of digits in a base up to sixteen. The letters of hexadecimal digits may be of either
case.
-/

namespace HostBoard.Text

/-- The value of a hexadecimal digit. -/
def hexDigit? (c : Char) : Option Nat :=
  if '0' ≤ c ∧ c ≤ '9' then some (c.toNat - 48)
  else if 'a' ≤ c ∧ c ≤ 'f' then some (c.toNat - 87)
  else if 'A' ≤ c ∧ c ≤ 'F' then some (c.toNat - 55)
  else none

/-- The value of a digit of a base. -/
def digit? (base : Nat) (c : Char) : Option Nat :=
  match hexDigit? c with
  | some d => if d < base then some d else none
  | none => none

/-- The value of digits in a base, behind digits of a known value. -/
def digitsValueFrom? (base : Nat) : Nat → List Char → Option Nat
  | value, [] => some value
  | value, c :: digits =>
    match digit? base c with
    | some d => digitsValueFrom? base (value * base + d) digits
    | none => none

/-- The value of digits in a base, if all of them are digits of it. -/
def digitsValue? (base : Nat) (digits : List Char) : Option Nat :=
  digitsValueFrom? base 0 digits

end HostBoard.Text
