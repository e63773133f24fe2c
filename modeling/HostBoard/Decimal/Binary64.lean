/-!
# Finite doubles

A finite double is a sign and a whole number of units of `2 ^ (-1074)`, the smallest step, with at
most 53 significant bits. Arithmetic is exact and then rounded to the nearest double, a half going
to the even neighbour; a result past the largest double is no double.
-/

namespace HostBoard

/-- The value `mantissa * 2 ^ exponent` in units of `2 ^ (-1074)`, with a sign. -/
structure Binary64 where
  negative : Bool
  mantissa : Nat
  exponent : Nat
deriving DecidableEq, Repr

namespace Binary64

/-- The number of smallest steps in one. -/
def unit : Nat := Nat.pow 2 1074

/-- The greatest exponent of a finite double. -/
def maxExponent : Nat := 2045

/-- A quotient rounded to the nearest whole number, a half to the even one. -/
def roundDiv (num den : Nat) : Nat :=
  let q := num / den
  let r := num % den
  if den < 2 * r then q + 1
  else if 2 * r = den ∧ q % 2 = 1 then q + 1
  else q

/-- The nonnegative double nearest to `num / den`, if there is one. -/
def ofRatio (num den : Nat) : Option Binary64 :=
  let scaled := num * unit
  let e := Nat.log2 (scaled / den) - 52
  let m := roundDiv scaled (den * Nat.pow 2 e)
  let x : Binary64 := if m = Nat.pow 2 53 then ⟨false, Nat.pow 2 52, e + 1⟩ else ⟨false, m, e⟩
  if x.exponent ≤ maxExponent then some x else none

/-- The magnitude, counted in smallest steps. -/
def steps (x : Binary64) : Nat :=
  x.mantissa * Nat.pow 2 x.exponent

/-- A double of value zero, of either sign. -/
def isZero (x : Binary64) : Bool :=
  x.mantissa = 0

/-- The positive zero. -/
def zero : Binary64 := ⟨false, 0, 0⟩

/-- The double of the opposite sign. -/
def neg (x : Binary64) : Binary64 :=
  { x with negative := !x.negative }

/-- The double nearest to a whole number; every number below `2 ^ 1024` in size has one. -/
def ofNat (n : Nat) : Binary64 :=
  (ofRatio n 1).getD zero

/-- The double nearest to a power of ten, for the powers up to `10 ^ 308`. -/
def pow10 (k : Nat) : Binary64 :=
  ofNat (Nat.pow 10 k)

/-- The rounded product of two nonnegative doubles. -/
def mul (x y : Binary64) : Option Binary64 :=
  ofRatio (x.steps * y.steps) (unit * unit)

/-- The rounded quotient of two nonnegative doubles, the divisor at least one. -/
def div (x y : Binary64) : Binary64 :=
  (ofRatio x.steps y.steps).getD zero

end Binary64

end HostBoard
