import HostBoard.Decimal.Binary64

/-!
# Shortest decimal digits

The fewest decimal digits that read back as the same double, and of those the nearest to it; a tie
goes to the even last digit. For each number of digits the two neighbours of the double on that
decimal grid are tried, in exact arithmetic.
-/

namespace HostBoard

/-- The value `0.d₁d₂…dₙ * 10 ^ point`, as the number `d₁d₂…dₙ` and the place of its point. -/
structure Digits where
  digits : List Char
  point : Int
deriving DecidableEq, Repr

namespace Binary64

/-- The ends of the interval of numbers that round to a double, in quarters of smallest steps. -/
def interval (x : Binary64) : Nat × Nat :=
  let step := Nat.pow 2 x.exponent
  let below := if x.mantissa = Nat.pow 2 52 ∧ 0 < x.exponent then step else 2 * step
  (4 * x.steps - below, 4 * x.steps + 2 * step)

/-- The least `p` with the value below `10 ^ p`. -/
def magnitude (x : Binary64) : Int :=
  ((Nat.toDigits 10 (x.steps * Nat.pow 10 340 / unit)).length : Int) - 340

/-- The number `a * 10 ^ p` as a fraction, over the scale of `interval`. -/
def onGrid (a : Nat) (p : Int) : Nat × Nat :=
  (a * 4 * unit * Nat.pow 10 p.toNat, Nat.pow 10 (-p).toNat)

/-- The grid number reads back as the double. -/
def readsBack (x : Binary64) (a : Nat) (p : Int) : Bool :=
  let (lo, hi) := x.interval
  let (num, den) := onGrid a p
  if x.mantissa % 2 = 0 then lo * den ≤ num && num ≤ hi * den
  else lo * den < num && num < hi * den

/-- The better of the two grid neighbours of a double, among those that read back. -/
def onDigits (x : Binary64) (count : Nat) : Option (Nat × Int) :=
  let p := x.magnitude - count
  let v := 4 * x.steps * Nat.pow 10 (-p).toNat
  let cell := 4 * unit * Nat.pow 10 p.toNat
  let a := v / cell
  let nearerBelow := 2 * (v % cell) < cell ∨ (2 * (v % cell) = cell ∧ a % 2 = 0)
  match x.readsBack a p, x.readsBack (a + 1) p with
  | true, true => some (if nearerBelow then a else a + 1, p)
  | true, false => some (a, p)
  | false, true => some (a + 1, p)
  | false, false => none

/-- The shortest digits of a nonzero double. -/
def shortest (x : Binary64) : Digits :=
  let found := ((List.range 17).findSome? fun n => x.onDigits (n + 1)).getD (0, 0)
  let ds := Nat.toDigits 10 found.1
  let kept := (ds.reverse.dropWhile (· = '0')).reverse
  ⟨kept, ds.length + found.2⟩

end Binary64

end HostBoard
