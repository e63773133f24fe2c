import HostBoard.Decimal.Shortest

/-!
# Layout of decimal numbers

Digits become text either positionally, with a point among them, or with one digit before the
point and a power of ten behind. The magnitudes written positionally are a choice of the format,
kept in one record.
-/

namespace HostBoard

/-- Which places of the decimal point are written positionally. -/
structure Layout where
  leastPoint : Int
  greatestPoint : Int

namespace Layout

/-- A whole number with its sign, which is always written. -/
def signed (n : Int) : List Char :=
  if n < 0 then '-' :: Nat.toDigits 10 n.natAbs else '+' :: Nat.toDigits 10 n.natAbs

/-- Digits with the point among them; a whole number keeps one zero behind the point. -/
def positional (d : Digits) : List Char :=
  if d.point ≤ 0 then
    '0' :: '.' :: (List.replicate (-d.point).toNat '0' ++ d.digits)
  else
    let whole := d.point.toNat
    let front := d.digits.take whole ++ List.replicate (whole - d.digits.length) '0'
    let back := d.digits.drop whole
    front ++ '.' :: (if back.isEmpty then ['0'] else back)

/-- One digit, the others behind a point, and the power of ten. -/
def scientific (d : Digits) : List Char :=
  match d.digits with
  | [] => []
  | first :: others =>
    let fraction := if others.isEmpty then [] else '.' :: others
    first :: (fraction ++ 'e' :: signed (d.point - 1))

/-- The digits in the notation that the layout prescribes. -/
def write (layout : Layout) (d : Digits) : List Char :=
  if layout.leastPoint ≤ d.point ∧ d.point ≤ layout.greatestPoint then positional d
  else scientific d

/-- A double in its shortest digits. -/
def double (layout : Layout) (x : Binary64) : List Char :=
  let text := if x.isZero then ['0', '.', '0'] else layout.write x.shortest
  if x.negative then '-' :: text else text

end Layout

end HostBoard
