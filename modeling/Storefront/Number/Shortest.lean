import Storefront.Number.Binary64

/-! The fewest decimal digits that read back as the same number. -/
namespace Storefront.Binary64

/-- The largest `e` with `10 ^ e ≤ num / den`, for a positive fraction. -/
def floorLog10 (num den : Nat) : Int :=
  let e : Int := ((toString num).length : Int) - (toString den).length
  if num * Nat.pow 10 (-e).toNat < den * Nat.pow 10 e.toNat then e - 1 else e

/-- The numbers that round to a given one lie between two fractions over a common denominator;
the ends belong to them when the significand is even. -/
structure Basin where
  low : Nat
  mid : Nat
  high : Nat
  den : Nat
  closed : Bool

/-- The basin of a finite number other than zero. Below a power of two the neighbours are half as
far away. -/
def basin (x : Binary64) : Basin :=
  let m := x.significand
  let below := if x.fractionField = 0 && 1 < x.exponentField then 1 else 2
  let scale := Nat.pow 2 x.exponent.toNat
  { low := (4 * m - below) * scale, mid := 4 * m * scale, high := (4 * m + 2) * scale,
    den := 4 * Nat.pow 2 (-x.exponent).toNat, closed := m % 2 = 0 }

/-- Tells whether the fraction `num / den` rounds to the number of the basin. -/
def Basin.contains (b : Basin) (num den : Nat) : Bool :=
  if b.closed then b.low * den ≤ num * b.den && num * b.den ≤ b.high * den
  else b.low * den < num * b.den && num * b.den < b.high * den

/-- The decimal with the power `p` of ten that lies in the basin and is nearest to its middle; of
two equally near ones the even. -/
def Basin.onGrid? (b : Basin) (p : Int) : Option Nat :=
  let num := Nat.pow 10 p.toNat
  let den := Nat.pow 10 (-p).toNat
  let d := b.mid * den / (b.den * num)
  let inside := fun d => b.contains (d * num) den
  match inside d, inside (d + 1) with
  | false, false => none
  | true, false => some d
  | false, true => some (d + 1)
  | true, true =>
    let down := b.mid * den - d * num * b.den
    let up := (d + 1) * num * b.den - b.mid * den
    some (if down < up || (down = up && d % 2 = 0) then d else d + 1)

/-- The first grid with a hit among the next ones, each ten times finer than the one before. -/
def Basin.search (b : Basin) : (grids : Nat) → (p : Int) → Nat × Int
  | 0, p => (b.mid * Nat.pow 10 (-p).toNat / (b.den * Nat.pow 10 p.toNat), p)
  | grids + 1, p =>
    match b.onGrid? p with
    | some d => (d, p)
    | none => b.search grids (p - 1)

/-- The digits and the power of ten of the shortest decimal for a finite number other than zero;
seventeen digits always suffice. -/
def shortest (x : Binary64) : Nat × Int :=
  let b := x.basin
  b.search 17 (floorLog10 b.mid b.den)

end Storefront.Binary64
