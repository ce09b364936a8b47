/-! Double-precision numbers by their sixty-four bits, with exact rounding from fractions. -/
namespace Storefront

/-- A number of the 64-bit binary interchange format. -/
structure Binary64 where
  bits : UInt64
deriving DecidableEq

namespace Binary64

def isNegative (x : Binary64) : Bool := Nat.pow 2 63 ≤ x.bits.toNat

def exponentField (x : Binary64) : Nat := x.bits.toNat / Nat.pow 2 52 % 2048

def fractionField (x : Binary64) : Nat := x.bits.toNat % Nat.pow 2 52

def isFinite (x : Binary64) : Bool := x.exponentField < 2047

def isNaN (x : Binary64) : Bool := x.exponentField = 2047 && x.fractionField ≠ 0

/-- A finite number has the magnitude `significand * 2 ^ exponent`. -/
def significand (x : Binary64) : Nat :=
  if x.exponentField = 0 then x.fractionField else Nat.pow 2 52 + x.fractionField

def exponent (x : Binary64) : Int := (max x.exponentField 1 : Nat) - (1075 : Int)

/-- The number with a sign bit and the sixty-three bits below it. -/
def ofMagnitude (negative : Bool) (magnitude : Nat) : Binary64 :=
  ⟨.ofNat ((if negative then Nat.pow 2 63 else 0) + magnitude)⟩

def infinity (negative : Bool) : Binary64 := ofMagnitude negative (2047 * Nat.pow 2 52)

def nan : Binary64 := ofMagnitude false (4095 * Nat.pow 2 51)

/-- The integer nearest to a quotient, the even one of two. -/
def roundDiv (num den : Nat) : Nat :=
  let k := num / den
  let r := num % den
  if 2 * r < den then k else if den < 2 * r then k + 1 else k + k % 2

/-- The largest `k` with `2 ^ k ≤ num / den`, for a positive fraction. -/
def floorLog2 (num den : Nat) : Int :=
  let k : Int := (num.log2 : Int) - den.log2
  if num * Nat.pow 2 (-k).toNat < den * Nat.pow 2 k.toNat then k - 1 else k

/-- The number nearest to a fraction, by the even significand of two; infinity beyond the range. -/
def ofFraction (negative : Bool) (num den : Nat) : Binary64 :=
  if num = 0 then ofMagnitude negative 0
  else
    let q : Int := max (floorLog2 num den - 52) (-1074)
    let m := roundDiv (num * Nat.pow 2 (-q).toNat) (den * Nat.pow 2 q.toNat)
    ofMagnitude negative (min ((q + 1074).toNat * Nat.pow 2 52 + m) (2047 * Nat.pow 2 52))

/-- The number nearest to `digits * 10 ^ exponent`. Powers far out of range are not computed. -/
def ofDecimal (negative : Bool) (digits : Nat) (exponent : Int) : Binary64 :=
  let top : Int := (toString digits).length + exponent
  if digits = 0 || top < -330 then ofMagnitude negative 0
  else if 310 < top then infinity negative
  else ofFraction negative (digits * Nat.pow 10 exponent.toNat) (Nat.pow 10 (-exponent).toNat)

def fraction (x : Binary64) : Nat × Nat :=
  (x.significand * Nat.pow 2 x.exponent.toNat, Nat.pow 2 (-x.exponent).toNat)

/-- The numerator of a finite number over the denominator of its magnitude. -/
def signedNumerator (x : Binary64) : Int :=
  if x.isNegative then -x.fraction.1 else x.fraction.1

/-- The integer that a finite number is, if it has no fractional part. -/
def toInt? (x : Binary64) : Option Int :=
  if x.isFinite && x.fraction.1 % x.fraction.2 = 0 then
    some (x.signedNumerator / x.fraction.2)
  else none

end Binary64

end Storefront
