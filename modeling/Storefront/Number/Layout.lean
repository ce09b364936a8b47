import Storefront.Number.Shortest

/-! The text of numbers: positional in a middle range, with an exponent outside it. -/
namespace Storefront

/-- The decisions of a format for double-precision numbers. -/
structure NumberLayout where
  positionalFrom : Int
  positionalBelow : Int
  exponentWidth : Nat
  infinity : String
  nan : String

namespace NumberLayout

def plain : NumberLayout := ⟨-4, 16, 2, "inf", "nan"⟩

/-- Numbers in documents: as in messages, with other names for the values that are no numbers. -/
def document : NumberLayout := ⟨-4, 16, 2, "Infinity", "NaN"⟩

def padZeros (width : Nat) (s : String) : String :=
  String.ofList (List.replicate (width - s.length) '0') ++ s

def significantDigits (digits : Nat) : List Char :=
  ((toString digits).toList.reverse.dropWhile (· == '0')).reverse

/-- Digits around a point, at least one on each side; `lead` is the power of ten of the first. -/
def positional (digits : List Char) (lead : Int) : String :=
  if lead < 0 then
    "0." ++ String.ofList (List.replicate (-lead - 1).toNat '0' ++ digits)
  else
    let whole := digits.take (lead.toNat + 1)
    let rest := digits.drop (lead.toNat + 1)
    String.ofList (whole ++ List.replicate (lead.toNat + 1 - whole.length) '0') ++ "." ++
      (if rest.isEmpty then "0" else String.ofList rest)

/-- One digit before the point, and an exponent that always has a sign. -/
def scientific (l : NumberLayout) (digits : List Char) (lead : Int) : String :=
  let fraction := digits.drop 1
  String.ofList (digits.take 1) ++
    (if fraction.isEmpty then "" else "." ++ String.ofList fraction) ++
    "e" ++ (if lead < 0 then "-" else "+") ++ padZeros l.exponentWidth (toString lead.natAbs)

def render (l : NumberLayout) (x : Binary64) : String :=
  if x.isNaN then l.nan
  else
    let sign := if x.isNegative then "-" else ""
    if !x.isFinite then sign ++ l.infinity
    else if x.significand = 0 then sign ++ "0.0"
    else
      let (d, p) := x.shortest
      let digits := significantDigits d
      let lead : Int := ((toString d).length : Int) + p - 1
      sign ++ (if l.positionalFrom ≤ lead && lead < l.positionalBelow then positional digits lead
        else l.scientific digits lead)

end NumberLayout

/-- A number as it is given to the client: whole, or double-precision. -/
inductive Number where
  | whole (n : Int)
  | real (x : Binary64)
deriving DecidableEq

def Number.text : Number → String
  | .whole n => toString n
  | .real x => NumberLayout.plain.render x

end Storefront
