import Storefront.Text.Digit
import Storefront.Text.Hex
import Storefront.Text.Pieces

/-! Hosts that are numbers: four decimal numbers with dots, or groups of hexadecimal digits with
colons. -/
namespace Storefront.Address

open Text (splitOnChar)

/-- Holds of four groups of digits with dots between them. -/
def looksDotted (cs : List Char) : Bool :=
  let parts := splitOnChar '.' cs
  parts.length = 4 && parts.all fun ds => !ds.isEmpty && ds.all Char.isDigit

def isOctet (cs : List Char) : Bool :=
  !cs.isEmpty && cs.all Char.isDigit && cs.length ≤ 3 && (cs.length = 1 || cs.head? ≠ some '0') &&
    Text.ofDigits (cs.filterMap Text.asciiDigit?) ≤ 255

def isDotted (cs : List Char) : Bool :=
  let parts := splitOnChar '.' cs
  parts.length = 4 && parts.all isOctet

def isHexGroup (cs : List Char) : Bool :=
  !cs.isEmpty && cs.length ≤ 4 && cs.all fun c => (Text.hexValue? c).isSome

/-- Replaces a last part of four numbers by the two groups that it stands for. -/
def withoutDotted? (parts : List (List Char)) : Option (List (List Char)) :=
  match parts.getLast? with
  | none => none
  | some last =>
    if last.contains '.' then
      if isDotted last then some (parts.dropLast ++ [['0'], ['0']]) else none
    else some parts

/-- The groups before and after a gap: an empty part is allowed only at an end where the gap is. -/
def isSide (parts : List (List Char)) (outer : Option (List Char)) : Bool :=
  if outer = some [] then parts.length = 1 else parts.all isHexGroup

def isColoned (cs : List Char) : Bool :=
  let address := cs.takeWhile (· ≠ '%')
  let zone := cs.drop (address.length + 1)
  let zoneFits := address.length = cs.length || (!zone.isEmpty && !zone.contains '%')
  let parts := splitOnChar ':' address
  zoneFits && 3 ≤ parts.length &&
    match withoutDotted? parts with
    | none => false
    | some parts =>
      let inner := parts.dropLast.drop 1
      let gaps := (inner.filter List.isEmpty).length
      parts.length ≤ 9 && gaps ≤ 1 &&
        if gaps = 0 then parts.length = 8 && parts.all isHexGroup
        else
          let before := (inner.takeWhile (!·.isEmpty)).length + 1
          let low := parts.take before
          let high := parts.drop (before + 1)
          let count := (if low.head? = some [] then 0 else low.length) +
            (if high.getLast? = some [] then 0 else high.length)
          isSide low low.head? && isSide high high.getLast? && count < 8

end Storefront.Address
