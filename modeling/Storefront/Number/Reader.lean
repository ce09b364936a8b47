import Storefront.Number.Binary64
import Storefront.Text.Blank
import Storefront.Text.Digit

/-! Numbers written by people: white space around them, digits of any script, underscores between
digits, and names for infinity and for no number. -/
namespace Storefront.Binary64

open Text

/-- The ASCII digit for a digit of any script; other characters stay. -/
private def plainDigit (c : Char) : Char :=
  match digitValue? c with
  | some d => Char.ofNat (48 + d)
  | none => c

/-- The text without its underscores, if each of them stands between two digits. -/
def dropSeparators? : (before : Char) → List Char → Option (List Char)
  | _, [] => some []
  | before, '_' :: c :: rest =>
    if before.isDigit && c.isDigit then dropSeparators? '_' (c :: rest) else none
  | _, c :: rest => if c = '_' then none else (dropSeparators? c rest).map (c :: ·)

def readSign : List Char → Bool × List Char
  | '-' :: rest => (true, rest)
  | '+' :: rest => (false, rest)
  | cs => (false, cs)

/-- Reads an exponent to the end of the text; the empty text is the exponent zero. -/
def readExponent? : List Char → Option Int
  | [] => some 0
  | c :: rest =>
    let (negative, ds) := readSign rest
    if (c = 'e' || c = 'E') && !ds.isEmpty && ds.all Char.isDigit then
      let n := ofDigits (ds.filterMap asciiDigit?)
      some (if negative then -n else n)
    else none

def readDecimal? (negative : Bool) (cs : List Char) : Option Binary64 := do
  let whole := cs.takeWhile Char.isDigit
  let rest := cs.dropWhile Char.isDigit
  let (places, rest) := match rest with
    | '.' :: rest => (rest.takeWhile Char.isDigit, rest.dropWhile Char.isDigit)
    | rest => ([], rest)
  if whole.isEmpty && places.isEmpty then none
  else
    let e ← readExponent? rest
    let digits := ofDigits ((whole ++ places).filterMap asciiDigit?)
    return ofDecimal negative digits (e - places.length)

def readUnsigned? (negative : Bool) (cs : List Char) : Option Binary64 :=
  let word := String.ofList (cs.map Char.toLower)
  if word = "inf" || word = "infinity" then some (infinity negative)
  else if word = "nan" then some nan
  else readDecimal? negative cs

def read? (s : String) : Option Binary64 := do
  let cs ← dropSeparators? ' ' ((trimBy isWhiteSpace s.toList).map plainDigit)
  let (negative, cs) := readSign cs
  readUnsigned? negative cs

end Storefront.Binary64
