import Storefront.Schema.Issue
import Storefront.Text.Blank
import Storefront.Text.Digit

/-! Whole numbers written as text. A text in the plain form is read as it is; any other one is
first brought into that form, as far as it goes. -/
namespace Storefront.Schema

open Text

def wholeDigits : Nat := 4300

/-- The digits that a plain form begins with, after its sign. -/
def plainDigits (cs : List Char) : List Char := cs.takeWhile Char.isDigit

def splitMinus : List Char → Bool × List Char
  | '-' :: cs => (true, cs)
  | cs => (false, cs)

/-- Holds of a text that begins as a number above the limit. -/
def isOversized (cs : List Char) : Bool :=
  let (_, cs) := splitMinus cs
  cs.head? ≠ some '0' && wholeDigits < (plainDigits cs).length

/-- The value of a plain form: a sign or none, then a zero, or digits that do not begin with one. -/
def plainWhole? (cs : List Char) : Option Int :=
  let (negative, ds) := splitMinus cs
  if ds.isEmpty || !ds.all Char.isDigit || (ds.head? = some '0' && 1 < ds.length) ||
    wholeDigits < ds.length then none
  else
    let n : Int := ofDigits (ds.filterMap asciiDigit?)
    some (if negative then -n else n)

/-- Skips zeros and underscores; `before` is the character skipped last. A point keeps it, and it
is all that is left when nothing else follows. -/
def skipZeros? (before : Char) : List Char → Option (List Char)
  | [] => some [before]
  | c :: cs =>
    if c = '0' || c = '_' then skipZeros? c cs
    else if c.isDigit || c = '-' then some (c :: cs)
    else if c = '.' then some (before :: c :: cs)
    else none

def withoutLeadingZeros? : List Char → Option (List Char)
  | [] => none
  | c :: cs => if c = '0' then skipZeros? c cs else if c.isDigit then some (c :: cs) else none

/-- A number without its point, if only zeros follow that. -/
def withoutZeroPlaces (cs : List Char) : List Char :=
  let front := cs.takeWhile (· ≠ '.')
  let places := cs.drop (front.length + 1)
  if !places.isEmpty && places.all (· = '0') then front else cs

def hasDoubleMark : List Char → Bool
  | '_' :: '_' :: _ => true
  | _ :: cs => hasDoubleMark cs
  | [] => false

/-- A number without underscores, unless one of them stands at an end or beside another. -/
def withoutMarks (cs : List Char) : List Char :=
  if cs.head? = some '_' || cs.getLast? = some '_' || hasDoubleMark cs then cs
  else cs.filter (· ≠ '_')

/-- The number after its sign, brought into the plain form as far as it goes. -/
def tidied? (cs : List Char) : Option (List Char) :=
  (withoutLeadingZeros? cs).map fun cs => withoutMarks (withoutZeroPlaces cs)

/-- The plain form of a number with blanks around it and one sign or none. -/
def plainForm? (cs : List Char) : Option (List Char) :=
  match trimBy isWhiteSpace cs with
  | '-' :: cs => (tidied? cs).map ('-' :: ·)
  | '+' :: cs => tidied? cs
  | cs => tidied? cs

def readWholeText (s : String) : Except Problem Int :=
  let cs := s.toList
  if isOversized cs then .error .oversizedWhole
  else match plainWhole? cs <|> (plainForm? cs).bind plainWhole? with
    | some n => .ok n
    | none => .error .unreadableWhole

end Storefront.Schema
