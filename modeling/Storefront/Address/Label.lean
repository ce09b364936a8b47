import Storefront.Address.Alphabet
import Storefront.Text.Composition
import Storefront.Text.Direction
import Storefront.Text.Joining
import Storefront.Text.Punycode
import Storefront.Text.Script

/-! Labels of host names: what they may hold, and the form in which they are sent. -/
namespace Storefront.Address

open Text

/-- Tells whether a sign without width may stand between two letters: behind a mark that silences a
vowel, or where it parts letters that would join. The text before it is in reverse. -/
def isSeparated (before after : List Char) : Bool :=
  before.head?.any isVirama ||
    ((before.dropWhile isTransparent).head?.any joinsNext &&
      (after.dropWhile isTransparent).head?.any joinsPrevious)

/-- Holds of the digits of a script whose zero has the given code point. -/
def isDigitFrom (first : Nat) (c : Char) : Bool := first ≤ c.toNat && c.toNat < first + 10

/-- Tells whether a character may stand where it does. The text before it is in reverse. -/
def fits (before : List Char) (c : Char) (after : List Char) : Bool :=
  let label := before ++ after
  if c = '\u200C' then isSeparated before after
  else if c = '\u200D' then before.head?.any isVirama
  else if c = '\u00B7' then before.head? = some 'l' && after.head? = some 'l'
  else if c = '\u0375' then after.head?.any greekRows.has
  else if c = '\u05F3' || c = '\u05F4' then before.head?.any hebrewRows.has
  else if c = '\u30FB' then
    label.any fun d => hiraganaRows.has d || katakanaRows.has d || hanRows.has d
  else if isDigitFrom 0x660 c then !label.any (isDigitFrom 0x6F0)
  else if isDigitFrom 0x6F0 c then !label.any (isDigitFrom 0x660)
  else isLabelChar c

/-- Tells whether each character may stand where it does. -/
def allFit (before : List Char) : List Char → Bool
  | [] => true
  | c :: cs => fits before c cs && allFit (c :: before) cs

/-- Tells whether the directions in a label agree: one with a part from right to left begins so,
holds no letter from left to right and digits of one kind only, and ends so or with a digit. -/
def keepsDirection (label : List Char) : Bool :=
  let directions := label.map directionOf
  let isLetter := fun (d : Direction) => d = .right || d = .arabic
  !directions.any Direction.isRightward ||
    (directions.head?.any isLetter && !directions.contains .left &&
      !(directions.contains .arabicNumber && directions.contains .number) &&
      (directions.reverse.dropWhile (· = .mark)).head?.any fun d =>
        d.isRightward || d = .number)

/-- Tells whether hyphens stand neither at the ends nor third and fourth. -/
def keepsHyphens (label : List Char) : Bool :=
  label.head? ≠ some '-' && label.getLast? ≠ some '-' && (label.drop 2).take 2 ≠ ['-', '-']

def isLabel (label : List Char) : Bool :=
  !label.isEmpty && isComposed label && keepsHyphens label &&
    !label.head?.any isMark && allFit [] label && keepsDirection label

/-- What a label that is sent in ASCII characters begins with. -/
def sentMark : List Char := ['x', 'n', '-', '-']

/-- Tells whether a label of ASCII characters can be sent as it is. -/
def isSentLabel (label : List Char) : Bool :=
  if sentMark.isPrefixOf label then
    let code := label.drop sentMark.length
    !code.isEmpty && code.getLast? ≠ some '-' && (Punycode.decode? code).any isLabel
  else isLabel label

def sentLabel? (label : List Char) : Option (List Char) :=
  let isAscii := label.all (·.toNat < 128)
  let sent := if isAscii then label else sentMark ++ Punycode.encode label
  if (if isAscii then isSentLabel label else isLabel label) && sent.length ≤ 63 then some sent
  else none

end Storefront.Address
