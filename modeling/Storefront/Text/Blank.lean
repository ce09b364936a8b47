/-! Blank characters and text without them at its ends. -/
namespace Storefront.Text

/-- White space of every script, together with the four separators below the space. -/
def isBlank (c : Char) : Bool :=
  let n := c.toNat
  (9 ≤ n && n ≤ 13) || (28 ≤ n && n ≤ 32) || n == 0x85 || n == 0xA0 || n == 0x1680 ||
    (0x2000 ≤ n && n ≤ 0x200A) || n == 0x2028 || n == 0x2029 || n == 0x202F || n == 0x205F ||
    n == 0x3000

/-- White space proper: blank, but not one of the separators 1C to 1F. -/
def isWhiteSpace (c : Char) : Bool := isBlank c && !(28 ≤ c.toNat && c.toNat ≤ 31)

/-- The list without its longest ending of elements that satisfy `p`. -/
def dropEndWhile {α : Type} (p : α → Bool) (xs : List α) : List α :=
  (xs.reverse.dropWhile p).reverse

/-- The list without its longest beginning and ending of elements that satisfy `p`. -/
def trimBy {α : Type} (p : α → Bool) (xs : List α) : List α := dropEndWhile p (xs.dropWhile p)

def strip (s : String) : String := String.ofList (trimBy isBlank s.toList)

/-- Holds of a text without any character that is not blank. -/
def isBlankText (s : String) : Bool := s.toList.all isBlank

end Storefront.Text
