/-! Text as lines. -/
namespace Storefront.Text

/-- The characters that end a line: the ends of lines, tabulation lines, pages and paragraphs, and
the three widest of the separators below the space. -/
def isLineBreak (c : Char) : Bool :=
  let n := c.toNat
  (10 ≤ n && n ≤ 13) || (28 ≤ n && n ≤ 30) || n == 0x85 || n == 0x2028 || n == 0x2029

/-- The lines of a text that has ended lines only: `before` is the current line in reverse. What
follows the last end is no line. A line feed after a carriage return ends nothing. -/
def endedLines (before : List Char) : List Char → List (List Char)
  | [] => []
  | '\r' :: '\n' :: cs => before.reverse :: endedLines [] cs
  | c :: cs =>
    if isLineBreak c then before.reverse :: endedLines [] cs else endedLines (c :: before) cs

def lines (s : String) : List String := (endedLines [] (s.toList ++ ['\n'])).map String.ofList

end Storefront.Text
