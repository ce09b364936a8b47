/-! Text in pieces. -/
namespace Storefront.Text

/-- The pieces of a text between the characters `mark`. -/
def splitOnChar (mark : Char) : List Char → List (List Char)
  | [] => [[]]
  | c :: cs =>
    match splitOnChar mark cs with
    | piece :: pieces => if c = mark then [] :: piece :: pieces else (c :: piece) :: pieces
    | [] => []

end Storefront.Text
