import Storefront.Json.Value
import Storefront.Number.Layout
import Storefront.Text.Quoted

/-! The form in which values are shown in messages: as the literals of a program, cut in the middle when
they are long. -/
namespace Storefront.Json

mutual

def Value.displayed : Value → List Char
  | .null => "None".toList
  | .bool true => "True".toList
  | .bool false => "False".toList
  | .int n => (toString n).toList
  | .real x => (NumberLayout.plain.render x).toList
  | .str s => Text.quotedChars s
  | .arr vs => '[' :: [',', ' '].intercalate (itemsDisplayed vs) ++ [']']
  | .obj ms => '\x7b' :: [',', ' '].intercalate (membersDisplayed ms) ++ ['\x7d']

def itemsDisplayed : List Value → List (List Char)
  | [] => []
  | v :: vs => v.displayed :: itemsDisplayed vs

def membersDisplayed : List (Str × Value) → List (List Char)
  | [] => []
  | (k, v) :: ms => (Text.quotedChars k ++ ':' :: ' ' :: v.displayed) :: membersDisplayed ms

end

/-- The longest front of a text that has at most so many bytes. -/
def takeBytes (room : Nat) : List Char → List Char
  | [] => []
  | c :: cs => if c.utf8Size ≤ room then c :: takeBytes (room - c.utf8Size) cs else []

/-- A text of at most fifty bytes, or both ends of a longer one. -/
def shortened (cs : List Char) : List Char :=
  if (takeBytes 50 cs).length = cs.length then cs
  else takeBytes 25 cs ++ "...".toList ++ (takeBytes 24 cs.reverse).reverse

/-- A value as messages show it. One that holds an integer with too many digits has no literal. -/
def Value.shown (v : Value) : String :=
  String.ofList (shortened (if v.hasOverlong then ("<unprintable " ++ v.kindName ++ " object>").toList
    else v.displayed))

end Storefront.Json
