import Storefront.Reason
import Storefront.Status

/-! What a shop says about an error. -/
namespace Storefront.ErrorDocument

open Json

/-- A message with the name it belongs to in front, unless there is no name. -/
def named (name message : Str) : Str :=
  if name.isEmpty then message else name ++ (" " : Str) ++ message

mutual

/-- The messages of a document in order, each with the nearest name around it. The members
`customer` and `base` hold messages but name nothing. -/
def messages (name : Str) : Value → List Str
  | .str s => [named name s]
  | .arr items => itemMessages name items
  | .obj members => memberMessages name members
  | _ => []

def itemMessages (name : Str) : List Value → List Str
  | [] => []
  | v :: vs => messages name v ++ itemMessages name vs

def memberMessages (name : Str) : List (Str × Value) → List Str
  | [] => []
  | (key, v) :: ms =>
    messages (if key = ("customer" : Str) ∨ key = ("base" : Str) then name else key) v ++
      memberMessages name ms

end

/-- The text of a member, stripped, unless it is blank or no text. -/
def plainMessage? (members : Pairs Value Str) (key : String) : Option Str :=
  match members.get? key with
  | some (.str s) => if s.isBlank then none else some s.strip
  | _ => none

/-- The messages under `errors`, or else the text under `error` or `message`. -/
def extract? : Value → Option Str
  | .obj members =>
    let found := ((Pairs.get? members ("errors" : Str)).map (messages ("" : Str))).getD []
    if found.isEmpty then plainMessage? members "error" <|> plainMessage? members "message"
    else some (.join "; " found)
  | _ => none

/-- The failure kind of a code outside the successful ones. -/
def kindOf : Status → FailureKind
  | .clientError => .clientError
  | .serverError => .serverError
  | _ => .unexpected

/-- The failure of a response, unless its code is a success. -/
def failure? (document : Option Value) (code : Int) (url : Option String) : Option Failure :=
  let status := Status.ofCode code
  if status = .success then none
  else
    let message := (document.bind extract?).getD (s!"HTTP {code} {reasonPhrase code}" : String)
    some { cls := .status, message, kind := kindOf status, url, statusCode := some code, document }

end Storefront.ErrorDocument
