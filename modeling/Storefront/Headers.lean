import Storefront.Endpoint
import Storefront.Failure

/-! Headers of requests. Names are told apart by letter case until they are sent. -/
namespace Storefront

/-- Headers with their values as callers give them. -/
abbrev Headers := Pairs Argument

def Argument.typeName : Argument → String
  | .nothing => "NoneType"
  | .text _ => "str"
  | .whole _ => "int"
  | .flag _ => "bool"
  | .real _ => "float"

namespace Headers

def isAscii (c : Char) : Bool := c.toNat < 128

/-- The words for text that is not ASCII. -/
def nonAsciiText (s : String) : String :=
  Text.codecText "ascii" "ordinal not in range(128)" (128 ≤ ·) (s.toList.map Char.toNat)

/-- A name or value that is sent has ASCII characters only. -/
def checkAscii (s : String) : Except Fault String :=
  if s.toList.all isAscii then .ok s else .error ⟨.unencodable, nonAsciiText s⟩

def sentValue : Argument → Except Fault String
  | .text s => checkAscii s
  | v => .error ⟨.badType, "Header value must be str or bytes, not <class '" ++ v.typeName ++ "'>"⟩

/-- The headers as they are sent; the first that cannot be sent decides. -/
def sent : Headers → Except Fault (List (String × String))
  | [] => .ok []
  | (name, value) :: rest => do
    let name ← checkAscii name
    let value ← sentValue value
    return (name, value) :: (← sent rest)

def lowerName (name : String) : String := String.ofList (name.toList.map Char.toLower)

/-- Tells whether a sent header has a name, in any letter case. -/
def named (name : String) (h : String × String) : Bool := lowerName h.1 == lowerName name

def valueOf? (hs : List (String × String)) (name : String) : Option String :=
  match hs.filter (named name) with
  | [] => none
  | found => some (", ".intercalate (found.map (·.2)))

def without (name : String) (hs : List (String × String)) : List (String × String) :=
  hs.filter (!named name ·)

/-- Puts a header in the place of the first one of its name, or at the end. -/
def replaced (name value : String) (hs : List (String × String)) : List (String × String) :=
  let before := hs.takeWhile (!named name ·)
  before ++ (name, value) :: without name (hs.drop before.length)

end Headers

end Storefront
