import Storefront.Number.Binary64
import Storefront.Pairs
import Storefront.Text.Str

/-! Documents of the interchange format: unbounded integers beside double-precision numbers, and
objects whose members keep their order. -/
namespace Storefront.Json

/-- Integers with more digits are neither read nor written. -/
def digitLimit : Nat := 4300

/-- How many digits an integer has. -/
def digitCount (n : Int) : Nat := (Nat.toDigits 10 n.natAbs).length

def isOverlong (n : Int) : Bool := digitLimit < digitCount n

/-- The words for an integer that is not written because it has too many digits. -/
def overlongText : String :=
  "Exceeds the limit (4300 digits) for integer string conversion; use " ++
    "sys.set_int_max_str_digits() to increase the limit"

inductive Value where
  | null
  | bool (b : Bool)
  | int (n : Int)
  | real (x : Binary64)
  | str (s : Str)
  | arr (items : List Value)
  | obj (members : List (Str × Value))

namespace Value

def members? : Value → Option (Pairs Value Str)
  | .obj ms => some ms
  | _ => none

/-- The value of a member; nothing when there is no such member or no object. -/
def member? (v : Value) (key : Str) : Option Value := v.members?.bind (·.get? key)

def present? : Value → Option Value
  | .null => none
  | v => some v

def kindName : Value → String
  | .null => "NoneType"
  | .bool _ => "bool"
  | .int _ => "int"
  | .real _ => "float"
  | .str _ => "str"
  | .arr _ => "list"
  | .obj _ => "dict"

mutual

/-- The number of values on the longest way from a value inwards. -/
def depth : Value → Nat
  | .arr items => itemDepth items + 1
  | .obj ms => memberDepth ms + 1
  | _ => 1

def itemDepth : List Value → Nat
  | [] => 0
  | v :: vs => max v.depth (itemDepth vs)

def memberDepth : List (Str × Value) → Nat
  | [] => 0
  | (_, v) :: ms => max v.depth (memberDepth ms)

end

mutual

/-- Tells whether an integer inside a value has too many digits. -/
def hasOverlong : Value → Bool
  | .int n => isOverlong n
  | .arr items => itemsHaveOverlong items
  | .obj ms => membersHaveOverlong ms
  | _ => false

def itemsHaveOverlong : List Value → Bool
  | [] => false
  | v :: vs => v.hasOverlong || itemsHaveOverlong vs

def membersHaveOverlong : List (Str × Value) → Bool
  | [] => false
  | (_, v) :: ms => v.hasOverlong || membersHaveOverlong ms

end

mutual

/-- The first key inside a value that no encoding can express. -/
def tornKey? : Value → Option Str
  | .arr items => itemTornKey? items
  | .obj ms => memberTornKey? ms
  | _ => none

def itemTornKey? : List Value → Option Str
  | [] => none
  | v :: vs => v.tornKey?.or (itemTornKey? vs)

def memberTornKey? : List (Str × Value) → Option Str
  | [] => none
  | (k, v) :: ms => if k.isWhole then v.tornKey?.or (memberTornKey? ms) else some k

end

mutual

/-- The value with `null` for every number that is not finite. -/
def withoutInfinities : Value → Value
  | .real x => if x.isFinite then .real x else .null
  | .arr items => .arr (itemsWithoutInfinities items)
  | .obj ms => .obj (membersWithoutInfinities ms)
  | v => v

def itemsWithoutInfinities : List Value → List Value
  | [] => []
  | v :: vs => v.withoutInfinities :: itemsWithoutInfinities vs

def membersWithoutInfinities : List (Str × Value) → List (Str × Value)
  | [] => []
  | (k, v) :: ms => (k, v.withoutInfinities) :: membersWithoutInfinities ms

end

end Value

end Storefront.Json
