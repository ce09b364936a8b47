/-! Tables in insertion order. A key that is put again keeps its place and takes the new value. -/
namespace Storefront

/-- Keys with their values, in the order in which the keys first came. -/
abbrev Pairs (α : Type) (κ : Type := String) := List (κ × α)

namespace Pairs

variable {α κ : Type}

def keys (ps : Pairs α κ) : List κ := ps.map (·.1)

variable [DecidableEq κ]

def get? : Pairs α κ → κ → Option α
  | [], _ => none
  | (k, v) :: ps, key => if k = key then some v else get? ps key

/-- Replaces the value of the first pair with the key, or adds a pair at the end. -/
def put : Pairs α κ → κ → α → Pairs α κ
  | [], key, value => [(key, value)]
  | (k, v) :: ps, key, value => if k = key then (k, value) :: ps else (k, v) :: put ps key value

def putAll (ps qs : Pairs α κ) : Pairs α κ := qs.foldl (fun t p => t.put p.1 p.2) ps

/-- The table of a list of pairs whose keys may repeat. -/
def ofList (ps : List (κ × α)) : Pairs α κ := putAll [] ps

end Pairs

end Storefront
