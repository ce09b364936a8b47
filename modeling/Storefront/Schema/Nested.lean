import Storefront.Schema.Shape

/-! Records whose members are scalars, flat records, or lists of flat records. -/
namespace Storefront.Schema

open Json

inductive Cell where
  | scalar (d : Datum)
  | one (r : Record Datum)
  | many (rs : List (Record Datum))

namespace Cell

def shown? : Cell → Option Value
  | .scalar d => d.shown?
  | .one r => some r.dump
  | .many rs => some (.arr (rs.map Record.dump))

/-- How deep that value goes, if a record inside costs so many levels of its own. -/
def depth (inner : Nat) : Cell → Nat
  | .scalar d => d.depth
  | .one r => inner + r.depth 0
  | .many rs => inner + (rs.map (·.depth 0)).foldl max 0

/-- The first key inside a cell that no encoding can express. -/
def tornKey? : Cell → Option Str
  | .scalar d => d.tornKey?
  | .one r => r.tornKey?
  | .many rs => rs.findSome? Record.tornKey?

instance : Shown Cell := ⟨Cell.shown?, Cell.depth, Cell.tornKey?⟩

/-- The cell for a value that is assigned in the place of records. -/
def assigned (v : Value) : Cell := .scalar (.assigned v)

end Cell

/-- Reads the items of a list; the path to an item is its position. -/
def readItems (s : Shape Datum) (items : List Value) : Except (List Issue) (List (Record Datum)) :=
  collect (items.mapIdx fun i v =>
    (s.readIssues v).mapError fun es => es.map (Issue.under (toString i)))

/-- Reads a list of records, or reports that the value is no list. -/
def readMany (s : Shape Datum) (otherwise : Problem) : Value → Except (List Issue) Cell
  | .arr items => (readItems s items).map .many
  | v => .error [⟨[], otherwise, v⟩]

namespace Field

/-- The field of a scalar in a record that also holds records. -/
def cell (f : Field Datum) : Field Cell :=
  ⟨f.name, fun v => (f.read v).map .scalar, f.absent.map .scalar, fun v => .scalar (f.assigned v)⟩

def optionalRecord (name : String) (s : Shape Datum) : Field Cell :=
  ⟨name, orNull (.scalar .null) fun v => (s.readIssues v).map .one, some (.scalar .null),
    .assigned⟩

def list (name : String) (s : Shape Datum) : Field Cell :=
  ⟨name, readMany s .notList, some (.many []), .assigned⟩

def tuple (name : String) (s : Shape Datum) : Field Cell :=
  ⟨name, readMany s .notTuple, some (.many []), .assigned⟩

end Field

namespace Record

def text? (r : Record Cell) (name : String) : Option Str :=
  match r.declared.get? name with
  | some (.scalar (.text s)) => some s
  | _ => none

def whole? (r : Record Cell) (name : String) : Option Int :=
  match r.declared.get? name with
  | some (.scalar (.whole n)) => some n
  | _ => none

end Record

end Storefront.Schema
