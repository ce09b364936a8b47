import Storefront.Schema.Scalar

/-! Records with declared members. A shape says how to read each of them and what becomes of members
it does not declare; all issues of a value are reported together. -/
namespace Storefront.Schema

open Json

/-- Kinds of data that a record can hold. -/
class Shown (δ : Type) where
  /-- The value of a datum; an absent one has none. -/
  shown? : δ → Option Value
  /-- How deep that value goes, if a record inside costs so many levels of its own. -/
  depth : (inner : Nat) → δ → Nat
  /-- The first key inside that value that no encoding can express. -/
  tornKey? : δ → Option Str

instance : Shown Datum := ⟨Datum.shown?, fun _ d => d.depth, Datum.tornKey?⟩

/-- A declared member. One without a datum for its absence is required. -/
structure Field (δ : Type) where
  name : String
  read : Value → Except (List Issue) δ
  absent : Option δ
  /-- The datum for a value that is assigned without any check. -/
  assigned : Value → δ

structure Shape (δ : Type) where
  name : String
  fields : List (Field δ)
  keepsUnknown : Bool
  frozen : Bool
  /-- The levels that a record inside costs beside those of its values. -/
  innerLevels : Nat := 0
  /-- Names of what is computed from a record, beside those that all shapes have. -/
  views : List String := []
  /-- Names of what can be done with a record, beside those that all shapes have. -/
  operations : List String := []

/-- Data of the declared members in the order of the shape, and unknown members in the order of the
input. -/
structure Record (δ : Type) where
  declared : Pairs δ
  unknown : Pairs Value Str

variable {δ : Type}

/-- The results of a list of readings, or the issues of all that failed. -/
def collect : List (Except (List Issue) δ) → Except (List Issue) (List δ)
  | [] => .ok []
  | .ok d :: rest => (collect rest).map (d :: ·)
  | .error es :: rest =>
    match collect rest with
    | .ok _ => .error es
    | .error more => .error (es ++ more)

def Field.readMember (f : Field δ) (members : Pairs Value Str) :
    Except (List Issue) (String × δ) :=
  match members.get? f.name with
  | some v =>
    match f.read v with
    | .ok d => .ok (f.name, d)
    | .error es => .error (es.map (Issue.under f.name))
  | none =>
    match f.absent with
    | some d => .ok (f.name, d)
    | none => .error [⟨[f.name], .missing, .obj members⟩]

namespace Shape

def declares (s : Shape δ) (key : Str) : Bool := s.fields.any fun f => (f.name : Str) = key

def readDeclared (s : Shape δ) (members : Pairs Value Str) : Except (List Issue) (Record δ) :=
  (collect (s.fields.map (·.readMember members))).map fun declared =>
    ⟨declared, if s.keepsUnknown then members.filter (!s.declares ·.1) else []⟩

/-- Reads the members of an object. When unknown ones are kept, a key that no encoding can express is the
only issue. -/
def readMembers (s : Shape δ) (members : Pairs Value Str) : Except (List Issue) (Record δ) :=
  match if s.keepsUnknown then members.keys.find? (!·.isWhole) else none with
  | some key => .error [⟨[], .notUnicode, .str key⟩]
  | none => s.readDeclared members

def readIssues (s : Shape δ) : Value → Except (List Issue) (Record δ)
  | .obj members => s.readMembers members
  | v => .error [⟨[], .notRecord s.name, v⟩]

def read (s : Shape δ) (v : Value) : Except Rejection (Record δ) :=
  (s.readIssues v).mapError (⟨s.name, ·⟩)

end Shape

namespace Record

variable [Shown δ]

/-- The declared members that are not absent, then the unknown ones that are not `null`. -/
def dumpMembers (r : Record δ) : Pairs Value Str :=
  r.declared.filterMap (fun p => (Shown.shown? p.2).map ((p.1 : Str), ·)) ++
    r.unknown.filterMap (fun p => (p.2.present?).map (p.1, ·.withoutInfinities))

def dump (r : Record δ) : Value := .obj r.dumpMembers

/-- How deep the values of a record go, if a record inside costs so many levels of its own. -/
def depth (r : Record δ) (inner : Nat) : Nat :=
  let declared := r.declared.map (Shown.depth inner ·.2)
  let unknown := r.unknown.filterMap (·.2.present?.map Value.depth)
  (declared ++ unknown).foldl max 0

/-- The first key inside the values of a record that no encoding can express. -/
def tornKey? (r : Record δ) : Option Str :=
  (r.declared.findSome? (Shown.tornKey? ·.2)).or (r.unknown.findSome? (·.2.tornKey?))

end Record

/-- The values of a record may go this deep when its document is made. -/
def levelLimit : Nat := 255

/-- Why there is no document of a record. -/
inductive DumpError where
  | tooDeep
  | unencodable (key : Str)
deriving DecidableEq

def DumpError.message : DumpError → String
  | .tooDeep => "Maximum serialization depth exceeded"
  | .unencodable key => Text.unencodableText key

/-- The document of a record, unless its values go too deep or have a key that cannot be encoded. -/
def Shape.dump [Shown δ] (s : Shape δ) (r : Record δ) : Except DumpError Value :=
  if levelLimit < r.depth s.innerLevels then .error .tooDeep
  else match r.tornKey? with
    | some key => .error (.unencodable key)
    | none => .ok r.dump

def commonViews : List String := ["model_extra", "model_fields_set"]

/-- The name of the operation that makes the document of a record. -/
def dumpOperation : String := "model_dump"

def commonOperations : List String :=
  ["construct", "copy", "dict", "from_orm", "json", "model_computed_fields", "model_config",
    "model_construct", "model_copy", "model_dump_json", "model_fields", "model_json_schema",
    "model_parametrized_name", "model_post_init", "model_rebuild", "model_validate",
    "model_validate_json", "model_validate_strings", "mro", "parse_file", "parse_obj", "parse_raw",
    "register", "schema", "schema_json", "update_forward_refs", "validate"]

/-- Why a member was not assigned. -/
inductive AssignError where
  | rejected (r : Rejection)
  | noSuchMember (shape key : String)
  | readOnly (shape key : String)
  /-- A value of some kind would stand in for the operation that makes documents. -/
  | notCallable (kind : String)

def AssignError.message : AssignError → String
  | .rejected r => r.message
  | .noSuchMember shape key =>
    "\"" ++ shape ++ "\" object has no field \"" ++ key ++ "\""
  | .readOnly shape key => "property '" ++ key ++ "' of '" ++ shape ++ "' object has no setter"
  | .notCallable kind => "'" ++ kind ++ "' object is not callable"

/-- Assigns a value without any check. A frozen shape takes none. Names that begin with an
underscore and names of operations are taken, but belong to no member. -/
def Shape.assign (s : Shape δ) (r : Record δ) (key : String) (v : Value) :
    Except AssignError (Record δ) :=
  if key.toList.head? = some '_' then .ok r
  else if s.frozen then .error (.rejected ⟨s.name, [⟨[key], .frozen, v⟩]⟩)
  else if (commonViews ++ s.views).contains key then .error (.readOnly s.name key)
  else match s.fields.find? (·.name == key) with
    | some f => .ok { r with declared := r.declared.put key (f.assigned v) }
    | none =>
      if !s.keepsUnknown then .error (.noSuchMember s.name key)
      else if key = dumpOperation then .error (.notCallable v.kindName)
      else if (commonOperations ++ s.operations).contains key then .ok r
      else .ok { r with unknown := r.unknown.put key v }

def ScalarKind.readIssues (k : ScalarKind) (v : Value) : Except (List Issue) Datum :=
  (k.read v).mapError fun p => [⟨[], p, v⟩]

def orNull (absent : δ) (read : Value → Except (List Issue) δ) : Value → Except (List Issue) δ
  | .null => .ok absent
  | v => read v

namespace Field

def required (name : String) (k : ScalarKind) : Field Datum :=
  ⟨name, k.readIssues, none, k.assigned⟩

def optional (name : String) (k : ScalarKind) : Field Datum :=
  ⟨name, orNull .null k.readIssues, some .null, k.assigned⟩

/-- A scalar with a datum for its absence; it is never `null`. -/
def defaulting (name : String) (k : ScalarKind) (d : Datum) : Field Datum :=
  ⟨name, k.readIssues, some d, k.assigned⟩

end Field

end Storefront.Schema
