import Storefront.Schema.Nested

/-! Credentials that are sent to the shop when an account is written or a customer logs in. -/
namespace Storefront

open Json Schema

def credentialItemShape : Shape Datum where
  name := "CredentialItem"
  keepsUnknown := false
  frozen := true
  fields := [.required "key" (.text false), .required "value" (.text true)]

def credentialsShape : Shape Cell where
  name := "AccountCredentials"
  keepsUnknown := false
  frozen := true
  fields := [.tuple "items" credentialItemShape]

structure CredentialItem where
  key : String
  value : Str
deriving DecidableEq

namespace CredentialItem

def ofRecord (r : Record Datum) : CredentialItem :=
  let text := fun name => match r.declared.get? name with
    | some (Datum.text s) => s
    | _ => ""
  ⟨((text "key").text?).getD "", text "value"⟩

def read (key value : Value) : Except Rejection CredentialItem :=
  (credentialItemShape.read (.obj [("key", key), ("value", value)])).map ofRecord

/-- Reads items in order; the first that is refused decides. -/
def readAll : List (Value × Value) → Except Rejection (List CredentialItem)
  | [] => .ok []
  | (key, value) :: rest =>
    match read key value with
    | .error r => .error r
    | .ok item => (readAll rest).map (item :: ·)

end CredentialItem

/-- Why values with names make no items. -/
inductive NamedItemsError where
  | rejected (r : Rejection)
  | notNames
  /-- The name already stands for something else in the operation. -/
  | nameTaken (operation name : String)

def NamedItemsError.message : NamedItemsError → String
  | .rejected r => r.message
  | .notNames => "keywords must be strings"
  | .nameTaken operation name =>
    credentialsShape.name ++ "." ++ operation ++ "() got multiple values for argument '" ++ name ++
      "'"

/-- Items from values with names; of values with one name, the last decides. An operation keeps one
name to itself. -/
def CredentialItem.readNamed (operation taken : String) (ps : List (Value × Value)) :
    Except NamedItemsError (List CredentialItem) :=
  let named := ps.filterMap fun p => match p.1 with
    | .str k => some (k, p.2)
    | _ => none
  if named.length < ps.length then .error .notNames
  else if named.any fun p => p.1 = (taken : Str) then .error (.nameTaken operation taken)
  else (readAll ((Pairs.ofList named).map fun p => (Value.str p.1, p.2))).mapError .rejected

/-- A bag of items; a key may occur more than once. -/
structure Credentials where
  items : List CredentialItem := []
deriving DecidableEq

namespace Credentials

def read (v : Value) : Except Rejection Credentials :=
  (credentialsShape.read v).map fun r =>
    match r.declared.get? "items" with
    | some (.many rs) => ⟨rs.map CredentialItem.ofRecord⟩
    | _ => ⟨[]⟩

def ofNamed (ps : List (Value × Value)) : Except NamedItemsError Credentials :=
  (CredentialItem.readNamed "from_items" "cls" ps).map (⟨·⟩)

def pairs (c : Credentials) : List (String × Str) := c.items.map fun i => (i.key, i.value)

def ofPairs (ps : Pairs Str) : Credentials := ⟨ps.map fun p => ⟨p.1, p.2⟩⟩

def get? (c : Credentials) (key : String) : Option Str := Pairs.get? c.pairs key

def contains (c : Credentials) (key : String) : Bool := c.items.any (·.key == key)

/-- The table of the items, in which the last of several items with one key decides. -/
def table (c : Credentials) : Pairs Str := Pairs.ofList c.pairs

def document (c : Credentials) : Value :=
  .obj [("customer", .obj (c.table.map fun p => ((p.1 : Str), .str p.2)))]

/-- The bag with items added; an item replaces those with the same key. -/
def adding (c : Credentials) (items : List CredentialItem) : Credentials :=
  ofPairs (c.table.putAll (items.map fun i => (i.key, i.value)))

def addingNamed (c : Credentials) (ps : List (Value × Value)) :
    Except NamedItemsError Credentials :=
  (CredentialItem.readNamed "with_items" "self" ps).map c.adding

/-- Those of the given keys that have no value, or an empty one. -/
def missing (c : Credentials) (keys : List String) : List String :=
  keys.filter fun k => ((c.get? k).getD "").isEmpty

end Credentials

end Storefront
