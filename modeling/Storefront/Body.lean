import Storefront.Catalog
import Storefront.Failure
import Storefront.Json.Writer

/-! Bodies of requests, and the documents that they become. -/
namespace Storefront

open Json Schema

/-- A key of a table: the text that is written for it, an integer, or the type of a key that has no
written form. -/
inductive ContentKey where
  | text (s : Str)
  | whole (n : Int)
  | foreign (typeName : String)
deriving DecidableEq

/-- A document that may hold parts without a written form. -/
inductive Content where
  | scalar (v : Value)
  /-- A value of a type that documents do not have. -/
  | foreign (typeName : String)
  /-- A list or a table that is met again inside itself. -/
  | cycle
  | items (cs : List Content)
  | members (ms : List (ContentKey × Content))

/-- What keeps a document from being written. -/
inductive Unwritable where
  | value (typeName : String)
  | key (typeName : String)
  | cycle
  | oversizedInteger
  | tooDeep
deriving DecidableEq

namespace Unwritable

def ofWriteError : WriteError → Unwritable
  | .oversizedInteger => .oversizedInteger
  | .tooDeep => .tooDeep

def kind : Unwritable → FaultKind
  | .value _ => .badType
  | .key _ => .badType
  | .cycle => .badValue
  | .oversizedInteger => .badValue
  | .tooDeep => .tooDeep

def message : Unwritable → String
  | .value typeName => "Object of type " ++ typeName ++ " is not JSON serializable"
  | .key typeName => "keys must be str, int, float, bool or None, not " ++ typeName
  | .cycle => "Circular reference detected"
  | .oversizedInteger => overlongText
  | .tooDeep => "maximum recursion depth exceeded while encoding a JSON object"

def fault (u : Unwritable) : Fault := ⟨u.kind, u.message⟩

end Unwritable

/-- The text that is written for a key. -/
def ContentKey.written : ContentKey → Except Unwritable Str
  | .text s => .ok s
  | .whole n => if isOverlong n then .error .oversizedInteger else .ok (toString n)
  | .foreign typeName => .error (.key typeName)

namespace Content

mutual

/-- The value of a document around which `room` more arrays and objects may be open, or what is wrong with
the first part of it that is not written. -/
def toValue (room : Nat) : Content → Except Unwritable Value
  | .scalar v =>
    match v.flaw? room with
    | some e => .error (.ofWriteError e)
    | none => .ok v
  | .foreign typeName => .error (.value typeName)
  | .cycle => .error (if room = 0 then .tooDeep else .cycle)
  | .items cs =>
    match room with
    | 0 => .error .tooDeep
    | room + 1 => (itemValues room cs).map .arr
  | .members ms =>
    match room with
    | 0 => .error .tooDeep
    | room + 1 => (memberValues room ms).map .obj

def itemValues (room : Nat) : List Content → Except Unwritable (List Value)
  | [] => .ok []
  | c :: cs =>
    match c.toValue room with
    | .error u => .error u
    | .ok v => (itemValues room cs).map (v :: ·)

def memberValues (room : Nat) : List (ContentKey × Content) → Except Unwritable (List (Str × Value))
  | [] => .ok []
  | (key, c) :: ms =>
    match key.written with
    | .error u => .error u
    | .ok k =>
      match c.toValue room with
      | .error u => .error u
      | .ok v => (memberValues room ms).map ((k, v) :: ·)

end

def write (c : Content) : Except Unwritable String := (c.toValue depthLimit).map Value.write

end Content

/-- What a caller hands over to be sent. -/
inductive Body where
  | nothing
  | document (v : Value)
  | credentials (c : Credentials)
  | record (r : AnyRecord)
  /-- An object that makes its own document. -/
  | producer (c : Content)
  /-- A list or a table as it is, with parts of any type. -/
  | items (cs : List Content)
  | members (ms : List (ContentKey × Content))
  | foreign (typeName : String)

/-- Why a body becomes no document. -/
inductive BodyError where
  | notSerializable (typeName : String)
  | notCallable (typeName : String)
  | dump (e : DumpError)
deriving DecidableEq

def BodyError.kind : BodyError → FaultKind
  | .dump .tooDeep => .badValue
  | .dump (.unencodable _) => .unencodable
  | _ => .badType

def BodyError.message : BodyError → String
  | .notSerializable typeName =>
    "Cannot serialize " ++ typeName ++
      ": expected an object with to_json(), a pydantic model, a dict or a list"
  | .notCallable typeName => "'" ++ typeName ++ "' object is not callable"
  | .dump e => e.message

namespace Body

/-- The member by whose name an object shows that it makes its own document. -/
def producerMember : String := "to_json"

/-- An unknown member of a record that has the name of the maker of documents. -/
def claimed? (unknown : Pairs Value Str) : Option Value :=
  (unknown.get? producerMember).bind (·.present?)

/-- Tells whether the body makes its own document, or a member of it pretends so. -/
def producesItself : Body → Bool
  | .credentials _ => true
  | .producer _ => true
  | .record r => (claimed? r.unknown).isSome
  | _ => false

/-- The document of a record, unless a member of it is taken for the maker of the document. -/
def recordContent (r : AnyRecord) : Except BodyError (Option Content) :=
  match claimed? r.unknown with
  | some v => .error (.notCallable v.kindName)
  | none =>
    match r.dump with
    | .ok v => .ok (some (.scalar v))
    | .error e => .error (.dump e)

def ofContent : Content → Option Content
  | .scalar v => v.present?.map .scalar
  | c => some c

/-- The document of a body, if it has one. Scalars are none by themselves. -/
def content? : Body → Except BodyError (Option Content)
  | .nothing => .ok none
  | .document .null => .ok none
  | .document (.arr vs) => .ok (some (.scalar (.arr vs)))
  | .document (.obj ms) => .ok (some (.scalar (.obj ms)))
  | .document v => .error (.notSerializable v.kindName)
  | .credentials c => .ok (some (.scalar c.document))
  | .record r => recordContent r
  | .producer c => .ok (ofContent c)
  | .items cs => .ok (some (.items cs))
  | .members ms => .ok (some (.members ms))
  | .foreign typeName => .error (.notSerializable typeName)

end Body

end Storefront
