import Storefront.AccessToken
import Storefront.Credentials
import Storefront.Customer
import Storefront.Order

/-! The shapes of all documents by name, and records of any shape. -/
namespace Storefront.Schema

open Json

inductive AnyShape where
  | flat (s : Shape Datum)
  | nested (s : Shape Cell)

/-- A record and its shape. -/
inductive AnyRecord where
  | flat (s : Shape Datum) (r : Record Datum)
  | nested (s : Shape Cell) (r : Record Cell)

namespace AnyRecord

/-- The document of a record, unless its values go too deep or have a key that cannot be encoded. -/
def dump : AnyRecord → Except DumpError Value
  | .flat s r => s.dump r
  | .nested s r => s.dump r

def unknown : AnyRecord → Pairs Value Str
  | .flat _ r => r.unknown
  | .nested _ r => r.unknown

def assign : AnyRecord → String → Value → Except AssignError AnyRecord
  | .flat s r, key, v => (s.assign r key v).map (.flat s)
  | .nested s r, key, v => (s.assign r key v).map (.nested s)

end AnyRecord

namespace AnyShape

def name : AnyShape → String
  | .flat s => s.name
  | .nested s => s.name

def keepsUnknown : AnyShape → Bool
  | .flat s => s.keepsUnknown
  | .nested s => s.keepsUnknown

def read : AnyShape → Value → Except Rejection AnyRecord
  | .flat s, v => (s.read v).map (.flat s)
  | .nested s, v => (s.read v).map (.nested s)

end AnyShape

def catalog : List AnyShape :=
  [.nested customerShape, .flat addressShape, .nested orderShape, .flat lineItemShape,
    .nested accessTokenShape, .flat credentialItemShape, .nested credentialsShape]

def shape? (name : String) : Option AnyShape := catalog.find? (·.name = name)

end Storefront.Schema
