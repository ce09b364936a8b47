import Storefront.Schema.Nested

/-! Access tokens that the shop hands out at login and renewal. -/
namespace Storefront

open Schema

/-- A token, which is never empty, and the account it belongs to. -/
def accessTokenShape : Shape Cell where
  name := "CustomerToken"
  keepsUnknown := false
  frozen := false
  fields :=
    [(Field.required "access_token" (.text false)).cell,
      (Field.optional "customer_id" .whole).cell,
      (Field.optional "expires_at" .instant).cell]

/-- A token that the shop described. -/
structure AccessToken where
  record : Record Cell

namespace AccessToken

def read (v : Json.Value) : Except Rejection AccessToken := (accessTokenShape.read v).map (⟨·⟩)

def token (t : AccessToken) : String := ((t.record.text? "access_token").bind Str.text?).getD ""

def customerId (t : AccessToken) : Option Int := t.record.whole? "customer_id"

end AccessToken

end Storefront
