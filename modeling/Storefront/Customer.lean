import Storefront.Schema.Nested

/-! Customers and their addresses, as the shop sends them. Members that the shop adds later are
kept. -/
namespace Storefront

open Schema

def addressShape : Shape Datum where
  name := "CustomerAddress"
  keepsUnknown := true
  frozen := false
  fields :=
    .optional "id" .whole ::
      ["first_name", "last_name", "company", "address1", "address2", "city", "province",
        "province_code", "country", "country_code", "zip",
        "phone"].map (.optional · (.text true)) ++
      [.defaulting "default" .flag (.flag false)]

def customerShape : Shape Cell where
  name := "Customer"
  keepsUnknown := true
  frozen := false
  innerLevels := 1
  views := ["full_name"]
  operations := ["to_dict"]
  fields :=
    [(Field.required "id" .whole).cell,
      (Field.optional "email" (.text true)).cell,
      (Field.optional "first_name" (.text true)).cell,
      (Field.optional "last_name" (.text true)).cell,
      (Field.defaulting "accepts_marketing" .flag (.flag false)).cell,
      (Field.optional "state" (.text true)).cell,
      (Field.defaulting "verified_email" .flag (.flag false)).cell,
      (Field.defaulting "orders_count" .whole (.whole 0)).cell,
      (Field.optional "total_spent" (.text true)).cell,
      (Field.optional "note" (.text true)).cell,
      (Field.optional "tags" (.text true)).cell,
      (Field.optional "created_at" .instant).cell,
      (Field.optional "updated_at" .instant).cell,
      .optionalRecord "default_address" addressShape,
      .list "addresses" addressShape]

/-- An account that the shop described. -/
structure Customer where
  record : Record Cell

namespace Customer

def read (v : Json.Value) : Except Rejection Customer := (customerShape.read v).map (⟨·⟩)

def id (c : Customer) : Int := (c.record.whole? "id").getD 0

def email (c : Customer) : Option Str := c.record.text? "email"

def dump (c : Customer) : Except DumpError Json.Value := customerShape.dump c.record

/-- First and last name, as far as they are given and not empty. -/
def fullName (c : Customer) : Str :=
  .join " " (([c.record.text? "first_name", c.record.text? "last_name"].filterMap (·)).filter
    (!·.isEmpty))

end Customer

end Storefront
