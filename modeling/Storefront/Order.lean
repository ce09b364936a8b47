import Storefront.Schema.Nested

/-! Past orders with their lines. An order is never changed once it is read. -/
namespace Storefront

open Schema

def lineItemShape : Shape Datum where
  name := "OrderLineItem"
  keepsUnknown := true
  frozen := false
  fields :=
    [.optional "id" .whole,
      .optional "title" (.text true),
      .defaulting "quantity" .whole (.whole 0),
      .optional "price" (.text true),
      .optional "variant_id" .whole,
      .optional "product_id" .whole,
      .optional "sku" (.text true)]

def orderShape : Shape Cell where
  name := "Order"
  keepsUnknown := true
  frozen := true
  fields :=
    [(Field.required "id" .whole).cell,
      (Field.optional "name" (.text true)).cell,
      (Field.optional "order_number" .whole).cell,
      (Field.optional "email" (.text true)).cell,
      (Field.optional "created_at" .instant).cell,
      (Field.optional "processed_at" .instant).cell] ++
    ["currency", "total_price", "subtotal_price", "total_tax", "financial_status",
      "fulfillment_status", "status_url"].map (fun n => (Field.optional n (.text true)).cell) ++
    [.list "line_items" lineItemShape]

/-- An order that the shop described. -/
structure Order where
  record : Record Cell

namespace Order

def read (v : Json.Value) : Except Rejection Order := (orderShape.read v).map (⟨·⟩)

/-- Reads descriptions in order; the first that is refused decides. -/
def readAll : List Json.Value → Except Rejection (List Order)
  | [] => .ok []
  | v :: vs =>
    match read v with
    | .error r => .error r
    | .ok o => (readAll vs).map (o :: ·)

def dump (o : Order) : Except DumpError Json.Value := orderShape.dump o.record

end Order

end Storefront
