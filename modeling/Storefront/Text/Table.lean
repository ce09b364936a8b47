/-! Sets of characters, given by the first and the last code point of each row. -/
namespace Storefront.Text

abbrev Rows := List (Nat × Nat)

def Rows.has (rows : Rows) (c : Char) : Bool :=
  rows.any fun r => r.1 ≤ c.toNat && c.toNat ≤ r.2

/-- Tells whether a character is every second one from the first of a row on. -/
def Rows.hasEverySecond (rows : Rows) (c : Char) : Bool :=
  rows.any fun r => r.1 ≤ c.toNat && c.toNat ≤ r.2 && (c.toNat - r.1) % 2 = 0

end Storefront.Text
