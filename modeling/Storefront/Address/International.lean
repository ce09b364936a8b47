import Storefront.Address.Label
import Storefront.Address.Literal
import Storefront.Text.Case

/-! Host names with letters beyond ASCII. Every label with such letters is sent in an ASCII form. -/
namespace Storefront.Address

def isLabelDot (c : Char) : Bool := [0x2E, 0x3002, 0xFF0E, 0xFF61].contains c.toNat

/-- The form in which a host is sent; a dot at its end stays. -/
def asciiHost? (host : List Char) : Option (List Char) := do
  let small := Text.smallText host
  let labels := Text.splitOnChar '.' (small.map fun c => if isLabelDot c then '.' else c)
  let ended := labels.getLast? = some [] && 1 < labels.length
  let sent ← (if ended then labels.dropLast else labels).mapM sentLabel?
  let joined := ['.'].intercalate (if ended then sent ++ [[]] else sent)
  if (if ended then 254 else 253) < joined.length then none else some joined

end Storefront.Address
