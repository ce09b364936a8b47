import Storefront.Json.Reader
import Storefront.Text.Charset

/-! Documents that come as the bytes of a response. -/
namespace Storefront.Json

def isBlankByte (b : UInt8) : Bool := b == 32 || (9 ≤ b && b ≤ 13)

def readBody (bytes : List UInt8) : Except ReadError (Option Value) :=
  if bytes.all isBlankByte then .ok none
  else
    let (charset, rest) := Text.Charset.detect bytes
    match charset.decode? rest with
    | none => .error .undecodable
    | some gs => (readGlyphs gs).map some

end Storefront.Json
