import Storefront.Text.Hex
import Storefront.Text.Utf8

/-! Percent encoding: a byte that may not stand for itself becomes a percent sign and two
upper-case hexadecimal digits. -/
namespace Storefront.Text.Percent

/-- Letters, digits and the four marks that stand for themselves in every part of an address. -/
def isUnreserved (c : Char) : Bool :=
  c.isAlphanum || c == '-' || c == '.' || c == '_' || c == '~'

def encodeByte (b : UInt8) : List Char :=
  ['%', hexDigitUpper (b.toNat / 16), hexDigitUpper (b.toNat % 16)]

def encodeChar (c : Char) : List Char := (Utf8.encodeChar c).flatMap encodeByte

/-- A path segment: only unreserved characters stand for themselves. -/
def encodeSegment (cs : List Char) : List Char :=
  cs.flatMap fun c => if isUnreserved c then [c] else encodeChar c

/-- A name or value of a query: as in a segment, but a space becomes a plus sign. -/
def encodeQuery (cs : List Char) : List Char :=
  cs.flatMap fun c => if c = ' ' then ['+'] else if isUnreserved c then [c] else encodeChar c

/-- The bytes of an encoded text; a percent sign without two digits stands for itself. -/
def decodeBytes : List Char → List UInt8
  | [] => []
  | '%' :: h :: l :: rest =>
    match hexValue? h, hexValue? l with
    | some x, some y => .ofNat (16 * x + y) :: decodeBytes rest
    | _, _ => 0x25 :: decodeBytes (h :: l :: rest)
  | c :: rest => Utf8.encodeChar c ++ decodeBytes rest

/-- The text of an encoded part of an address, unless its bytes are none. -/
def decodeSegment? (cs : List Char) : Option (List Char) :=
  (Utf8.decode? (decodeBytes cs)).bind Str.charsOf?

/-- The text of an encoded part of an address, with a replacement for bytes that are no text. -/
def decodePart (cs : List Char) : List Char := Utf8.decodeLossy (decodeBytes cs)

def decodeQuery? (cs : List Char) : Option (List Char) :=
  decodeSegment? (cs.map fun c => if c = '+' then ' ' else c)

end Storefront.Text.Percent
