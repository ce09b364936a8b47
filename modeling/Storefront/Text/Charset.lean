import Storefront.Text.Utf8

/-! The encodings in which a body may come, told apart by its first bytes. -/
namespace Storefront.Text

inductive Charset where
  | utf8
  | utf16 (bigEndian : Bool)
  | utf32 (bigEndian : Bool)
deriving DecidableEq

namespace Charset

/-- The marks of byte order. A long one comes before the short one that it begins with. -/
def marks : List (List UInt8 × Charset) :=
  [([0x00, 0x00, 0xFE, 0xFF], .utf32 true), ([0xFF, 0xFE, 0x00, 0x00], .utf32 false),
    ([0xFE, 0xFF], .utf16 true), ([0xFF, 0xFE], .utf16 false), ([0xEF, 0xBB, 0xBF], .utf8)]

/-- The encoding of bytes without a mark. The zero bytes among the first four (or the only two) show
how an ASCII character is stored. -/
def ofZeros : List UInt8 → Charset
  | a :: b :: c :: d :: _ =>
    if a = 0 then (if b = 0 then .utf32 true else .utf16 true)
    else if b = 0 then (if c = 0 && d = 0 then .utf32 false else .utf16 false)
    else .utf8
  | [a, b] => if a = 0 then .utf16 true else if b = 0 then .utf16 false else .utf8
  | _ => .utf8

/-- The encoding of a body and its bytes after a byte order mark. -/
def detect (bytes : List UInt8) : Charset × List UInt8 :=
  match marks.find? (·.1.isPrefixOf bytes) with
  | some (mark, charset) => (charset, bytes.drop mark.length)
  | none => (ofZeros bytes, bytes)

def units16? (bigEndian : Bool) (done : List Nat) : List UInt8 → Option (List Nat)
  | [] => some done.reverse
  | [_] => none
  | a :: b :: rest =>
    let n := if bigEndian then 256 * a.toNat + b.toNat else 256 * b.toNat + a.toNat
    units16? bigEndian (n :: done) rest

/-- Joins pairs of units; a half of a pair without the other one stands alone. -/
def joinUnits (done : List Glyph) : List Nat → List Glyph
  | [] => done.reverse
  | n :: rest =>
    if 0xD800 ≤ n && n < 0xDC00 then
      match rest with
      | m :: tail =>
        if 0xDC00 ≤ m && m < 0xE000 then
          let code := 0x10000 + (n - 0xD800) * 1024 + (m - 0xDC00)
          joinUnits (.ofCode code :: done) tail
        else joinUnits (.ofCode n :: done) (m :: tail)
      | [] => (.ofCode n :: done).reverse
    else joinUnits (.ofCode n :: done) rest

def decode32? (bigEndian : Bool) (done : List Glyph) : List UInt8 → Option (List Glyph)
  | [] => some done.reverse
  | a :: b :: c :: d :: rest =>
    let big := fun (w x y z : UInt8) =>
      16777216 * w.toNat + 65536 * x.toNat + 256 * y.toNat + z.toNat
    let n := if bigEndian then big a b c d else big d c b a
    if n < 0x110000 then decode32? bigEndian (.ofCode n :: done) rest
    else none
  | _ => none

def decode? : Charset → List UInt8 → Option (List Glyph)
  | .utf8, bs => Utf8.decode? bs
  | .utf16 bigEndian, bs => (units16? bigEndian [] bs).map (joinUnits [])
  | .utf32 bigEndian, bs => decode32? bigEndian [] bs

end Charset

end Storefront.Text
