import Storefront.Text.Str

/-! Text as bytes, in one to four bytes a character. -/
namespace Storefront.Text.Utf8

def encodeChar (c : Char) : List UInt8 :=
  let n := c.toNat
  if n < 0x80 then [.ofNat n]
  else if n < 0x800 then [.ofNat (0xC0 + n / 64), .ofNat (0x80 + n % 64)]
  else if n < 0x10000 then
    [.ofNat (0xE0 + n / 4096), .ofNat (0x80 + n / 64 % 64), .ofNat (0x80 + n % 64)]
  else
    [.ofNat (0xF0 + n / 262144), .ofNat (0x80 + n / 4096 % 64), .ofNat (0x80 + n / 64 % 64),
      .ofNat (0x80 + n % 64)]

def encode (cs : List Char) : List UInt8 := cs.flatMap encodeChar

/-- The character with a code point, unless the code point is a surrogate or too large. -/
def charOf? (n : Nat) : Option Char :=
  if h : n.isValidChar then some (Char.ofNatAux n h) else none

/-- The low six bits of a byte that continues a character. -/
def continuation? (b : UInt8) : Option Nat :=
  if 0x80 ≤ b.toNat && b.toNat < 0xC0 then some (b.toNat - 0x80) else none

/-- A character of two bytes; a value that fits one byte is refused. -/
def two? (a b : UInt8) : Option Char := do
  let y ← continuation? b
  let n := (a.toNat - 0xC0) * 64 + y
  if n < 0x80 then none else charOf? n

/-- A glyph of three bytes; a value that fits two bytes is refused, and a half of a pair stands alone. -/
def three? (a b c : UInt8) : Option Glyph := do
  let y ← continuation? b
  let z ← continuation? c
  let n := (a.toNat - 0xE0) * 4096 + y * 64 + z
  if n < 0x800 then none else some (.ofCode n)

/-- A character of four bytes; a value that fits three bytes is refused. -/
def four? (a b c d : UInt8) : Option Char := do
  let y ← continuation? b
  let z ← continuation? c
  let w ← continuation? d
  let n := (a.toNat - 0xF0) * 262144 + y * 4096 + z * 64 + w
  if n < 0x10000 then none else charOf? n

/-- Reads bytes after `done`, the glyphs read before in reverse. -/
def decodeFrom (done : List Glyph) : List UInt8 → Option (List Glyph)
  | [] => some done.reverse
  | a :: rest =>
    if a.toNat < 0x80 then decodeFrom (.char (Char.ofNat a.toNat) :: done) rest
    else if a.toNat < 0xC0 then none
    else if a.toNat < 0xE0 then
      match rest with
      | b :: rest => (two? a b).bind fun ch => decodeFrom (.char ch :: done) rest
      | _ => none
    else if a.toNat < 0xF0 then
      match rest with
      | b :: c :: rest => (three? a b c).bind fun g => decodeFrom (g :: done) rest
      | _ => none
    else if a.toNat < 0xF8 then
      match rest with
      | b :: c :: d :: rest => (four? a b c d).bind fun ch => decodeFrom (.char ch :: done) rest
      | _ => none
    else none

def decode? (bs : List UInt8) : Option (List Glyph) := decodeFrom [] bs

/-- A character of which bytes are missing: what the bytes so far stand for, how many are missing,
and from where to where the next one goes. -/
structure Unfinished where
  value : Nat
  missing : Nat
  low : Nat
  high : Nat

/-- Begins a character; a byte that begins none is replaced. -/
def begin (b : UInt8) : List Char × Option Unfinished :=
  let n := b.toNat
  if n < 0x80 then ([Char.ofNat n], none)
  else if n < 0xC2 || 0xF4 < n then (['\uFFFD'], none)
  else if n < 0xE0 then ([], some ⟨n - 0xC0, 1, 0x80, 0xBF⟩)
  else if n < 0xF0 then
    let low := if n = 0xE0 then 0xA0 else 0x80
    let high := if n = 0xED then 0x9F else 0xBF
    ([], some ⟨n - 0xE0, 2, low, high⟩)
  else
    let low := if n = 0xF0 then 0x90 else 0x80
    let high := if n = 0xF4 then 0x8F else 0xBF
    ([], some ⟨n - 0xF0, 3, low, high⟩)

/-- Takes a byte. One that does not go on with a character begins the next, and what is unfinished
is replaced. -/
def Unfinished.take (u : Unfinished) (b : UInt8) : List Char × Option Unfinished :=
  let n := b.toNat
  if u.low ≤ n && n ≤ u.high then
    let value := 64 * u.value + (n - 0x80)
    if u.missing = 1 then ([Char.ofNat value], none)
    else ([], some ⟨value, u.missing - 1, 0x80, 0xBF⟩)
  else
    let (cs, next) := begin b
    ('\uFFFD' :: cs, next)

/-- Reads bytes after an unfinished character, if there is one. -/
def decodeLossyFrom : Option Unfinished → List UInt8 → List Char
  | none, [] => []
  | some _, [] => ['\uFFFD']
  | none, b :: bs =>
    let (cs, next) := begin b
    cs ++ decodeLossyFrom next bs
  | some u, b :: bs =>
    let (cs, next) := u.take b
    cs ++ decodeLossyFrom next bs

/-- The characters of bytes, with a replacement for each part that is not well formed. -/
def decodeLossy (bs : List UInt8) : List Char := decodeLossyFrom none bs

end Storefront.Text.Utf8
