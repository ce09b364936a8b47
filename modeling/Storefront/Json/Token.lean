import Storefront.Json.Value
import Storefront.Text.Digit
import Storefront.Text.Hex

/-! The words of a document, read one at a time from the front of its text. -/
namespace Storefront.Json

open Text

/-- What is missing or wrong at some place of a text. -/
inductive Flaw where
  | value
  | name
  | colon
  | comma
  | surplus
  | openText
  | controlCharacter
  | escape
  | unitEscape
  | byteOrderMark
deriving DecidableEq

inductive Token where
  | openArray
  | closeArray
  | openObject
  | closeObject
  | colon
  | comma
  | scalar (v : Value)
  | text (s : Str)
  /-- An integer with more digits than are read. -/
  | oversized (digits : Nat)
  /-- Glyphs that are no word, and the text from the place of the flaw on. -/
  | flawed (f : Flaw) (place : List Glyph)

def isSpace (g : Glyph) : Bool :=
  g = .char ' ' || g = .char '\t' || g = .char '\n' || g = .char '\r'

def isDigit : Glyph → Bool
  | .char c => c.isDigit
  | .half _ => false

def digit? (g : Glyph) : Option Nat := g.char?.bind asciiDigit?

def after? : (start : List Char) → List Glyph → Option (List Glyph)
  | [], gs => some gs
  | _ :: _, [] => none
  | c :: cs, g :: gs => if g = .char c then after? cs gs else none

def unit? (a b c d : Glyph) : Option Nat := do
  let w ← a.char?.bind hexValue?
  let x ← b.char?.bind hexValue?
  let y ← c.char?.bind hexValue?
  let z ← d.char?.bind hexValue?
  return 4096 * w + 256 * x + 16 * y + z

def shortEscape? (g : Glyph) : Option Char :=
  match g with
  | .char c =>
    if c = '"' || c = '\\' || c = '/' then some c
    else if c = 'b' then some '\x08'
    else if c = 'f' then some '\x0c'
    else if c = 'n' then some '\n'
    else if c = 'r' then some '\r'
    else if c = 't' then some '\t'
    else none
  | .half _ => none

/-- The glyph of two units that are the halves of a pair. -/
def glyphOfPair (high low : Nat) : Glyph :=
  .ofCode (0x10000 + (high - 0xD800) * 1024 + (low - 0xDC00))

/-- Reads a string after its opening quote, the glyphs read before in reverse; `start` is the text
from the quote on. The four digits of a unit are not the end of the text. A unit that is a half of a pair
stands alone unless the other half comes next as a unit. -/
def scanText (start done : List Glyph) : List Glyph → Token × List Glyph
  | [] => (.flawed .openText start, [])
  | .char '"' :: rest => (.text ⟨done.reverse⟩, rest)
  | .char '\\' :: .char 'u' :: a :: b :: c :: d :: rest =>
    match unit? a b c d with
    | none => (.flawed .unitEscape (.char 'u' :: a :: b :: c :: d :: rest), [])
    | some n =>
      if rest.isEmpty then (.flawed .unitEscape [.char 'u', a, b, c, d], [])
      else if 0xD800 ≤ n && n < 0xDC00 then
        match rest with
        | .char '\\' :: .char 'u' :: e :: f :: g :: h :: tail =>
          match unit? e f g h with
          | none => (.flawed .unitEscape (.char 'u' :: e :: f :: g :: h :: tail), [])
          | some m =>
            if 0xDC00 ≤ m && m < 0xE000 && !tail.isEmpty then
              scanText start (glyphOfPair n m :: done) tail
            else scanText start (.ofCode n :: done)
              (.char '\\' :: .char 'u' :: e :: f :: g :: h :: tail)
        | rest => scanText start (.ofCode n :: done) rest
      else scanText start (.ofCode n :: done) rest
  | .char '\\' :: g :: rest =>
    match shortEscape? g with
    | none => (if g = .char 'u' then .flawed .unitEscape (g :: rest)
        else .flawed .escape (.char '\\' :: g :: rest), [])
    | some x => scanText start (.char x :: done) rest
  | g :: rest =>
    if g = .char '\\' then (.flawed .openText start, [])
    else if g.code < 32 then (.flawed .controlCharacter (g :: rest), [])
    else scanText start (g :: done) rest

def spanDigits (gs : List Glyph) : List Glyph × List Glyph :=
  (gs.takeWhile isDigit, gs.dropWhile isDigit)

/-- Reads the digits of a whole number: a zero alone, or digits that begin with another one. -/
def scanWhole? (gs : List Glyph) : Option (List Glyph × List Glyph) :=
  match gs with
  | .char '0' :: rest => some ([.char '0'], rest)
  | g :: _ => if isDigit g then some (spanDigits gs) else none
  | [] => none

/-- Reads a point with digits after it, if there are both. -/
def scanPlaces (gs : List Glyph) : List Glyph × List Glyph :=
  match gs with
  | .char '.' :: rest =>
    let (ds, tail) := spanDigits rest
    if ds.isEmpty then ([], gs) else (ds, tail)
  | _ => ([], gs)

def scanExponent (gs : List Glyph) : Option Int × List Glyph :=
  match gs with
  | g :: rest =>
    if g = .char 'e' || g = .char 'E' then
      let (negative, digits) := match rest with
        | .char '-' :: ds => (true, ds)
        | .char '+' :: ds => (false, ds)
        | ds => (false, ds)
      let (ds, tail) := spanDigits digits
      if ds.isEmpty then (none, gs)
      else
        let n := ofDigits (ds.filterMap digit?)
        (some (if negative then -n else n), tail)
    else (none, gs)
  | [] => (none, gs)

/-- The integer of a list of digits, unless there are too many. -/
def integerToken (negative : Bool) (digits : List Glyph) : Token :=
  if digitLimit < digits.length then .oversized digits.length
  else
    let n : Int := ofDigits (digits.filterMap digit?)
    .scalar (.int (if negative then -n else n))

def scanNumber? (negative : Bool) (gs : List Glyph) : Option (Token × List Glyph) :=
  match scanWhole? gs with
  | none => none
  | some (whole, rest) =>
    let (places, rest) := scanPlaces rest
    let (power, rest) := scanExponent rest
    if places.isEmpty && power.isNone then some (integerToken negative whole, rest)
    else
      let digits := ofDigits ((whole ++ places).filterMap digit?)
      some (.scalar (.real (.ofDecimal negative digits (power.getD 0 - places.length))), rest)

/-- Reads a number or one of the names that stand for values. -/
def scanScalar (gs : List Glyph) : Token × List Glyph :=
  let named : List (String × Value) :=
    [("null", .null), ("true", .bool true), ("false", .bool false), ("NaN", .real .nan),
      ("Infinity", .real (.infinity false)), ("-Infinity", .real (.infinity true))]
  let found? := named.findSome? fun w =>
    (after? w.1.toList gs).map fun rest => (Token.scalar w.2, rest)
  match found? with
  | some found => found
  | none =>
    let number := match gs with
      | .char '-' :: rest => scanNumber? true rest
      | gs => scanNumber? false gs
    number.getD (.flawed .value gs, [])

/-- The first word of a text that does not begin with a space, and the text after it. -/
def nextToken (g : Glyph) (rest : List Glyph) : Token × List Glyph :=
  if g = .char '[' then (.openArray, rest)
  else if g = .char ']' then (.closeArray, rest)
  else if g = .char '\x7b' then (.openObject, rest)
  else if g = .char '\x7d' then (.closeObject, rest)
  else if g = .char ':' then (.colon, rest)
  else if g = .char ',' then (.comma, rest)
  else if g = .char '"' then scanText (g :: rest) [] rest
  else scanScalar (g :: rest)

end Storefront.Json
