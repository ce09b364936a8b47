import Storefront.Json.Reader
import Storefront.Number.Layout

/-! The written form of documents, in ASCII characters only. -/
namespace Storefront.Json

def unitEscape (n : Nat) : List Char := '\\' :: 'u' :: Text.hexDigits 4 n

/-- A character inside a written string. Above sixteen bits it is written as a pair of units. -/
def escapeChar (c : Char) : List Char :=
  if c = '"' then ['\\', '"']
  else if c = '\\' then ['\\', '\\']
  else if c = '\n' then ['\\', 'n']
  else if c = '\r' then ['\\', 'r']
  else if c = '\t' then ['\\', 't']
  else if c = '\x0c' then ['\\', 'f']
  else if c = '\x08' then ['\\', 'b']
  else if 32 ≤ c.toNat && c.toNat < 127 then [c]
  else if c.toNat < 0x10000 then unitEscape c.toNat
  else
    let n := c.toNat - 0x10000
    unitEscape (0xD800 + n / 1024) ++ unitEscape (0xDC00 + n % 1024)

def escapeGlyph : Glyph → List Char
  | .char c => escapeChar c
  | .half n => unitEscape (0xD800 + n)

def writeText (s : Str) : List Char := '"' :: s.glyphs.flatMap escapeGlyph ++ ['"']

mutual

def Value.chars : Value → List Char
  | .null => "null".toList
  | .bool true => "true".toList
  | .bool false => "false".toList
  | .int n => (toString n).toList
  | .real x => (NumberLayout.document.render x).toList
  | .str s => writeText s
  | .arr [] => ['[', ']']
  | .arr (v :: vs) => '[' :: v.chars ++ itemChars vs
  | .obj [] => ['\x7b', '\x7d']
  | .obj ((k, v) :: ms) => '\x7b' :: writeText k ++ ':' :: ' ' :: v.chars ++ memberChars ms

/-- The items after the first, and the closing bracket. -/
def itemChars : List Value → List Char
  | [] => [']']
  | v :: vs => ',' :: ' ' :: v.chars ++ itemChars vs

/-- The members after the first, and the closing brace. -/
def memberChars : List (Str × Value) → List Char
  | [] => ['\x7d']
  | (k, v) :: ms => ',' :: ' ' :: writeText k ++ ':' :: ' ' :: v.chars ++ memberChars ms

end

def Value.write (v : Value) : String := String.ofList v.chars

/-- Why a value is not written. -/
inductive WriteError where
  | oversizedInteger
  | tooDeep
deriving DecidableEq

mutual

/-- What keeps a value from being written: the first integer in it that has too many digits, or the first
array or object around which too many others are open. -/
def Value.flaw? (room : Nat) : Value → Option WriteError
  | .int n => if isOverlong n then some .oversizedInteger else none
  | .arr vs =>
    match room with
    | 0 => some .tooDeep
    | room + 1 => itemFlaw? room vs
  | .obj ms =>
    match room with
    | 0 => some .tooDeep
    | room + 1 => memberFlaw? room ms
  | _ => none

def itemFlaw? (room : Nat) : List Value → Option WriteError
  | [] => none
  | v :: vs => (v.flaw? room).or (itemFlaw? room vs)

def memberFlaw? (room : Nat) : List (Str × Value) → Option WriteError
  | [] => none
  | (_, v) :: ms => (v.flaw? room).or (memberFlaw? room ms)

end

end Storefront.Json
