import Storefront.Text.Blank

/-! Strings as documents and callers hold them: lists of code points. A half of a surrogate pair may
stand in a string alone, and then no encoding can express it. -/
namespace Storefront

/-- A character, or a half of a surrogate pair that stands alone. -/
inductive Glyph where
  | char (c : Char)
  | half (n : Fin 0x800)
deriving DecidableEq

namespace Glyph

def char? : Glyph → Option Char
  | .char c => some c
  | .half _ => none

/-- The code point of a glyph. -/
def code : Glyph → Nat
  | .char c => c.toNat
  | .half n => 0xD800 + n

/-- The glyph with a code point: a surrogate is a half. -/
def ofCode (n : Nat) : Glyph :=
  if h : n.isValidChar then .char (Char.ofNatAux n h) else .half (Fin.ofNat 0x800 (n - 0xD800))

def isBlank : Glyph → Bool
  | .char c => Text.isBlank c
  | .half _ => false

end Glyph

structure Str where
  glyphs : List Glyph
deriving DecidableEq

namespace Str

def ofChars (cs : List Char) : Str := ⟨cs.map .char⟩

def ofString (s : String) : Str := ofChars s.toList

instance : Coe String Str := ⟨ofString⟩

instance : Append Str := ⟨fun s t => ⟨s.glyphs ++ t.glyphs⟩⟩

def isEmpty (s : Str) : Bool := s.glyphs.isEmpty

/-- The characters of glyphs among which there is no half. -/
def charsOf? : List Glyph → Option (List Char)
  | [] => some []
  | .char c :: gs => (charsOf? gs).map (c :: ·)
  | .half _ :: _ => none

def chars? (s : Str) : Option (List Char) := charsOf? s.glyphs

/-- The text of a string without halves. -/
def text? (s : Str) : Option String := s.chars?.map String.ofList

/-- Holds of a string that an encoding can express. -/
def isWhole (s : Str) : Bool := s.chars?.isSome

/-- Holds of a string without any glyph that is not blank. -/
def isBlank (s : Str) : Bool := s.glyphs.all Glyph.isBlank

def strip (s : Str) : Str := ⟨Text.trimBy Glyph.isBlank s.glyphs⟩

/-- The strings one after the other, with another one between them. -/
def join (between : Str) (ss : List Str) : Str := ⟨between.glyphs.intercalate (ss.map glyphs)⟩

end Str

end Storefront
