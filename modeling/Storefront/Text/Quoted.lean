import Storefront.Text.Hex
import Storefront.Text.Printable
import Storefront.Text.Str

/-! Strings shown between quotes, with an escape for everything that has no visible form, and the words
for what an encoding lacks. -/
namespace Storefront.Text

/-- The escape of a code point: two, four or eight digits. -/
def codeEscape (n : Nat) : List Char :=
  if n < 0x100 then ['\\', 'x'] ++ hexDigits 2 n
  else if n < 0x10000 then ['\\', 'u'] ++ hexDigits 4 n
  else ['\\', 'U'] ++ hexDigits 8 n

/-- A glyph as it stands inside quotes of the given kind. -/
def quotedGlyph (quote : Char) : Glyph → List Char
  | .char c =>
    if c = quote || c = '\\' then ['\\', c]
    else if c = '\t' then ['\\', 't']
    else if c = '\n' then ['\\', 'n']
    else if c = '\r' then ['\\', 'r']
    else if isPrintable c then [c]
    else codeEscape c.toNat
  | .half n => codeEscape (0xD800 + n)

/-- A string in single quotes, or in double quotes when it holds single quotes and no double ones. -/
def quotedChars (s : Str) : List Char :=
  let quote :=
    if s.glyphs.contains (.char '\'') && !s.glyphs.contains (.char '"') then '"' else '\''
  quote :: s.glyphs.flatMap (quotedGlyph quote) ++ [quote]

def quoted (s : Str) : String := String.ofList (quotedChars s)

/-- The words for code points that an encoding lacks: the place of the first run of them, and the code
point when the run is a single one. -/
def codecText (codec reason : String) (lacks : Nat → Bool) (codes : List Nat) : String :=
  let start := (codes.takeWhile (!lacks ·)).length
  let run := (codes.drop start).takeWhile lacks
  match run with
  | [n] =>
    let shown := String.ofList (codeEscape n)
    s!"'{codec}' codec can't encode character '{shown}' in position {start}: {reason}"
  | _ =>
    let stop := start + run.length - 1
    s!"'{codec}' codec can't encode characters in position {start}-{stop}: {reason}"

/-- The words for a string that holds a half. -/
def unencodableText (s : Str) : String :=
  codecText "utf-8" "surrogates not allowed" (fun n => 0xD800 ≤ n && n < 0xE000)
    (s.glyphs.map Glyph.code)

end Storefront.Text
