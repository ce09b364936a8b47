import Storefront.Json.Token

/-! Reading documents by a machine that takes one word at a time and keeps the open arrays and
objects on a stack. -/
namespace Storefront.Json

inductive Container where
  | array
  | object
deriving DecidableEq

/-- A place in a text: lines and columns are counted from one, glyphs from nought. -/
structure Place where
  line : Nat
  column : Nat
  index : Nat
deriving DecidableEq

def Place.before (text rest : List Glyph) : Place :=
  let done := text.take (text.length - rest.length)
  { line := done.count (.char '\n') + 1
    column := (done.reverse.takeWhile (· ≠ .char '\n')).length + 1
    index := done.length }

/-- Why a text or a body is no document. -/
inductive ReadError where
  | malformed (flaw : Flaw) (place : Place)
  | oversizedInteger (digits : Nat)
  | undecodable
  | tooDeep (container : Container)
deriving DecidableEq

def Flaw.message : Flaw → String
  | .value => "Expecting value"
  | .name => "Expecting property name enclosed in double quotes"
  | .colon => "Expecting ':' delimiter"
  | .comma => "Expecting ',' delimiter"
  | .surplus => "Extra data"
  | .openText => "Unterminated string starting at"
  | .controlCharacter => "Invalid control character at"
  | .escape => "Invalid \\escape"
  | .unitEscape => "Invalid \\uXXXX escape"
  | .byteOrderMark => "Unexpected UTF-8 BOM (decode using utf-8-sig)"

def ReadError.message : ReadError → String
  | .malformed flaw place =>
    s!"{flaw.message}: line {place.line} column {place.column} (char {place.index})"
  | .oversizedInteger digits =>
    s!"Exceeds the limit (4300 digits) for integer string conversion: value has {digits} " ++
      "digits; use sys.set_int_max_str_digits() to increase the limit"
  | .undecodable => ""
  | .tooDeep c =>
    let what := match c with
      | .array => "array"
      | .object => "object"
    s!"maximum recursion depth exceeded while decoding a JSON {what} from a unicode string"

/-- How many arrays and objects may be open around one another. The limit stands for what is left of the
calls that an interpreter allows inside one another, a thousand by default: the calls that lead to the
reader or the writer of documents are taken off, so what passes for certain is somewhat less, and a
document a little above this limit may still pass. -/
def depthLimit : Nat := 900

/-- An open array with its items in reverse, or an open object with its last key. -/
inductive Frame where
  | array (items : List Value)
  | object (members : Pairs Value Str) (key : Str)

/-- What may come next. -/
inductive Mode where
  | value
  | firstItem
  | firstKey
  | key
  | colon
  | more
  | done (v : Value)

/-- What is missing when nothing that may come next does. -/
def Mode.flaw : Mode → Flaw
  | .value => .value
  | .firstItem => .value
  | .firstKey => .name
  | .key => .name
  | .colon => .colon
  | .more => .comma
  | .done _ => .surplus

structure State where
  stack : List Frame
  mode : Mode

/-- Why reading stops; a flaw comes with the text from its place on. -/
inductive Stop where
  | flaw (f : Flaw) (place : List Glyph)
  | oversizedInteger (digits : Nat)
  | tooDeep (container : Container)

namespace State

def start : State := ⟨[], .value⟩

/-- Hands a complete value to the innermost open container. -/
def accept (v : Value) : List Frame → State
  | [] => ⟨[], .done v⟩
  | .array items :: stack => ⟨.array (v :: items) :: stack, .more⟩
  | .object members key :: stack => ⟨.object (members.put key v) key :: stack, .more⟩

def enter (s : State) (c : Container) : Except Stop State :=
  if depthLimit ≤ s.stack.length then .error (.tooDeep c)
  else match c with
    | .array => .ok ⟨.array [] :: s.stack, .firstItem⟩
    | .object => .ok ⟨.object [] "" :: s.stack, .firstKey⟩

def takeValue (s : State) (place : List Glyph) : Token → Except Stop State
  | .scalar v => .ok (accept v s.stack)
  | .text t => .ok (accept (.str t) s.stack)
  | .openArray => s.enter .array
  | .openObject => s.enter .object
  | .oversized digits => .error (.oversizedInteger digits)
  | .flawed f place => .error (.flaw f place)
  | _ => .error (.flaw .value place)

def takeKey (s : State) (place : List Glyph) : Token → Except Stop State
  | .text k =>
    match s.stack with
    | .object members _ :: stack => .ok ⟨.object members k :: stack, .colon⟩
    | _ => .error (.flaw .name place)
  | .flawed f inside => .error (if f = .value then .flaw .name place else .flaw f inside)
  | _ => .error (.flaw .name place)

def take (s : State) (place : List Glyph) (t : Token) : Except Stop State :=
  match s.mode, t, s.stack with
  | .value, t, _ => s.takeValue place t
  | .firstItem, .closeArray, .array _ :: stack => .ok (accept (.arr []) stack)
  | .firstItem, t, _ => s.takeValue place t
  | .firstKey, .closeObject, .object _ _ :: stack => .ok (accept (.obj []) stack)
  | .firstKey, t, _ => s.takeKey place t
  | .key, t, _ => s.takeKey place t
  | .colon, .colon, stack => .ok ⟨stack, .value⟩
  | .more, .comma, .array items :: stack => .ok ⟨.array items :: stack, .value⟩
  | .more, .comma, .object members key :: stack => .ok ⟨.object members key :: stack, .key⟩
  | .more, .closeArray, .array items :: stack => .ok (accept (.arr items.reverse) stack)
  | .more, .closeObject, .object members _ :: stack => .ok (accept (.obj members) stack)
  | mode, _, _ => .error (.flaw mode.flaw place)

def finish (s : State) : Except Stop Value :=
  match s.mode with
  | .done v => .ok v
  | mode => .error (.flaw mode.flaw [])

/-- Takes the words of a text, of which there are at most as many as glyphs. -/
def run : (fuel : Nat) → State → List Glyph → Except Stop Value
  | 0, s, _ => s.finish
  | fuel + 1, s, gs =>
    match gs.dropWhile isSpace with
    | [] => s.finish
    | g :: gs =>
      let (t, rest) := nextToken g gs
      match s.take (g :: gs) t with
      | .error e => .error e
      | .ok next => run fuel next rest

end State

def Stop.toReadError (text : List Glyph) : Stop → ReadError
  | .flaw f place => .malformed f (.before text place)
  | .oversizedInteger digits => .oversizedInteger digits
  | .tooDeep container => .tooDeep container

def readGlyphs (gs : List Glyph) : Except ReadError Value :=
  (State.start.run (gs.length + 1) gs).mapError (·.toReadError gs)

/-- The value of a text. A mark of the byte order belongs to no text. -/
def read (s : Str) : Except ReadError Value :=
  if s.glyphs.head? = some (.char '\uFEFF') then
    .error (.malformed .byteOrderMark (.before s.glyphs s.glyphs))
  else readGlyphs s.glyphs

end Storefront.Json
