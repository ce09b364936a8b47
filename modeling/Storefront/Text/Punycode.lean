import Storefront.Text.Utf8

/-! Text in ASCII letters and digits: the ASCII characters come first, and the other ones follow as
the distances between their places. -/
namespace Storefront.Text.Punycode

def digit (n : Nat) : Char := if n < 26 then Char.ofNat (97 + n) else Char.ofNat (22 + n)

/-- A digit below this value is the last of its number; `place` counts digits from one. -/
def threshold (place bias : Nat) : Nat := max 1 (min 26 (36 * place - bias))

def distance (bias : Nat) : (fuel place n : Nat) → List Char
  | 0, _, _ => []
  | fuel + 1, place, n =>
    let t := threshold place bias
    if n < t then [digit n]
    else digit (t + (n - t) % (36 - t)) :: distance bias fuel (place + 1) ((n - t) / (36 - t))

/-- Divides until little is left, and counts how often. -/
def scaleDown : (fuel delta count : Nat) → Nat × Nat
  | 0, delta, count => (delta, count)
  | fuel + 1, delta, count =>
    if delta ≤ 455 then (delta, count) else scaleDown fuel (delta / 35) (count + 1)

def nextBias (delta count : Nat) (first : Bool) : Nat :=
  let delta := if first then delta / 700 else delta / 2
  let (delta, steps) := scaleDown delta (delta + delta / count) 0
  36 * steps + 36 * delta / (delta + 38)

/-- The distance since the last character written, the bias, how many characters are written, and
the text so far. -/
structure State where
  delta : Nat
  bias : Nat
  count : Nat
  text : List Char

/-- Passes a character while those with the code point `n` are written. -/
def pass (plain n : Nat) (s : State) (c : Char) : State :=
  if c.toNat < n then { s with delta := s.delta + 1 }
  else if c.toNat = n then
    { delta := 0
      bias := nextBias s.delta (s.count + 1) (s.count == plain)
      count := s.count + 1
      text := s.text ++ distance s.bias (s.delta + 1) 1 s.delta }
  else s

/-- Writes the characters of each code point in turn; those below `next` are written already. -/
def writeRest (cs : List Char) (plain : Nat) : (next : Nat) → State → List Nat → State
  | _, s, [] => s
  | next, s, n :: rest =>
    let s := { s with delta := s.delta + (n - next) * (s.count + 1) }
    let s := cs.foldl (pass plain n) s
    writeRest cs plain (n + 1) { s with delta := s.delta + 1 } rest

def encode (cs : List Char) : List Char :=
  let ascii := cs.filter (·.toNat < 128)
  let rest := ((cs.filter (128 ≤ ·.toNat)).map Char.toNat).mergeSort.eraseDups
  let start : State :=
    ⟨0, 72, ascii.length, if ascii.isEmpty then [] else ascii ++ ['-']⟩
  (writeRest cs ascii.length 128 start rest).text

def digitValue? (c : Char) : Option Nat :=
  let n := c.toNat
  if 97 ≤ n && n ≤ 122 then some (n - 97)
  else if 65 ≤ n && n ≤ 90 then some (n - 65)
  else if 48 ≤ n && n ≤ 57 then some (n - 22)
  else none

/-- Reads a distance; `value` is that of the digits before, and `weight` that of the next one. -/
def readDistance? (bias place weight value : Nat) : List Char → Option (Nat × List Char)
  | [] => none
  | c :: cs =>
    match digitValue? c with
    | none => none
    | some d =>
      let t := threshold place bias
      let value := value + d * weight
      if d < t then some (value, cs)
      else readDistance? bias (place + 1) (weight * (36 - t)) value cs

/-- A text with some characters put in: the code point and the place from which the next distance
counts, and the bias. -/
structure Filling where
  next : Nat := 128
  place : Nat := 0
  bias : Nat := 72
  first : Bool := true
  text : List Char

def Filling.insert? (s : Filling) (delta : Nat) : Option Filling :=
  let count := s.text.length + 1
  let next := s.next + (s.place + delta) / count
  let place := (s.place + delta) % count
  (Utf8.charOf? next).map fun c =>
    { next
      place := place + 1
      bias := nextBias delta count s.first
      first := false
      text := s.text.take place ++ c :: s.text.drop place }

def Filling.run? (s : Filling) : (fuel : Nat) → List Char → Option (List Char)
  | _, [] => some s.text
  | 0, _ => none
  | fuel + 1, cs => do
    let (delta, rest) ← readDistance? s.bias 1 1 0 cs
    (← s.insert? delta).run? fuel rest

/-- The text of an encoded form: what follows the last hyphen are distances. -/
def decode? (cs : List Char) : Option (List Char) :=
  let distances := (cs.reverse.takeWhile (· ≠ '-')).reverse
  let text := cs.take (cs.length - distances.length - 1)
  ({ text } : Filling).run? distances.length distances

end Storefront.Text.Punycode
