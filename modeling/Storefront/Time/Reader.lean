import Storefront.Number.Reader
import Storefront.Time.Instant

/-! Reading moments from text: a date with an optional time of day, or a Unix time. -/
namespace Storefront.Time

open Text

/-- What is wrong with a text that should begin with a date. -/
inductive DateIssue where
  | tooShort
  | yearCharacter
  | separator
  | monthCharacter
  | dayCharacter
  | monthRange
  | dayRange
  | extraCharacters
  | unix (issue : UnixIssue)
deriving DecidableEq

def readDigits? : (width : Nat) → (value : Nat) → List Char → Option (Nat × List Char)
  | 0, value, cs => some (value, cs)
  | _ + 1, _, [] => none
  | width + 1, value, c :: cs =>
    match asciiDigit? c with
    | some d => readDigits? width (10 * value + d) cs
    | none => none

def readMark? (mark : Char) : List Char → Option (List Char)
  | c :: cs => if c = mark then some cs else none
  | [] => none

def digitsOr (issue : DateIssue) (width : Nat) (cs : List Char) :
    Except DateIssue (Nat × List Char) :=
  match readDigits? width 0 cs with
  | some r => .ok r
  | none => .error issue

def markOr (issue : DateIssue) (mark : Char) (cs : List Char) :
    Except DateIssue (List Char) :=
  match readMark? mark cs with
  | some r => .ok r
  | none => .error issue

def Date.readFront (cs : List Char) : Except DateIssue (Date × List Char) :=
  if (String.ofList cs).utf8ByteSize < 10 then .error .tooShort
  else do
    let (year, cs) ← digitsOr .yearCharacter 4 cs
    let cs ← markOr .separator '-' cs
    let (month, cs) ← digitsOr .monthCharacter 2 cs
    let cs ← markOr .separator '-' cs
    let (day, cs) ← digitsOr .dayCharacter 2 cs
    if month < 1 || 12 < month then .error .monthRange
    else if day < 1 || daysInMonth year month < day then .error .dayRange
    else match Date.of? year month day with
      | some date => .ok (date, cs)
      | none => .error .dayRange

/-- Reads the places of a second: one digit or more, of which six count. -/
def readMicros? (cs : List Char) : Option (Nat × List Char) :=
  let ds := cs.takeWhile Char.isDigit
  if ds.isEmpty then none
  else
    let six := (ds ++ List.replicate 6 '0').take 6
    some (ofDigits (six.filterMap asciiDigit?), cs.dropWhile Char.isDigit)

/-- Reads a time of day: hours and minutes, then seconds and their places if there are any. -/
def Clock.readFront? (cs : List Char) : Option (Clock × List Char) := do
  let (hour, cs) ← readDigits? 2 0 cs
  let cs ← readMark? ':' cs
  let (minute, cs) ← readDigits? 2 0 cs
  match cs with
  | ':' :: cs =>
    let (second, cs) ← readDigits? 2 0 cs
    let (micro, cs) ← match cs with
      | '.' :: cs => readMicros? cs
      | ',' :: cs => readMicros? cs
      | cs => some (0, cs)
    let clock ← Clock.of? hour minute second micro
    return (clock, cs)
  | cs =>
    let clock ← Clock.of? hour minute 0 0
    return (clock, cs)

/-- Reads hours and minutes after a sign, with or without a colon between them. -/
def readShift? (negative : Bool) (cs : List Char) : Option (Offset × List Char) := do
  let (hours, cs) ← readDigits? 2 0 cs
  let (minutes, cs) ← readDigits? 2 0 ((readMark? ':' cs).getD cs)
  if 60 ≤ minutes then none
  else
    let total : Int := 60 * hours + minutes
    let offset ← Offset.of? (if negative then -total else total)
    return (offset, cs)

/-- Reads an offset; at the end of the text there is none. -/
def readOffset? : List Char → Option (Option Offset × List Char)
  | [] => some (none, [])
  | c :: cs =>
    if c = 'Z' || c = 'z' then some (some .utc, cs)
    else if c = '+' then (readShift? false cs).map fun r => (some r.1, r.2)
    else if c = '-' || c = '\u2212' then (readShift? true cs).map fun r => (some r.1, r.2)
    else none

/-- Reads a date, a separator and a time of day, and nothing more. -/
def Instant.readFull? (cs : List Char) : Option Instant :=
  match Date.readFront cs with
  | .ok (date, sep :: cs) =>
    if sep = 'T' || sep = 't' || sep = ' ' || sep = '_' then do
      let (clock, cs) ← Clock.readFront? cs
      let (offset, cs) ← readOffset? cs
      if cs.isEmpty then some ⟨date, clock, offset⟩ else none
    else none
  | _ => none

/-- A Unix time as it was written: whole, or with a point in it. -/
inductive UnixText where
  | whole (n : Int)
  | pointed (x : Binary64)

/-- Reads a number to the end of the text: a sign if there is one, then digits, with a point before or
among them if there is one. A number without a point fits sixty-four bits. -/
def UnixText.read? (cs : List Char) : Option UnixText :=
  let (negative, cs) := Binary64.readSign cs
  let whole := cs.takeWhile Char.isDigit
  match cs.dropWhile Char.isDigit with
  | [] =>
    let n : Nat := ofDigits (whole.filterMap asciiDigit?)
    if whole.isEmpty || Nat.pow 2 63 ≤ n then none else some (.whole (if negative then -n else n))
  | '.' :: places =>
    if places.isEmpty || !places.all Char.isDigit then none
    else
      let n := ofDigits ((whole ++ places).filterMap asciiDigit?)
      some (.pointed (.ofDecimal negative n (-(places.length : Int))))
  | _ => none

/-- The microseconds nearest to a fraction of a second, by a product in double precision. -/
def nearestMicros (num den : Nat) : Nat :=
  let (p, q) := (Binary64.ofFraction false (1000000 * num) den).fraction
  (2 * p + q) / (2 * q)

/-- The moment of a double-precision Unix time, from its integer part and the microseconds behind. -/
def Instant.ofUnixReal (x : Binary64) : Except UnixIssue Instant :=
  let den := x.fraction.2
  let whole := x.signedNumerator / den
  let (p, q) := (Binary64.ofFraction false (x.signedNumerator - whole * den).toNat den).fraction
  ofUnix whole (nearestMicros p q)

/-- The moment of a written Unix time. With a point in it, milliseconds are divided first; what is still
too large for seconds after that counts as milliseconds once more. -/
def Instant.ofUnixText : UnixText → Except UnixIssue Instant
  | .whole n => ofUnix n 0
  | .pointed x =>
    if !x.isFinite then .error (if x.isNegative then .tooEarly else .tooLate)
    else
      let (num, den) := x.fraction
      if num ≤ secondsLimit * den then ofUnixReal x
      else ofUnixReal (.ofFraction x.isNegative num (1000 * den))

/-- Reads a bare date, the start of that day; a whole Unix time that was refused keeps its own
issue. -/
def Instant.readDate (cs : List Char) : Except DateIssue Instant :=
  match Date.readFront cs with
  | .ok (date, []) => .ok ⟨date, .midnight, none⟩
  | .ok _ => .error .extraCharacters
  | .error issue =>
    match UnixText.read? cs with
    | some (.whole n) =>
      match ofUnix n 0 with
      | .error late => .error (.unix late)
      | .ok _ => .error issue
    | _ => .error issue

/-- Reads a moment: in full, as a Unix time, or as a bare date. -/
def Instant.read (s : String) : Except DateIssue Instant :=
  let cs := s.toList
  match readFull? cs with
  | some t => .ok t
  | none =>
    match (UnixText.read? cs).map ofUnixText with
    | some (.ok t) => .ok t
    | _ => readDate cs

/-- The moment of a double-precision Unix time: its integer part, the next one below, and the
microseconds of its distance from zero on top. -/
def Instant.ofReal (x : Binary64) : Except UnixIssue Instant :=
  if x.isNaN then .error .notANumber
  else if !x.isFinite then .error (if x.isNegative then .tooEarly else .tooLate)
  else
    let (num, den) := x.fraction
    ofUnix (x.signedNumerator / den) (nearestMicros (num % den) den)

/-- The moment of an integer Unix time, if a double-precision number can hold it. -/
def Instant.ofInt? (n : Int) : Option (Except UnixIssue Instant) :=
  if (Binary64.ofFraction false n.natAbs 1).isFinite then some (ofUnix n 0) else none

end Storefront.Time
