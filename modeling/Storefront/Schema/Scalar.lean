import Storefront.Json.Value
import Storefront.Schema.Whole
import Storefront.Time.Writer

/-! Scalar values of declared members: text, whole numbers, flags and moments. Each kind also takes
the other spellings in which servers send it. -/
namespace Storefront.Schema

open Json Text Time

inductive ScalarKind where
  | text (mayBeEmpty : Bool)
  | whole
  | flag
  | instant
deriving DecidableEq

/-- A scalar as a record keeps it. -/
inductive Datum where
  | null
  | text (s : Str)
  | whole (n : Int)
  | flag (b : Bool)
  | instant (t : Instant)
  /-- A value that was assigned without any check. -/
  | assigned (v : Value)

/-- Holds of the integers whose magnitude fits sixty-three bits. -/
def isModest (n : Int) : Bool := n.natAbs < Nat.pow 2 63

/-- Reads a string as text, which it is not when it holds a half of a pair alone. -/
def readEncoded {α : Type} (read : String → Except Problem α) (s : Str) : Except Problem α :=
  match s.text? with
  | some t => read t
  | none => .error .notUnicode

/-- Reads a whole number: a truth value counts as zero or one. A number in floating form has to be
modest as well. -/
def readWhole : Value → Except Problem Int
  | .int n => .ok n
  | .bool b => .ok (if b then 1 else 0)
  | .real x =>
    if !x.isFinite then .error .notFinite
    else match x.toInt? with
      | some n => if isModest n then .ok n else .error .oversizedWhole
      | none => .error .fractional
  | .str s => readEncoded readWholeText s
  | _ => .error .notWhole

def flagOfInt (n : Int) : Except Problem Bool :=
  if n = 0 then .ok false else if n = 1 then .ok true else .error .unreadableFlag

/-- The flag of one of the words for no and yes, in any letter case. -/
def flagOfText (s : String) : Except Problem Bool :=
  let word := String.ofList (s.toList.map Char.toLower)
  if ["0", "off", "f", "false", "n", "no"].contains word then .ok false
  else if ["1", "on", "t", "true", "y", "yes"].contains word then .ok true
  else .error .unreadableFlag

def fitsWord (n : Int) : Bool := -(Nat.pow 2 63 : Nat) ≤ n && n < (Nat.pow 2 63 : Nat)

/-- Reads a flag: zero and one, or one of the words for no and yes. -/
def readFlag : Value → Except Problem Bool
  | .bool b => .ok b
  | .int n => if fitsWord n then flagOfInt n else .error .notFlag
  | .real x =>
    match x.toInt? with
    | some n => if isModest n then flagOfInt n else .error .notFlag
    | none => .error .notFlag
  | .str s => readEncoded flagOfText s
  | _ => .error .notFlag

/-- Reads a moment: text, or a number that is a Unix time. -/
def readMoment : Value → Except Problem Instant
  | .str s => readEncoded (fun t => (Instant.read t).mapError .badDate) s
  | .int n =>
    match Instant.ofInt? n with
    | some r => r.mapError .badUnix
    | none => .error .notInstant
  | .real x => (Instant.ofReal x).mapError .badUnix
  | _ => .error .notInstant

def readInstant (v : Value) : Except Problem Instant := do
  let t ← readMoment v
  if t.date.year = 0 then .error .yearZero else return t

/-- Reads text. Where its length counts, it has to be a text that can be encoded. -/
def readText (mayBeEmpty : Bool) : Value → Except Problem Str
  | .str s =>
    if mayBeEmpty then .ok s
    else if !s.isWhole then .error .notUnicode
    else if s.isEmpty then .error .emptyText
    else .ok s
  | _ => .error .notText

def ScalarKind.read : ScalarKind → Value → Except Problem Datum
  | .text mayBeEmpty, v => (readText mayBeEmpty v).map .text
  | .whole, v => (readWhole v).map .whole
  | .flag, v => (readFlag v).map .flag
  | .instant, v => (readInstant v).map .instant

def Datum.shown? : Datum → Option Value
  | .null => none
  | .text s => some (.str s)
  | .whole n => some (.int n)
  | .flag b => some (.bool b)
  | .instant t => some (.str t.write)
  | .assigned v => v.present?.map Value.withoutInfinities

/-- The datum for a value that is assigned to a scalar without any check: a truth value in the place
of a whole number counts as zero or one. -/
def ScalarKind.assigned : ScalarKind → Value → Datum
  | .whole, .bool b => .whole (if b then 1 else 0)
  | _, v => .assigned v

def Datum.depth : Datum → Nat
  | .assigned v => (v.present?.map Value.depth).getD 0
  | _ => 1

/-- The first key inside a datum that no encoding can express. -/
def Datum.tornKey? : Datum → Option Str
  | .assigned v => v.tornKey?
  | _ => none

end Storefront.Schema
