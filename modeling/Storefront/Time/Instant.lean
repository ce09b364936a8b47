/-! Calendar dates and moments, with an optional offset from universal time. -/
namespace Storefront.Time

/-- Every fourth year, except three of four full centuries. -/
def isLeapYear (year : Nat) : Bool := year % 4 = 0 && (year % 100 ≠ 0 || year % 400 = 0)

/-- The number of days of a month; zero when there is no such month. -/
def daysInMonth (year month : Nat) : Nat :=
  if month = 2 then (if isLeapYear year then 29 else 28)
  else if month = 4 || month = 6 || month = 9 || month = 11 then 30
  else if 1 ≤ month && month ≤ 12 then 31
  else 0

/-- A day of the calendar with a year of four digits; the leap years go on through the year zero. -/
structure Date where
  year : Nat
  month : Nat
  day : Nat
  year_le : year ≤ 9999
  day_mem : 1 ≤ day ∧ day ≤ daysInMonth year month
deriving DecidableEq

namespace Date

def of? (year month day : Nat) : Option Date :=
  if hy : year ≤ 9999 then
    if hd : 1 ≤ day ∧ day ≤ daysInMonth year month then some ⟨year, month, day, hy, hd⟩ else none
  else none

/-- The date a number of days after the first day of 1970. Years are counted from March, so that a
leap day comes last, in cycles of four hundred years. -/
def ofDays? (days : Int) : Option Date :=
  let shifted := days + 719468
  let era := shifted / 146097
  let dayOfEra := (shifted % 146097).toNat
  let yearOfEra := (dayOfEra - dayOfEra / 1460 + dayOfEra / 36524 - dayOfEra / 146096) / 365
  let dayOfYear := dayOfEra - (365 * yearOfEra + yearOfEra / 4 - yearOfEra / 100)
  let march := (5 * dayOfYear + 2) / 153
  let month := if march < 10 then march + 3 else march - 9
  let year := era * 400 + yearOfEra + (if month ≤ 2 then 1 else 0)
  if year < 0 then none else of? year.toNat month (dayOfYear - (153 * march + 2) / 5 + 1)

end Date

/-- A time of day to the microsecond. -/
structure Clock where
  hour : Nat
  minute : Nat
  second : Nat
  micro : Nat
  hour_lt : hour < 24
  minute_lt : minute < 60
  second_lt : second < 60
  micro_lt : micro < 1000000
deriving DecidableEq

namespace Clock

/-- The clock with the given parts, if they are in range. -/
def of? (hour minute second micro : Nat) : Option Clock :=
  if h : hour < 24 ∧ minute < 60 ∧ second < 60 ∧ micro < 1000000 then
    some ⟨hour, minute, second, micro, h.1, h.2.1, h.2.2.1, h.2.2.2⟩
  else none

def midnight : Clock := ⟨0, 0, 0, 0, by decide, by decide, by decide, by decide⟩

end Clock

/-- Minutes ahead of universal time, less than a day either way. -/
structure Offset where
  minutes : Int
  minutes_mem : -1440 < minutes ∧ minutes < 1440
deriving DecidableEq

namespace Offset

/-- The offset of so many minutes, if it is less than a day. -/
def of? (minutes : Int) : Option Offset :=
  if h : -1440 < minutes ∧ minutes < 1440 then some ⟨minutes, h⟩ else none

def utc : Offset := ⟨0, by decide⟩

end Offset

/-- A moment as it was written: without an offset it is local time of an unknown place. -/
structure Instant where
  date : Date
  clock : Clock
  offset : Option Offset
deriving DecidableEq

/-- Why a number is no Unix time. -/
inductive UnixIssue where
  | tooEarly
  | tooLate
  | notANumber
deriving DecidableEq

namespace Instant

/-- Unix times up to this size are seconds, larger ones milliseconds. -/
def secondsLimit : Nat := 20000000000

/-- The moment so many seconds and microseconds after the start of 1970, in universal time. -/
def ofSeconds (seconds : Int) (micros : Nat) : Except UnixIssue Instant :=
  let seconds := seconds + (micros / 1000000 : Nat)
  let ofDay := (seconds % 86400).toNat
  let clock? := Clock.of? (ofDay / 3600) (ofDay / 60 % 60) (ofDay % 60) (micros % 1000000)
  match Date.ofDays? (seconds / 86400), clock? with
  | some date, some clock => .ok ⟨date, clock, some .utc⟩
  | _, _ => .error (if seconds < 0 then .tooEarly else .tooLate)

/-- The moment of a whole Unix time, with microseconds on top. -/
def ofUnix (n : Int) (micros : Nat) : Except UnixIssue Instant :=
  if n.natAbs ≤ secondsLimit then ofSeconds n micros
  else ofSeconds (n / 1000) (1000 * (n % 1000).toNat + micros)

end Instant

end Storefront.Time
