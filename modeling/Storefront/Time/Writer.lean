import Storefront.Time.Instant

/-! The written form of moments: a date, a time of day, and an offset if there is one. -/
namespace Storefront.Time

def decimalDigits : (width n : Nat) → List Char
  | 0, _ => []
  | width + 1, n => decimalDigits width (n / 10) ++ [Char.ofNat (48 + n % 10)]

def Date.chars (d : Date) : List Char :=
  decimalDigits 4 d.year ++ '-' :: decimalDigits 2 d.month ++ '-' :: decimalDigits 2 d.day

/-- Hours, minutes and seconds, and the microseconds unless there are none. -/
def Clock.chars (c : Clock) : List Char :=
  decimalDigits 2 c.hour ++ ':' :: decimalDigits 2 c.minute ++ ':' :: decimalDigits 2 c.second ++
    (if c.micro = 0 then [] else '.' :: decimalDigits 6 c.micro)

/-- Universal time is a letter; any other offset has a sign, hours and minutes. -/
def Offset.chars (o : Offset) : List Char :=
  if o.minutes = 0 then ['Z']
  else
    let m := o.minutes.natAbs
    (if o.minutes < 0 then '-' else '+') ::
      decimalDigits 2 (m / 60) ++ ':' :: decimalDigits 2 (m % 60)

def Instant.chars (t : Instant) : List Char :=
  t.date.chars ++ 'T' :: t.clock.chars ++ (t.offset.map Offset.chars).getD []

def Instant.write (t : Instant) : String := String.ofList t.chars

end Storefront.Time
