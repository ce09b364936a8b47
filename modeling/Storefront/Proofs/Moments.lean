import Mathlib.Data.String.Basic
import Storefront.Time.Reader
import Storefront.Time.Writer

/-! Moments that are written and read again. Numbers of a fixed width are read to their end, so each
part of a moment leaves the next one to its own reader, and the whole comes back as it was. -/
namespace Storefront.Time

open Text

/-- The digit of a number below ten. -/
theorem asciiDigit?_ofNat : ∀ d < 10, asciiDigit? (Char.ofNat (48 + d)) = some d := by decide

theorem isDigit_ofNat : ∀ d < 10, (Char.ofNat (48 + d)).isDigit = true := by decide

theorem length_decimalDigits (width n : Nat) : (decimalDigits width n).length = width := by
  induction width generalizing n with
  | zero => rfl
  | succ width ih => rw [decimalDigits, List.length_append, ih, List.length_singleton]

theorem isDigit_of_mem_decimalDigits {width n : Nat} {c : Char} (h : c ∈ decimalDigits width n) :
    c.isDigit = true := by
  induction width generalizing n with
  | zero => cases h
  | succ width ih =>
    rcases List.mem_append.mp h with h | h
    · exact ih h
    · obtain rfl := List.mem_singleton.mp h
      exact isDigit_ofNat _ (Nat.mod_lt n (by decide))

/-- Digits are read in two goes as they are in one. -/
theorem readDigits?_add (first second value : Nat) (cs : List Char) :
    readDigits? (first + second) value cs =
      (readDigits? first value cs).bind fun r => readDigits? second r.1 r.2 := by
  induction first generalizing value cs with
  | zero => simp [readDigits?]
  | succ first ih =>
    rw [Nat.succ_add_eq_add_succ]
    cases cs with
    | nil => rfl
    | cons c cs =>
      show readDigits? (first + second + 1) value (c :: cs) = _
      rw [readDigits?, readDigits?]
      cases asciiDigit? c with
      | none => rfl
      | some d => exact ih _ _

theorem readDigits?_decimalDigits {width n : Nat} (h : n < 10 ^ width) (value : Nat)
    (rest : List Char) :
    readDigits? width value (decimalDigits width n ++ rest) = some (value * 10 ^ width + n, rest) := by
  induction width generalizing n rest with
  | zero =>
    obtain rfl : n = 0 := by omega
    simp [readDigits?, decimalDigits]
  | succ width ih =>
    have hfront : n / 10 < 10 ^ width := by
      rw [Nat.pow_succ] at h
      omega
    have hlast := asciiDigit?_ofNat (n % 10) (Nat.mod_lt n (by decide))
    rw [decimalDigits, List.append_assoc, readDigits?_add, ih hfront]
    have hvalue : 10 * (value * 10 ^ width + n / 10) + n % 10 = value * 10 ^ (width + 1) + n := by
      rw [Nat.pow_succ, ← Nat.mul_assoc]
      omega
    simp only [Option.bind_some, List.singleton_append, readDigits?, hlast, hvalue]

theorem takeWhile_decimalDigits (width n : Nat) {rest : List Char}
    (hrest : ∀ c, rest.head? = some c → c.isDigit = false) :
    (decimalDigits width n ++ rest).takeWhile Char.isDigit = decimalDigits width n ∧
      (decimalDigits width n ++ rest).dropWhile Char.isDigit = rest := by
  have hdigits : ∀ c ∈ decimalDigits width n, c.isDigit = true := fun c hc =>
    isDigit_of_mem_decimalDigits hc
  rw [List.takeWhile_append_of_pos hdigits, List.dropWhile_append_of_pos hdigits]
  cases rest with
  | nil => simp
  | cons c rest => simp [hrest c rfl]

theorem ofDigits_decimalDigits {width n : Nat} (h : n < 10 ^ width) :
    ofDigits ((decimalDigits width n).filterMap asciiDigit?) = n := by
  induction width generalizing n with
  | zero =>
    obtain rfl : n = 0 := by omega
    rfl
  | succ width ih =>
    have hfront : n / 10 < 10 ^ width := by
      rw [Nat.pow_succ] at h
      omega
    have hlast := asciiDigit?_ofNat (n % 10) (Nat.mod_lt n (by decide))
    have hvalue := ih hfront
    unfold ofDigits at hvalue ⊢
    rw [decimalDigits, List.filterMap_append, List.foldl_append, hvalue]
    simp only [List.filterMap_cons, hlast, List.filterMap_nil, List.foldl_cons, List.foldl_nil]
    omega

theorem readMicros?_decimalDigits {n : Nat} (h : n < 1000000) {rest : List Char}
    (hrest : ∀ c, rest.head? = some c → c.isDigit = false) :
    readMicros? (decimalDigits 6 n ++ rest) = some (n, rest) := by
  obtain ⟨htake, hdrop⟩ := takeWhile_decimalDigits 6 n hrest
  have hlength : (decimalDigits 6 n).length = 6 := length_decimalDigits 6 n
  have hne : (decimalDigits 6 n).isEmpty = false := by
    rw [List.isEmpty_eq_false_iff, ← List.length_pos_iff, hlength]
    decide
  have hsix : (decimalDigits 6 n ++ List.replicate 6 '0').take 6 = decimalDigits 6 n :=
    List.take_left' hlength
  have hvalue : ofDigits ((decimalDigits 6 n).filterMap asciiDigit?) = n :=
    ofDigits_decimalDigits h
  unfold readMicros?
  simp only [htake, hdrop, hne, hsix, hvalue, Bool.false_eq_true, if_false]

theorem Date.month_mem (d : Date) : 1 ≤ d.month ∧ d.month ≤ 12 := by
  obtain ⟨hlow, hhigh⟩ := d.day_mem
  unfold daysInMonth at hhigh
  split at hhigh
  · omega
  split at hhigh
  · simp_all
    omega
  split at hhigh
  · simp_all
  · omega

theorem daysInMonth_le (year month : Nat) : daysInMonth year month ≤ 31 := by
  unfold daysInMonth
  split
  · split <;> decide
  split
  · decide
  split <;> decide

theorem digitsOr_decimalDigits (issue : DateIssue) {width n : Nat} (h : n < 10 ^ width)
    (rest : List Char) : digitsOr issue width (decimalDigits width n ++ rest) = .ok (n, rest) := by
  rw [digitsOr, readDigits?_decimalDigits h, Nat.zero_mul, Nat.zero_add]

theorem markOr_cons (issue : DateIssue) (mark : Char) (rest : List Char) :
    markOr issue mark (mark :: rest) = .ok rest := by
  rw [markOr, readMark?, if_pos rfl]

theorem Date.of?_eq (d : Date) : Date.of? d.year d.month d.day = some d := by
  rw [Date.of?, dif_pos d.year_le, dif_pos d.day_mem]

theorem length_le_utf8Len (cs : List Char) : cs.length ≤ String.utf8Len cs := by
  induction cs with
  | nil => exact Nat.le_refl 0
  | cons c cs ih =>
    have hpos := Char.utf8Size_pos c
    rw [String.utf8Len_cons, List.length_cons]
    omega

theorem Date.readFront_chars (d : Date) (rest : List Char) :
    Date.readFront (d.chars ++ rest) = .ok (d, rest) := by
  have hparts : d.chars ++ rest = decimalDigits 4 d.year ++
      ('-' :: (decimalDigits 2 d.month ++ ('-' :: (decimalDigits 2 d.day ++ rest)))) := by
    simp [Date.chars]
  have hlong : ¬(String.ofList (d.chars ++ rest)).utf8ByteSize < 10 := by
    have hbytes := length_le_utf8Len (d.chars ++ rest)
    rw [String.utf8ByteSize_ofList]
    simp only [hparts, List.length_append, List.length_cons, length_decimalDigits] at hbytes ⊢
    omega
  have hyear : d.year < 10 ^ 4 := Nat.lt_succ_of_le d.year_le
  obtain ⟨hmonth, hmonth'⟩ := d.month_mem
  obtain ⟨hday, hday'⟩ := d.day_mem
  have hlast := daysInMonth_le d.year d.month
  unfold Date.readFront
  rw [if_neg hlong, hparts]
  simp only [bind, Except.bind, digitsOr_decimalDigits _ hyear, markOr_cons,
    digitsOr_decimalDigits _ (show d.month < 10 ^ 2 by omega),
    digitsOr_decimalDigits _ (show d.day < 10 ^ 2 by omega), Date.of?_eq]
  rw [if_neg (by simp; omega), if_neg (by simp; omega)]

theorem Clock.of?_eq (c : Clock) : Clock.of? c.hour c.minute c.second c.micro = some c := by
  rw [Clock.of?, dif_pos ⟨c.hour_lt, c.minute_lt, c.second_lt, c.micro_lt⟩]

/-- A time of day is read to its end where no digit, point or comma follows. -/
theorem Clock.readFront?_chars (c : Clock) {rest : List Char}
    (hrest : ∀ x, rest.head? = some x → x.isDigit = false ∧ x ≠ '.' ∧ x ≠ ',') :
    Clock.readFront? (c.chars ++ rest) = some (c, rest) := by
  have hhour : c.hour < 10 ^ 2 := by have := c.hour_lt; omega
  have hminute : c.minute < 10 ^ 2 := by have := c.minute_lt; omega
  have hsecond : c.second < 10 ^ 2 := by have := c.second_lt; omega
  have hof := c.of?_eq
  by_cases hmicro : c.micro = 0
  · have hparts : c.chars ++ rest = decimalDigits 2 c.hour ++ (':' :: (decimalDigits 2 c.minute ++
        (':' :: (decimalDigits 2 c.second ++ rest)))) := by
      simp [Clock.chars, hmicro]
    rw [hmicro] at hof
    rw [hparts]
    simp only [Clock.readFront?, readDigits?_decimalDigits hhour, readDigits?_decimalDigits hminute,
      readDigits?_decimalDigits hsecond, readMark?, bind, Option.bind, Nat.zero_mul, Nat.zero_add,
      if_pos]
    split
    · exact absurd rfl (hrest '.' rfl).2.1
    · exact absurd rfl (hrest ',' rfl).2.2
    · simp only [hof]
      rfl
  · have hparts : c.chars ++ rest = decimalDigits 2 c.hour ++ (':' :: (decimalDigits 2 c.minute ++
        (':' :: (decimalDigits 2 c.second ++ ('.' :: (decimalDigits 6 c.micro ++ rest)))))) := by
      simp [Clock.chars, hmicro]
    have hplaces := readMicros?_decimalDigits c.micro_lt fun x hx => (hrest x hx).1
    rw [hparts]
    simp only [Clock.readFront?, readDigits?_decimalDigits hhour, readDigits?_decimalDigits hminute,
      readDigits?_decimalDigits hsecond, readMark?, bind, Option.bind, Nat.zero_mul, Nat.zero_add,
      if_pos, hplaces, hof]
    rfl

theorem Offset.of?_eq (o : Offset) : Offset.of? o.minutes = some o := by
  rw [Offset.of?, dif_pos o.minutes_mem]

/-- The written form of an offset, or of none. -/
def Offset.tail (o : Option Offset) : List Char := (o.map Offset.chars).getD []

theorem readShift?_chars (negative : Bool) {m : Nat} (h : m < 1440) {o : Offset}
    (ho : o.minutes = if negative then -(m : Int) else m) :
    readShift? negative (decimalDigits 2 (m / 60) ++ ':' :: decimalDigits 2 (m % 60)) =
      some (o, []) := by
  have hhours : m / 60 < 10 ^ 2 := by omega
  have hminutes : m % 60 < 10 ^ 2 := by omega
  have hsixty : ¬60 ≤ m % 60 := by omega
  have htotal : (60 * (m / 60 : Nat) + (m % 60 : Nat) : Int) = m := by omega
  have hmark : ((readMark? ':' (':' :: decimalDigits 2 (m % 60))).getD
      (':' :: decimalDigits 2 (m % 60))) = decimalDigits 2 (m % 60) ++ [] := by
    simp [readMark?]
  unfold readShift?
  simp only [readDigits?_decimalDigits hhours, hmark, readDigits?_decimalDigits hminutes, bind,
    Option.bind, Nat.zero_mul, Nat.zero_add, if_neg hsixty, htotal]
  rw [← ho, Offset.of?_eq]
  rfl

theorem readOffset?_tail (o : Option Offset) : readOffset? (Offset.tail o) = some (o, []) := by
  cases o with
  | none => rfl
  | some o =>
    obtain ⟨hlow, hhigh⟩ := o.minutes_mem
    have hsize : o.minutes.natAbs < 1440 := by omega
    show readOffset? o.chars = _
    unfold Offset.chars
    by_cases hzero : o.minutes = 0
    · have hutc : o = .utc := by
        obtain ⟨minutes, hmem⟩ := o
        obtain rfl : minutes = 0 := hzero
        rfl
      rw [if_pos hzero, hutc]
      rfl
    · rw [if_neg hzero]
      by_cases hneg : o.minutes < 0
      · have hread := readShift?_chars true hsize (o := o) (by rw [if_pos rfl]; omega)
        simp [readOffset?, hneg, hread]
      · have hread := readShift?_chars false hsize (o := o) (by rw [if_neg (by decide)]; omega)
        simp [readOffset?, hneg, hread]

theorem Offset.head?_tail {o : Option Offset} {x : Char} (h : (Offset.tail o).head? = some x) :
    x.isDigit = false ∧ x ≠ '.' ∧ x ≠ ',' := by
  have hmark : x = 'Z' ∨ x = '-' ∨ x = '+' := by
    cases o with
    | none => cases h
    | some o =>
      change o.chars.head? = some x at h
      unfold Offset.chars at h
      split at h
      · exact .inl (Option.some.inj h).symm
      · split at h
        · exact .inr (.inl (Option.some.inj h).symm)
        · exact .inr (.inr (Option.some.inj h).symm)
  rcases hmark with rfl | rfl | rfl <;> decide

/-- A moment that was written is read as it was. -/
theorem Instant.readFull?_chars (t : Instant) : Instant.readFull? t.chars = some t := by
  have hparts : t.chars = t.date.chars ++ 'T' :: (t.clock.chars ++ Offset.tail t.offset) := by
    simp [Instant.chars, Offset.tail]
  have hclock : Clock.readFront? (t.clock.chars ++ Offset.tail t.offset) =
      some (t.clock, Offset.tail t.offset) :=
    t.clock.readFront?_chars fun x hx => Offset.head?_tail hx
  rw [Instant.readFull?, hparts, Date.readFront_chars]
  simp [hclock, readOffset?_tail]

theorem Instant.read_write (t : Instant) : Instant.read t.write = .ok t := by
  rw [Instant.read, Instant.write, String.toList_ofList]
  simp only [Instant.readFull?_chars]

end Storefront.Time
