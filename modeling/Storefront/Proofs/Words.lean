import Mathlib.Data.Nat.Digits.Defs
import Storefront.Json.Token
import Storefront.Json.Writer
import Storefront.Proofs.Encodings

/-! The words of a written document. Each begins with a character that tells its kind, and the reader ends
it where the writer has: a text at its closing quote, a number before the first character that belongs to
no number. -/
namespace Storefront.Json

open Text

theorem hexValue?_hexDigit : ∀ n < 16, hexValue? (hexDigit n) = some n := by decide

/-- The four digits of a unit are read back. -/
theorem unit?_hexDigits {n : Nat} (h : n < 0x10000) :
    ∃ a b c d, hexDigits 4 n = [a, b, c, d] ∧
      unit? (.char a) (.char b) (.char c) (.char d) = some n := by
  refine ⟨_, _, _, _, rfl, ?_⟩
  have hw := hexValue?_hexDigit (n / 16 / 16 / 16 % 16) (Nat.mod_lt _ (by decide))
  have hx := hexValue?_hexDigit (n / 16 / 16 % 16) (Nat.mod_lt _ (by decide))
  have hy := hexValue?_hexDigit (n / 16 % 16) (Nat.mod_lt _ (by decide))
  have hz := hexValue?_hexDigit (n % 16) (Nat.mod_lt _ (by decide))
  simp only [unit?, Glyph.char?, hw, hx, hy, hz, bind, Option.bind, pure, Option.some.injEq]
  omega

/-- No character has a number in the range of the halves of pairs. -/
theorem toNat_not_half (c : Char) : c.toNat < 0xD800 ∨ 0xDFFF < c.toNat ∧ c.toNat < 0x110000 :=
  c.valid

section Text

variable {start done rest : List Glyph}

theorem scanText_short {c x : Char} (hc : shortEscape? (.char c) = some x) (hu : c ≠ 'u') :
    scanText start done (.char '\\' :: .char c :: rest) = scanText start (.char x :: done) rest := by
  rw [scanText.eq_def]
  split
  · contradiction
  · simp_all
  · simp_all
  · simp_all
  · rename_i hother h
    obtain ⟨rfl, rfl⟩ := List.cons.inj h
    exact absurd rfl (hother (.char c) rest rfl)

/-- A unit that is no half of a pair stands for its character. -/
theorem scanText_unit {n : Nat} (hn : n < 0x10000) (hhalf : n < 0xD800 ∨ 0xDFFF < n)
    (hrest : rest ≠ []) :
    scanText start done ((unitEscape n).map .char ++ rest) =
      scanText start (.ofCode n :: done) rest := by
  obtain ⟨a, b, c, d, hdigits, hunit⟩ := unit?_hexDigits hn
  rw [unitEscape, hdigits]
  show scanText start done (.char '\\' :: .char 'u' :: .char a :: .char b :: .char c :: .char d ::
    rest) = _
  have hempty : rest.isEmpty = false := by simpa using hrest
  have hnot : (0xD800 ≤ n && n < 0xDC00) = false := by
    rw [← Bool.not_eq_true]
    simp only [Bool.and_eq_true, decide_eq_true_eq]
    omega
  rw [scanText.eq_def]
  simp only [hunit, hempty, hnot, Bool.false_eq_true, if_false]

/-- Two units that are the halves of a pair stand for one character. -/
theorem scanText_pair {n m : Nat} (hn : 0xD800 ≤ n ∧ n < 0xDC00) (hm : 0xDC00 ≤ m ∧ m < 0xE000)
    (hrest : rest ≠ []) :
    scanText start done ((unitEscape n).map .char ++ ((unitEscape m).map .char ++ rest)) =
      scanText start (glyphOfPair n m :: done) rest := by
  obtain ⟨a, b, c, d, hfirst, hn'⟩ := unit?_hexDigits (n := n) (by omega)
  obtain ⟨e, f, g, h, hsecond, hm'⟩ := unit?_hexDigits (n := m) (by omega)
  rw [unitEscape, unitEscape, hfirst, hsecond]
  show scanText start done (.char '\\' :: .char 'u' :: .char a :: .char b :: .char c :: .char d ::
    .char '\\' :: .char 'u' :: .char e :: .char f :: .char g :: .char h :: rest) = _
  have hempty : rest.isEmpty = false := by simpa using hrest
  have hhigh : (0xD800 ≤ n && n < 0xDC00) = true := by simpa using hn
  have hlow : (0xDC00 ≤ m && m < 0xE000) = true := by simpa using hm
  rw [scanText.eq_def]
  simp only [hn', hm', hempty, hhigh, hlow, List.isEmpty_cons, Bool.false_eq_true, if_false, if_true,
    Bool.not_false, Bool.and_self]

theorem scanText_plain {c : Char} (hquote : c ≠ '"') (hslash : c ≠ '\\') (hc : 32 ≤ c.toNat) :
    scanText start done (.char c :: rest) = scanText start (.char c :: done) rest := by
  have hcode : ¬ (Glyph.char c).code < 32 := Nat.not_lt.mpr hc
  rw [scanText.eq_def]
  split
  · simp_all
  · simp_all
  · simp_all
  · simp_all
  · rename_i h
    obtain ⟨rfl, rfl⟩ := List.cons.inj h
    rw [if_neg (by simpa using hslash), if_neg hcode]

/-- Every character is read back from the form in which it is written inside a text. -/
theorem scanText_escapeChar (c : Char) (hrest : rest ≠ []) :
    scanText start done ((escapeChar c).map .char ++ rest) =
      scanText start (.char c :: done) rest := by
  have hvalid := toNat_not_half c
  have hglyph := Utf8.ofCode_toNat c
  unfold escapeChar
  split
  · subst_vars
    exact scanText_short rfl (by decide)
  split
  · subst_vars
    exact scanText_short rfl (by decide)
  split
  · subst_vars
    exact scanText_short rfl (by decide)
  split
  · subst_vars
    exact scanText_short rfl (by decide)
  split
  · subst_vars
    exact scanText_short rfl (by decide)
  split
  · subst_vars
    exact scanText_short rfl (by decide)
  split
  · subst_vars
    exact scanText_short rfl (by decide)
  rename_i hquote hslash _ _ _ _ _
  split
  · rename_i hplain
    simp only [Bool.and_eq_true, decide_eq_true_eq] at hplain
    exact scanText_plain hquote hslash hplain.1
  split
  · rw [scanText_unit (by omega) (by omega) hrest, hglyph]
  · dsimp only
    have hsum : 0x10000 + (0xD800 + (c.toNat - 0x10000) / 1024 - 0xD800) * 1024 +
        (0xDC00 + (c.toNat - 0x10000) % 1024 - 0xDC00) = c.toNat := by omega
    rw [List.map_append, List.append_assoc, scanText_pair (by omega) (by omega) hrest, glyphOfPair,
      hsum, hglyph]

/-- The words of a text end at its closing quote. -/
theorem scanText_written (cs : List Char) :
    scanText start done ((cs.flatMap escapeChar).map .char ++ .char '"' :: rest) =
      (.text ⟨done.reverse ++ cs.map .char⟩, rest) := by
  induction cs generalizing done with
  | nil => simp [scanText]
  | cons c cs ih =>
    rw [List.flatMap_cons, List.map_append, List.append_assoc, scanText_escapeChar c (by simp), ih]
    simp

end Text

/-- A text is written as its characters. -/
theorem writeText_ofString (t : String) :
    writeText t = '"' :: t.toList.flatMap escapeChar ++ ['"'] := by
  rw [writeText, Str.glyphs_ofString, List.flatMap_map]
  rfl

/-- A text is one word, whatever comes after it. -/
theorem nextToken_text (t : String) (rest : List Glyph) :
    nextToken (.char '"') ((t.toList.flatMap escapeChar).map .char ++ .char '"' :: rest) =
      (.text t, rest) := by
  show scanText _ [] _ = _
  rw [scanText_written]
  rfl

/-! Numbers -/

/-- What comes after a value: nothing, or a character that ends it. -/
def Ends (rest : List Glyph) : Prop :=
  ∀ g, rest.head? = some g → g = .char ',' ∨ g = .char ']' ∨ g = .char '\x7d'

theorem Ends.cons {g : Glyph} {rest : List Glyph}
    (h : g = .char ',' ∨ g = .char ']' ∨ g = .char '\x7d') : Ends (g :: rest) := by
  intro g' hg'
  obtain rfl := Option.some.inj hg'
  exact h

theorem asciiDigit?_of_isDigit {c : Char} (h : c.isDigit = true) :
    asciiDigit? c = some (c.toNat - 48) := by
  rw [asciiDigit?, if_pos]
  simpa [Char.isDigit, Char.le_def] using h

theorem ofDigits_eq_ofDigitChars {cs : List Char} (h : ∀ c ∈ cs, c.isDigit = true) :
    ofDigits (cs.filterMap asciiDigit?) = Nat.ofDigitChars 10 cs 0 := by
  unfold ofDigits
  generalize 0 = n
  induction cs generalizing n with
  | nil => rfl
  | cons c cs ih =>
    obtain ⟨hc, hcs⟩ := List.forall_mem_cons.mp h
    rw [List.filterMap_cons, asciiDigit?_of_isDigit hc, Nat.ofDigitChars_cons]
    exact ih hcs _

theorem filterMap_digit? (cs : List Char) :
    (cs.map .char).filterMap digit? = cs.filterMap asciiDigit? := by
  rw [List.filterMap_map]
  rfl

/-- The digits of a number that is not zero do not begin with one. -/
theorem head?_toDigits {n : Nat} (hn : n ≠ 0) : (Nat.toDigits 10 n).head? ≠ some '0' := by
  induction n using Nat.strongRecOn with
  | ind n ih =>
    by_cases hlt : n < 10
    · rw [Nat.toDigits_of_lt_base hlt]
      simpa using hn
    · have hfront := ih (n / 10) (by omega) (by omega)
      rw [Nat.toDigits_of_base_le (by decide) (by omega)]
      cases hd : Nat.toDigits 10 (n / 10) with
      | nil => exact absurd hd Nat.toDigits_ne_nil
      | cons c cs => rwa [hd] at hfront

theorem isDigit_toDigits {n : Nat} {c : Char} (h : c ∈ Nat.toDigits 10 n) : c.isDigit = true :=
  Nat.isDigit_of_mem_toDigits (by decide) (by decide) h

/-- The digits of a number, as a reader meets them. -/
def digitGlyphs (n : Nat) : List Glyph := (Nat.toDigits 10 n).map .char

theorem isDigit_digitGlyphs {n : Nat} {g : Glyph} (h : g ∈ digitGlyphs n) : isDigit g = true := by
  obtain ⟨c, hc, rfl⟩ := List.mem_map.mp h
  exact isDigit_toDigits hc

theorem spanDigits_toDigits (n : Nat) {rest : List Glyph} (hrest : Ends rest) :
    spanDigits (digitGlyphs n ++ rest) = (digitGlyphs n, rest) := by
  have hdigits : ∀ g ∈ digitGlyphs n, isDigit g = true := fun g hg => isDigit_digitGlyphs hg
  rw [spanDigits, List.takeWhile_append_of_pos hdigits, List.dropWhile_append_of_pos hdigits]
  cases rest with
  | nil => simp
  | cons g rest =>
    have hg : isDigit g = false := by
      rcases hrest g rfl with rfl | rfl | rfl <;> decide
    simp [hg]

theorem scanWhole?_toDigits (n : Nat) {rest : List Glyph} (hrest : Ends rest) :
    scanWhole? (digitGlyphs n ++ rest) = some (digitGlyphs n, rest) := by
  by_cases hn : n = 0
  · subst hn
    rfl
  · have hspan := spanDigits_toDigits n hrest
    have hhead := head?_toDigits hn
    have hdigits : ∀ c ∈ Nat.toDigits 10 n, c.isDigit = true := fun c hc => isDigit_toDigits hc
    rw [digitGlyphs] at hspan ⊢
    cases hd : Nat.toDigits 10 n with
    | nil => exact absurd hd Nat.toDigits_ne_nil
    | cons c cs =>
      rw [hd] at hspan hhead hdigits
      have hzero : c ≠ '0' := fun h => hhead (congrArg some h)
      have hc : isDigit (.char c) = true := hdigits c List.mem_cons_self
      rw [List.map_cons, List.cons_append] at hspan ⊢
      rw [scanWhole?.eq_def]
      split
      · rename_i h
        exact absurd (Glyph.char.inj (List.cons.inj h).1) hzero
      · rename_i g _ h
        obtain ⟨rfl, -⟩ := List.cons.inj h
        rw [if_pos hc, hspan]
      · rename_i h
        cases h

/-- The digits of an integer are read back, unless there are too many. -/
theorem scanNumber?_toDigits (negative : Bool) {n : Nat} {rest : List Glyph}
    (hn : (Nat.toDigits 10 n).length ≤ digitLimit) (hrest : Ends rest) :
    scanNumber? negative (digitGlyphs n ++ rest) =
      some (.scalar (.int (if negative then -n else n)), rest) := by
  have hplaces : scanPlaces rest = ([], rest) := by
    cases rest with
    | nil => rfl
    | cons g rest => rcases hrest g rfl with rfl | rfl | rfl <;> rfl
  have hpower : scanExponent rest = (none, rest) := by
    cases rest with
    | nil => rfl
    | cons g rest => rcases hrest g rfl with rfl | rfl | rfl <;> rfl
  have hlength : (digitGlyphs n).length ≤ digitLimit := by
    rwa [digitGlyphs, List.length_map]
  have hvalue : ofDigits ((digitGlyphs n).filterMap digit?) = n := by
    rw [digitGlyphs, filterMap_digit?, ofDigits_eq_ofDigitChars fun c hc => isDigit_toDigits hc,
      Nat.ofDigitChars_ten_toDigits]
  unfold scanNumber?
  rw [scanWhole?_toDigits n hrest]
  simp only [hplaces, hpower, List.isEmpty_nil, Option.isNone_none, Bool.and_self, if_true,
    integerToken, if_neg (Nat.not_lt.mpr hlength), hvalue]

section Number

variable {g : Glyph} (hg : isDigit g = true)
include hg

theorem ne_of_isDigit {x : Char} (hx : x.isDigit = false) : g ≠ .char x := by
  intro h
  rw [h, isDigit, hx] at hg
  cases hg

theorem isSpace_of_isDigit : isSpace g = false := by
  simp [isSpace, ne_of_isDigit hg (x := ' ') rfl, ne_of_isDigit hg (x := '\t') rfl,
    ne_of_isDigit hg (x := '\n') rfl, ne_of_isDigit hg (x := '\r') rfl]

/-- A word that begins with a digit is a number. -/
theorem nextToken_digit (gs : List Glyph) : nextToken g gs =
    (scanNumber? false (g :: gs)).getD (.flawed .value (g :: gs), []) := by
  have hne {x : Char} (hx : x.isDigit = false) : g ≠ .char x := ne_of_isDigit hg hx
  have hscalar : nextToken g gs = scanScalar (g :: gs) := by
    unfold nextToken
    rw [if_neg (hne rfl), if_neg (hne rfl), if_neg (hne rfl), if_neg (hne rfl), if_neg (hne rfl),
      if_neg (hne rfl), if_neg (hne rfl)]
  have hfirst {x : Char} (hx : x.isDigit = false) (xs : List Char) :
      after? (x :: xs) (g :: gs) = none := if_neg (hne hx)
  rw [hscalar, scanScalar.eq_def]
  have hnull : after? "null".toList (g :: gs) = none := hfirst rfl _
  have htrue : after? "true".toList (g :: gs) = none := hfirst rfl _
  have hfalse : after? "false".toList (g :: gs) = none := hfirst rfl _
  have hnan : after? "NaN".toList (g :: gs) = none := hfirst rfl _
  have hinfinity : after? "Infinity".toList (g :: gs) = none := hfirst rfl _
  have hbelow : after? "-Infinity".toList (g :: gs) = none := hfirst rfl _
  simp only [List.findSome?_cons, List.findSome?_nil, hnull, htrue, hfalse, hnan, hinfinity, hbelow,
    Option.map_none]
  split
  · rename_i h
    exact absurd (List.cons.inj h).1 (hne rfl)
  · rfl

/-- A sign with a digit after it begins a number. -/
theorem nextToken_minus (gs : List Glyph) : nextToken (.char '-') (g :: gs) =
    (scanNumber? true (g :: gs)).getD (.flawed .value (.char '-' :: g :: gs), []) := by
  have hi : g ≠ .char 'I' := ne_of_isDigit hg rfl
  show scanScalar _ = _
  simp [scanScalar, after?, hi]

end Number

/-- The form in which an integer is written: its digits, after a sign if it is below zero. -/
theorem chars_int (n : Int) : (Value.int n).chars =
    (if n < 0 then ['-'] else []) ++ Nat.toDigits 10 n.natAbs := by
  show n.repr.toList = _
  rw [Int.repr_eq_if]
  by_cases hn : 0 ≤ n
  · have habs : n.toNat = n.natAbs := by omega
    rw [if_pos hn, if_neg (by omega), habs, Nat.repr_eq_ofList_toDigits, String.toList_ofList]
    rfl
  · have habs : (-n).toNat = n.natAbs := by omega
    have hsign : "-".toList = ['-'] := rfl
    rw [if_neg hn, if_pos (by omega), habs, Nat.repr_eq_ofList_toDigits, String.toList_append, hsign,
      String.toList_ofList]

/-- An integer is one word, if what comes after it cannot belong to a number. -/
theorem nextToken_int {n : Int} (hn : digitCount n ≤ digitLimit) {rest : List Glyph}
    (hrest : Ends rest) : ∃ c cs, (Value.int n).chars = c :: cs ∧ isSpace (.char c) = false ∧
      nextToken (.char c) (cs.map .char ++ rest) = (.scalar (.int n), rest) := by
  have hscan (negative : Bool) := scanNumber?_toDigits negative hn hrest
  rw [chars_int]
  rw [digitGlyphs] at hscan
  cases hd : Nat.toDigits 10 n.natAbs with
  | nil => exact absurd hd Nat.toDigits_ne_nil
  | cons c cs =>
    have hc : isDigit (.char c) = true := isDigit_toDigits (hd ▸ List.mem_cons_self)
    rw [hd, List.map_cons, List.cons_append] at hscan
    by_cases hneg : n < 0
    · have hvalue : (if true then -((n.natAbs : Nat) : Int) else n.natAbs) = n := by
        rw [if_pos rfl]
        omega
      refine ⟨'-', c :: cs, by rw [if_pos hneg]; rfl, rfl, ?_⟩
      rw [List.map_cons, List.cons_append, nextToken_minus hc, hscan true, hvalue]
      rfl
    · have hvalue : (if false then -((n.natAbs : Nat) : Int) else n.natAbs) = n := by
        rw [if_neg (by decide)]
        omega
      refine ⟨c, cs, by rw [if_neg hneg]; rfl, isSpace_of_isDigit hc, ?_⟩
      rw [nextToken_digit hc, hscan false, hvalue]
      rfl

end Storefront.Json
