import Storefront.Proofs.Strings
import Storefront.Text.Percent

/-! Texts that are encoded and decoded again. Each character is read back from its own bytes, and each
byte from its own escape, whatever follows, so every text comes back. -/
namespace Storefront.Text

namespace Utf8

theorem charOf?_toNat (c : Char) : charOf? c.toNat = some c := by
  have hvalid : c.toNat.isValidChar := c.valid
  have hc : Char.ofNat c.toNat = c := c.ofNat_toNat
  rw [Char.ofNat, dif_pos hvalid] at hc
  rw [charOf?, dif_pos hvalid, hc]

theorem ofCode_toNat (c : Char) : Glyph.ofCode c.toNat = .char c := by
  have hchar := charOf?_toNat c
  have hvalid : c.toNat.isValidChar := c.valid
  rw [charOf?, dif_pos hvalid] at hchar
  rw [Glyph.ofCode, dif_pos hvalid, Option.some.inj hchar]

theorem continuation?_ofNat {m : Nat} (h : m < 64) :
    continuation? (.ofNat (0x80 + m)) = some m := by
  have hsize : UInt8.size = 256 := rfl
  have hm : (UInt8.ofNat (0x80 + m)).toNat = 0x80 + m := UInt8.toNat_ofNat_of_lt' (by omega)
  rw [continuation?, hm, Nat.add_sub_cancel_left, if_pos]
  simp only [Bool.and_eq_true, decide_eq_true_eq]
  omega

theorem two?_encoded {n : Nat} (h : 0x80 ≤ n) (h' : n < 0x800) :
    two? (.ofNat (0xC0 + n / 64)) (.ofNat (0x80 + n % 64)) = charOf? n := by
  have hsize : UInt8.size = 256 := rfl
  have ha : (UInt8.ofNat (0xC0 + n / 64)).toNat = 0xC0 + n / 64 :=
    UInt8.toNat_ofNat_of_lt' (by omega)
  have hb := continuation?_ofNat (show n % 64 < 64 by omega)
  have hsum : n / 64 * 64 + n % 64 = n := by omega
  simp only [two?, ha, hb, Nat.add_sub_cancel_left, hsum, bind, Option.bind]
  exact if_neg (by omega)

theorem three?_encoded {n : Nat} (h : 0x800 ≤ n) (h' : n < 0x10000) :
    three? (.ofNat (0xE0 + n / 4096)) (.ofNat (0x80 + n / 64 % 64)) (.ofNat (0x80 + n % 64)) =
      some (.ofCode n) := by
  have hsize : UInt8.size = 256 := rfl
  have ha : (UInt8.ofNat (0xE0 + n / 4096)).toNat = 0xE0 + n / 4096 :=
    UInt8.toNat_ofNat_of_lt' (by omega)
  have hb := continuation?_ofNat (show n / 64 % 64 < 64 by omega)
  have hc := continuation?_ofNat (show n % 64 < 64 by omega)
  have hsum : n / 4096 * 4096 + n / 64 % 64 * 64 + n % 64 = n := by omega
  simp only [three?, ha, hb, hc, Nat.add_sub_cancel_left, hsum, bind, Option.bind]
  exact if_neg (by omega)

theorem four?_encoded {n : Nat} (h : 0x10000 ≤ n) (h' : n < 0x110000) :
    four? (.ofNat (0xF0 + n / 262144)) (.ofNat (0x80 + n / 4096 % 64))
      (.ofNat (0x80 + n / 64 % 64)) (.ofNat (0x80 + n % 64)) = charOf? n := by
  have hsize : UInt8.size = 256 := rfl
  have ha : (UInt8.ofNat (0xF0 + n / 262144)).toNat = 0xF0 + n / 262144 :=
    UInt8.toNat_ofNat_of_lt' (by omega)
  have hb := continuation?_ofNat (show n / 4096 % 64 < 64 by omega)
  have hc := continuation?_ofNat (show n / 64 % 64 < 64 by omega)
  have hd := continuation?_ofNat (show n % 64 < 64 by omega)
  have hsum : n / 262144 * 262144 + n / 4096 % 64 * 4096 + n / 64 % 64 * 64 + n % 64 = n := by
    omega
  simp only [four?, ha, hb, hc, hd, Nat.add_sub_cancel_left, hsum, bind, Option.bind]
  exact if_neg (by omega)

/-- A character is read back from its bytes. -/
theorem decodeFrom_encodeChar (done : List Glyph) (c : Char) (rest : List UInt8) :
    decodeFrom done (encodeChar c ++ rest) = decodeFrom (.char c :: done) rest := by
  have hsize : UInt8.size = 256 := rfl
  have hchar := charOf?_toNat c
  have hglyph := ofCode_toNat c
  have hbound : c.toNat < 0x110000 := by
    have hvalid : c.toNat.isValidChar := c.valid
    simp only [Nat.isValidChar] at hvalid
    omega
  unfold encodeChar
  generalize hn : c.toNat = n at *
  dsimp only
  -- the first byte tells how many there are
  split
  · have ha : (UInt8.ofNat n).toNat = n := UInt8.toNat_ofNat_of_lt' (by omega)
    have hc : Char.ofNat n = c := by rw [← hn, c.ofNat_toNat]
    rw [List.singleton_append, decodeFrom.eq_def]
    dsimp only
    rw [ha, if_pos ‹_›, hc]
  · split
    · have ha : (UInt8.ofNat (0xC0 + n / 64)).toNat = 0xC0 + n / 64 :=
        UInt8.toNat_ofNat_of_lt' (by omega)
      simp only [List.cons_append, List.nil_append]
      rw [decodeFrom.eq_def]
      dsimp only
      rw [ha, if_neg (by omega), if_neg (by omega), if_pos (by omega),
        two?_encoded (by omega) (by omega), hchar, Option.bind_some]
    · split
      · have ha : (UInt8.ofNat (0xE0 + n / 4096)).toNat = 0xE0 + n / 4096 :=
          UInt8.toNat_ofNat_of_lt' (by omega)
        simp only [List.cons_append, List.nil_append]
        rw [decodeFrom.eq_def]
        dsimp only
        rw [ha, if_neg (by omega), if_neg (by omega), if_neg (by omega), if_pos (by omega),
          three?_encoded (by omega) (by omega), hglyph, Option.bind_some]
      · have ha : (UInt8.ofNat (0xF0 + n / 262144)).toNat = 0xF0 + n / 262144 :=
          UInt8.toNat_ofNat_of_lt' (by omega)
        simp only [List.cons_append, List.nil_append]
        rw [decodeFrom.eq_def]
        dsimp only
        rw [ha, if_neg (by omega), if_neg (by omega), if_neg (by omega), if_neg (by omega),
          if_pos (by omega), four?_encoded (by omega) (by omega), hchar, Option.bind_some]

/-- Every text is read back from its bytes. -/
theorem decode?_encode (cs : List Char) : decode? (encode cs) = some (cs.map .char) := by
  have hfrom (done : List Glyph) :
      decodeFrom done (encode cs) = some (done.reverse ++ cs.map .char) := by
    induction cs generalizing done with
    | nil => simp [encode, decodeFrom]
    | cons c cs ih =>
      have hcons : encode (c :: cs) = encodeChar c ++ encode cs := List.flatMap_cons
      rw [hcons, decodeFrom_encodeChar, ih, List.reverse_cons, List.append_assoc]
      rfl
  exact hfrom []

end Utf8

theorem hexValue?_hexDigitUpper : ∀ n < 16, hexValue? (hexDigitUpper n) = some n := by decide

namespace Percent

/-- An escaped byte is read back. -/
theorem decodeBytes_encodeByte (b : UInt8) (rest : List Char) :
    decodeBytes (encodeByte b ++ rest) = b :: decodeBytes rest := by
  have hb : b.toNat < 256 := b.toNat_lt
  have hhigh := hexValue?_hexDigitUpper (b.toNat / 16) (by omega)
  have hlow := hexValue?_hexDigitUpper (b.toNat % 16) (by omega)
  have hsum : 16 * (b.toNat / 16) + b.toNat % 16 = b.toNat := by omega
  simp only [encodeByte, List.cons_append, List.nil_append]
  rw [decodeBytes, hhigh, hlow]
  simp [hsum]

theorem decodeBytes_encodeBytes (bs : List UInt8) (rest : List Char) :
    decodeBytes (bs.flatMap encodeByte ++ rest) = bs ++ decodeBytes rest := by
  induction bs with
  | nil => rfl
  | cons b bs ih =>
    rw [List.flatMap_cons, List.append_assoc, decodeBytes_encodeByte, ih, List.cons_append]

/-- A character that is no percent sign stands for itself. -/
theorem decodeBytes_cons {c : Char} (h : c ≠ '%') (rest : List Char) :
    decodeBytes (c :: rest) = Utf8.encodeChar c ++ decodeBytes rest := by
  rw [decodeBytes]
  exact fun _ _ _ he => absurd he h

theorem ne_percent_of_isUnreserved {c : Char} (h : isUnreserved c = true) : c ≠ '%' := by
  rintro rfl
  exact absurd h (by decide)

theorem decodeBytes_encodeSegment (cs rest : List Char) :
    decodeBytes (encodeSegment cs ++ rest) = Utf8.encode cs ++ decodeBytes rest := by
  induction cs with
  | nil => rfl
  | cons c cs ih =>
    have hcons : Utf8.encode (c :: cs) = Utf8.encodeChar c ++ Utf8.encode cs := List.flatMap_cons
    unfold encodeSegment at ih ⊢
    rw [List.flatMap_cons, List.append_assoc, hcons, List.append_assoc, ← ih]
    split
    · exact decodeBytes_cons (ne_percent_of_isUnreserved ‹_›) _
    · exact decodeBytes_encodeBytes _ _

/-- Every text is read back from its segment. -/
theorem decodeSegment?_encodeSegment (cs : List Char) :
    decodeSegment? (encodeSegment cs) = some cs := by
  have h := decodeBytes_encodeSegment cs []
  rw [List.append_nil, decodeBytes, List.append_nil] at h
  rw [decodeSegment?, h, Utf8.decode?_encode, Option.bind_some, Str.charsOf?_map_char]

theorem encodeSegment_injective {cs cs' : List Char} (h : encodeSegment cs = encodeSegment cs') :
    cs = cs' := by
  have hread := decodeSegment?_encodeSegment cs
  rw [h, decodeSegment?_encodeSegment] at hread
  exact (Option.some.inj hread).symm

end Percent

end Storefront.Text
