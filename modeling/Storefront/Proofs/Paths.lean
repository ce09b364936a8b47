import Storefront.Address.Reader
import Storefront.Proofs.Checks
import Storefront.Proofs.Encodings

/-! Paths in addresses. An address that is put together from encoded segments is read back to these
segments, and then its dots are taken. Encoding leaves no mark in a segment that could end it, but it
leaves the dots. -/
namespace Storefront

namespace Text

theorem splitOnChar_eq (mark : Char) (cs : List Char) : splitOnChar mark cs = cs.splitOn mark := by
  induction cs with
  | nil => rfl
  | cons c cs ih =>
    rw [splitOnChar, ih, List.splitOn_cons_eq_if_modifyHead]
    cases hpieces : cs.splitOn mark with
    | nil => exact absurd hpieces (List.splitOnP_ne_nil _ cs)
    | cons piece pieces => simp

/-- What is taken of a text ends where the rest begins. -/
theorem takeWhile_append {p : Char → Bool} {cs rest : List Char} (h : ∀ c ∈ cs, p c = true)
    (hrest : ∀ c, rest.head? = some c → p c = false) : (cs ++ rest).takeWhile p = cs := by
  rw [List.takeWhile_append_of_pos h]
  cases rest with
  | nil => simp
  | cons c rest => simp [hrest c rfl]

/-- Pieces without the mark are read back. -/
theorem splitOnChar_intercalate {mark : Char} {pieces : List (List Char)}
    (h : ∀ piece ∈ pieces, mark ∉ piece) (hne : pieces ≠ []) :
    splitOnChar mark ([mark].intercalate pieces) = pieces := by
  rw [splitOnChar_eq]
  exact List.splitOn_intercalate mark h hne

theorem mem_intercalate {mark c : Char} {pieces : List (List Char)}
    (h : c ∈ [mark].intercalate pieces) : c = mark ∨ ∃ piece ∈ pieces, c ∈ piece := by
  induction pieces with
  | nil => cases h
  | cons piece pieces ih =>
    cases pieces with
    | nil =>
      rw [List.intercalate_singleton] at h
      exact .inr ⟨piece, List.mem_cons_self, h⟩
    | cons next pieces =>
      rw [List.intercalate_cons_cons, List.mem_append, List.mem_append, List.mem_singleton] at h
      rcases h with (h | h) | h
      · exact .inr ⟨piece, List.mem_cons_self, h⟩
      · exact .inl h
      · rcases ih h with h | ⟨other, hother, hc⟩
        · exact .inl h
        · exact .inr ⟨other, List.mem_cons_of_mem piece hother, hc⟩

end Text

namespace Text.Percent

/-- What encoded segments are made of. -/
def isEncoded (c : Char) : Bool := isUnreserved c || c == '%'

theorem isEncoded_of_mem_encodeByte {b : UInt8} {c : Char} (h : c ∈ encodeByte b) :
    isEncoded c = true := by
  have hdigit : ∀ n < 16, isEncoded (hexDigitUpper n) = true := by decide
  have hb : b.toNat < 256 := b.toNat_lt
  simp only [encodeByte, List.mem_cons, List.not_mem_nil, or_false] at h
  rcases h with rfl | rfl | rfl
  · rfl
  · exact hdigit _ (by omega)
  · exact hdigit _ (by omega)

theorem isEncoded_of_mem_encodeChar {c d : Char} (h : d ∈ encodeChar c) : isEncoded d = true := by
  obtain ⟨b, -, hb⟩ := List.mem_flatMap.mp h
  exact isEncoded_of_mem_encodeByte hb

theorem isEncoded_of_mem_encodeSegment {cs : List Char} {c : Char} (h : c ∈ encodeSegment cs) :
    isEncoded c = true := by
  obtain ⟨d, -, hd⟩ := List.mem_flatMap.mp h
  split at hd
  · rename_i hplain
    rw [List.mem_singleton.mp hd, isEncoded, hplain, Bool.true_or]
  · exact isEncoded_of_mem_encodeChar hd

theorem isEncoded_of_mem_encodeQuery {cs : List Char} {c : Char} (h : c ∈ encodeQuery cs) :
    isEncoded c = true ∨ c = '+' := by
  obtain ⟨d, -, hd⟩ := List.mem_flatMap.mp h
  split at hd
  · exact .inr (List.mem_singleton.mp hd)
  · split at hd
    · rename_i hplain
      rw [List.mem_singleton.mp hd, isEncoded, hplain, Bool.true_or]
      exact .inl rfl
    · exact .inl (isEncoded_of_mem_encodeChar hd)

theorem isAlphanum_toNat {c : Char} (h : c.isAlphanum = true) : c.toNat < 128 := by
  rcases Bool.or_eq_true_iff.mp h with hletter | hdigit
  · rcases Bool.or_eq_true_iff.mp hletter with hupper | hlower
    · have hle : c.val ≤ 'Z'.val := (of_decide_eq_true hupper).2
      exact Nat.lt_of_le_of_lt (UInt32.le_iff_toNat_le.mp hle) (by decide)
    · have hle : c.val ≤ 'z'.val := of_decide_eq_true (Bool.and_eq_true_iff.mp hlower).2
      exact Nat.lt_of_le_of_lt (UInt32.le_iff_toNat_le.mp hle) (by decide)
  · exact Nat.lt_of_le_of_lt (Char.isDigit_iff_toNat.mp hdigit).2 (by decide)

theorem isEncoded_toNat {c : Char} (h : isEncoded c = true) : c.toNat < 128 := by
  simp only [isEncoded, isUnreserved, Bool.or_eq_true, beq_iff_eq] at h
  rcases h with ((((h | rfl) | rfl) | rfl) | rfl) | rfl
  · exact isAlphanum_toNat h
  all_goals decide

/-- Such a character ends no part of an address, and stands for itself in a path. -/
theorem isPathChar_of_isEncoded {c : Char} (h : isEncoded c = true) :
    Address.isPathChar c = true ∧ c ≠ '/' := by
  have hall : ∀ n < 128, isEncoded (Char.ofNat n) = true →
      Address.isPathChar (Char.ofNat n) = true ∧ Char.ofNat n ≠ '/' := by decide
  have hc := hall c.toNat (isEncoded_toNat h)
  rw [c.ofNat_toNat] at hc
  exact hc h

end Text.Percent

namespace Address

open Text (splitOnChar)
open Text.Percent (isEncoded isPathChar_of_isEncoded)

theorem splitFirst_of_not_mem {mark : Char} {cs : List Char} (h : mark ∉ cs) :
    splitFirst mark cs = (cs, none) := by
  have htake : (cs ++ []).takeWhile (· ≠ mark) = cs :=
    Text.takeWhile_append (fun c hc => decide_eq_true fun he => h (he ▸ hc)) nofun
  rw [List.append_nil] at htake
  simp only [splitFirst, htake, if_true]

theorem splitFirst_append {mark : Char} {cs : List Char} (h : mark ∉ cs) (rest : List Char) :
    splitFirst mark (cs ++ mark :: rest) = (cs, some rest) := by
  have htake : (cs ++ mark :: rest).takeWhile (· ≠ mark) = cs :=
    Text.takeWhile_append (fun c hc => decide_eq_true fun he => h (he ▸ hc)) (by simp)
  have hlength : ¬ cs.length = (cs ++ mark :: rest).length := by simp
  simp only [splitFirst, htake, if_neg hlength, List.drop_length_add_append, List.drop_one,
    List.tail_cons]

theorem encodePart_of_all {keeps : Char → Bool} {cs : List Char} (h : ∀ c ∈ cs, keeps c = true) :
    encodePart keeps cs = cs := by
  induction cs with
  | nil => rfl
  | cons c cs ih =>
    have hrest := ih fun d hd => h d (List.mem_cons_of_mem c hd)
    unfold encodePart at hrest ⊢
    rw [List.flatMap_cons, hrest, if_pos (h c List.mem_cons_self)]
    rfl

/-! The dots of a path -/

theorem takeSegment_of_ne {done : List (List Char)} {segment : List Char} (h : segment ≠ ['.'])
    (h' : segment ≠ ['.', '.']) : takeSegment done segment = done ++ [segment] := by
  rw [takeSegment, if_neg h, if_neg h']

theorem foldl_takeSegment {segments : List (List Char)}
    (h : ∀ s ∈ segments, s ≠ ['.'] ∧ s ≠ ['.', '.']) (done : List (List Char)) :
    segments.foldl takeSegment done = done ++ segments := by
  induction segments generalizing done with
  | nil => simp
  | cons s segments ih =>
    obtain ⟨hone, htwo⟩ := h s List.mem_cons_self
    rw [List.foldl_cons, takeSegment_of_ne hone htwo,
      ih (fun t ht => h t (List.mem_cons_of_mem s ht)), List.append_assoc]
    rfl

/-- Nothing stands in a path but what stood there before its dots were taken. -/
theorem mem_foldl_takeSegment {segments done : List (List Char)} {s : List Char}
    (h : s ∈ segments.foldl takeSegment done) : s ∈ done ∨ s ∈ segments := by
  induction segments generalizing done with
  | nil => exact .inl h
  | cons t segments ih =>
    rcases ih h with h | h
    · unfold takeSegment at h
      split at h
      · exact .inl h
      · split at h
        · split at h
          · exact .inl h
          · exact .inl (List.dropLast_subset _ h)
        · rcases List.mem_append.mp h with h | h
          · exact .inl h
          · exact .inr (List.mem_singleton.mp h ▸ List.mem_cons_self)
    · exact .inr (List.mem_cons_of_mem t h)

theorem withoutDots_intercalate {segments : List (List Char)} (h : ∀ s ∈ segments, '/' ∉ s)
    (hne : segments ≠ []) : withoutDots (['/'].intercalate segments) =
      ['/'].intercalate (segments.foldl takeSegment []) := by
  unfold withoutDots
  rw [Text.splitOnChar_intercalate h hne]
  dsimp only
  split
  · rfl
  · rename_i hdots
    simp only [Bool.or_eq_true, List.contains_iff_mem, not_or] at hdots
    rw [foldl_takeSegment, List.nil_append]
    exact fun s hs => ⟨fun he => hdots.1 (he ▸ hs), fun he => hdots.2 (he ▸ hs)⟩

/-! Reading an address that was put together -/

/-- A name that may stand before the colon of an address. -/
def IsSchemeName (cs : List Char) : Prop :=
  ∃ c rest, cs = c :: rest ∧ c.isAlpha = true ∧ rest.all isSchemeChar = true

theorem splitScheme_append {scheme : List Char} (h : IsSchemeName scheme) (rest : List Char) :
    splitScheme (scheme ++ ':' :: rest) = (scheme, rest) := by
  obtain ⟨c, cs, rfl, hc, hcs⟩ := h
  have hcolon : ':' ∉ c :: cs := by
    rw [List.mem_cons, not_or]
    constructor
    · rintro rfl
      exact absurd hc (by decide)
    · intro hmem
      exact absurd (List.all_eq_true.mp hcs _ hmem) (by decide)
  rw [splitScheme, splitFirst_append hcolon]
  simp [hc, hcs]

/-- No character of a host ends it. -/
def IsHost (cs : List Char) : Prop := ∀ c ∈ cs, c ≠ '/' ∧ c ≠ '?' ∧ c ≠ '#'

instance (cs : List Char) : Decidable (IsHost cs) :=
  List.decidableBAll _ cs

/-- What comes behind a path: nothing, or a query. -/
def IsTail (cs : List Char) : Prop := '#' ∉ cs ∧ ∀ c, cs.head? = some c → c = '?'

theorem splitFirst_tail {path tail : List Char} (h : '?' ∉ path)
    (htail : ∀ c, tail.head? = some c → c = '?') : (splitFirst '?' (path ++ tail)).1 = path := by
  cases tail with
  | nil => rw [List.append_nil, splitFirst_of_not_mem h]
  | cons c tail =>
    obtain rfl := htail c rfl
    rw [splitFirst_append h]

/-- An address, put together from its parts. -/
def assembled (scheme host path tail : List Char) : List Char :=
  scheme ++ "://".toList ++ host ++ '/' :: path ++ tail

theorem split_assembled {scheme host path tail : List Char} (hscheme : IsSchemeName scheme)
    (hhost : IsHost host) (hpath : ∀ c ∈ path, isPathChar c = true) (htail : IsTail tail) :
    (split (assembled scheme host path tail)).scheme = scheme ∧
      (split (assembled scheme host path tail)).path = '/' :: path := by
  have hparts : assembled scheme host path tail =
      scheme ++ ':' :: '/' :: '/' :: (host ++ ('/' :: path ++ tail)) := by
    simp [assembled]
  have hends : (host ++ ('/' :: path ++ tail)).takeWhile (fun c => c ≠ '/' && c ≠ '?' && c ≠ '#') =
      host := Text.takeWhile_append (fun c hc => by simpa [and_assoc] using hhost c hc) (by simp)
  have hquestion : '?' ∉ '/' :: path := by
    rw [List.mem_cons, not_or]
    exact ⟨by decide, fun h => absurd (hpath _ h) (by decide)⟩
  have hhash : '#' ∉ '/' :: path ++ tail := by
    rw [List.mem_append, List.mem_cons, not_or, not_or]
    exact ⟨⟨by decide, fun h => absurd (hpath _ h) (by decide)⟩, htail.1⟩
  rw [hparts]
  unfold split
  simp only [splitScheme_append hscheme, hends, List.drop_left, splitFirst_of_not_mem hhash,
    splitFirst_tail hquestion htail.2, and_self]

theorem ofParts_path {p : Parts} {a : Address} (h : ofParts p = .ok a) (hs : p.scheme ≠ []) :
    a.path = encodePart isPathChar (withoutDots p.path) := by
  obtain ⟨host, -, h⟩ := Operation.bind_ok h
  obtain ⟨port, -, h⟩ := Operation.bind_ok h
  obtain ⟨-, -, h⟩ := Operation.bind_ok h
  have hscheme : p.scheme.isEmpty = false := by simpa using hs
  rw [← Except.ok.inj h]
  simp [hscheme]

/-- Of an address without a host the path stays as it is. -/
theorem ofParts_relative {path : List Char} {query : Option (List Char)} {a : Address}
    (h : ofParts { path, query } = .ok a) : a.path = encodePart isPathChar path := by
  obtain ⟨host, hhost, h⟩ := Operation.bind_ok h
  obtain ⟨port, hport, h⟩ := Operation.bind_ok h
  obtain ⟨-, -, h⟩ := Operation.bind_ok h
  obtain rfl : [] = host := Except.ok.inj hhost
  obtain rfl : none = port := Except.ok.inj hport
  rw [← Except.ok.inj h]
  rfl

theorem ofParts_of_readChars {cs : List Char} {a : Address} (h : readChars cs = .ok a) :
    ofParts (split cs) = .ok a := by
  unfold readChars at h
  split at h
  · cases h
  · split at h
    · cases h
    · exact h

/-- The path of a target without a host is read back, and nothing else is done to it. -/
theorem path_of_target {a b : Address} {c : Char} {cs : List Char} (hpath : a.path = '/' :: c :: cs)
    (hc : c ≠ '/') (hplain : ∀ d ∈ a.path, isPathChar d = true)
    (h : (do
      let (path, query) := splitFirst '?' ('/' :: a.target.dropWhile (· = '/'))
      ofParts { path, query }) = .ok b) : b.path = a.path := by
  obtain ⟨tail, htarget, htail⟩ : ∃ tail, a.target = a.path ++ tail ∧
      ∀ d, tail.head? = some d → d = '?' := by
    have hsome : ¬ a.path.isEmpty = true := by simp [hpath]
    unfold target
    rw [if_neg hsome]
    refine ⟨_, rfl, ?_⟩
    cases a.query with
    | none => nofun
    | some q =>
      rintro _ ⟨⟩
      rfl
  have hdrop : '/' :: a.target.dropWhile (· = '/') = a.path ++ tail := by
    rw [htarget, hpath]
    simp [hc]
  have hquestion : '?' ∉ a.path := fun hmem => absurd (hplain _ hmem) (by decide)
  have hread := splitFirst_tail hquestion htail
  rw [hdrop] at h
  generalize splitFirst '?' (a.path ++ tail) = parts at h hread
  obtain ⟨path, query⟩ := parts
  obtain rfl : path = a.path := hread
  rw [ofParts_relative h, encodePart_of_all hplain]

/-- The segments from which an address was put together are read back, and their dots are taken. -/
theorem path_of_readTarget {scheme host tail first : List Char} {segments rest : List (List Char)}
    {a : Address} (hscheme : IsSchemeName scheme) (hhost : IsHost host) (htail : IsTail tail)
    (hsegments : ∀ s ∈ segments, ∀ c ∈ s, isEncoded c = true)
    (hfold : segments.foldl takeSegment [[]] = [] :: first :: rest) (hfirst : first ≠ [])
    (h : readTarget (String.ofList (assembled scheme host (['/'].intercalate segments) tail)) =
      .ok a) : splitOnChar '/' a.path = [] :: first :: rest := by
  obtain ⟨a₀, ha₀, h⟩ := Operation.bind_ok h
  rw [read, String.toList_ofList] at ha₀
  have hne : segments ≠ [] := by
    rintro rfl
    cases hfold
  have hplain (s : List Char) (hs : s ∈ [] :: segments) (c : Char) (hc : c ∈ s) :
      isPathChar c = true ∧ c ≠ '/' := by
    rcases List.mem_cons.mp hs with rfl | hs
    · cases hc
    · exact isPathChar_of_isEncoded (hsegments s hs c hc)
  have hjoined (segments : List (List Char)) (hp : ∀ s ∈ segments, ∀ c ∈ s, isPathChar c = true) :
      ∀ c ∈ ['/'].intercalate segments, isPathChar c = true := by
    intro c hc
    rcases Text.mem_intercalate hc with rfl | ⟨s, hs, hc⟩
    · decide
    · exact hp s hs c hc
  have hkept (s : List Char) (hs : s ∈ [] :: first :: rest) : s ∈ [] :: segments := by
    rw [← hfold] at hs
    rcases mem_foldl_takeSegment hs with hs | hs
    · exact List.mem_singleton.mp hs ▸ List.mem_cons_self
    · exact List.mem_cons_of_mem _ hs
  have hresult : splitOnChar '/' (['/'].intercalate ([] :: first :: rest)) = [] :: first :: rest :=
    Text.splitOnChar_intercalate (fun s hs hmem => (hplain s (hkept s hs) _ hmem).2 rfl) (by simp)
  have hplain₀ := hjoined ([] :: first :: rest) fun s hs c hc => (hplain s (hkept s hs) c hc).1
  have hpath₀ : a₀.path = ['/'].intercalate ([] :: first :: rest) := by
    obtain ⟨hname, hpath⟩ := split_assembled hscheme hhost (hjoined segments fun s hs c hc =>
      (hplain s (List.mem_cons_of_mem _ hs) c hc).1) htail
    have hslash : '/' :: ['/'].intercalate segments = ['/'].intercalate ([] :: segments) := by
      obtain ⟨s, more, rfl⟩ := List.exists_cons_of_ne_nil hne
      rw [List.intercalate_cons_cons]
      rfl
    have hwithout : withoutDots (['/'].intercalate ([] :: segments)) =
        ['/'].intercalate ([] :: first :: rest) := by
      rw [withoutDots_intercalate (fun s hs hmem => (hplain s hs _ hmem).2 rfl) (by simp), ← hfold]
      rfl
    obtain ⟨c, cs, rfl, -, -⟩ := hscheme
    rw [ofParts_path (ofParts_of_readChars ha₀) (by simp [hname]), hpath, hslash, hwithout,
      encodePart_of_all hplain₀]
  obtain ⟨c, cs, rfl⟩ := List.exists_cons_of_ne_nil hfirst
  obtain ⟨more, hmore⟩ : ∃ more, ['/'].intercalate ([] :: (c :: cs) :: rest) = '/' :: c :: more := by
    cases rest with
    | nil => exact ⟨_, rfl⟩
    | cons s rest => exact ⟨_, rfl⟩
  have hslash : c ≠ '/' := (hplain (c :: cs) (hkept _ (by simp)) c List.mem_cons_self).2
  split at h
  · rw [← Except.ok.inj h, hpath₀, hresult]
  · rw [path_of_target (hpath₀.trans hmore) hslash (hpath₀ ▸ hplain₀) h, hpath₀, hresult]

end Address

end Storefront
