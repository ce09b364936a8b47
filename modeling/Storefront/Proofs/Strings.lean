import Storefront.Proofs.Blanks
import Storefront.Text.Str

/-! Strings that are texts. A text is a string without halves of pairs, it is a string in one way only,
and it is treated as a string just as it is treated as a text. -/
namespace Storefront.Str

theorem append_assoc (s t u : Str) : s ++ t ++ u = s ++ (t ++ u) :=
  congrArg Str.mk (List.append_assoc _ _ _)

@[simp] theorem empty_append (s : Str) : ("" : Str) ++ s = s := rfl

@[simp] theorem append_empty (s : Str) : s ++ ("" : Str) = s :=
  congrArg Str.mk (List.append_nil _)

theorem charsOf?_map_char (cs : List Char) : charsOf? (cs.map .char) = some cs := by
  induction cs with
  | nil => rfl
  | cons c cs ih => rw [List.map_cons, charsOf?, ih, Option.map_some]

theorem charsOf?_eq_some_iff {gs : List Glyph} {cs : List Char} :
    charsOf? gs = some cs ↔ gs = cs.map .char := by
  constructor
  · intro h
    induction gs generalizing cs with
    | nil =>
      obtain rfl : [] = cs := Option.some.inj h
      rfl
    | cons g gs ih =>
      cases g with
      | half n => exact absurd h nofun
      | char c =>
        rw [charsOf?, Option.map_eq_some_iff] at h
        obtain ⟨ds, hds, rfl⟩ := h
        rw [ih hds, List.map_cons]
  · rintro rfl
    exact charsOf?_map_char cs

@[simp] theorem glyphs_append (s t : Str) : (s ++ t).glyphs = s.glyphs ++ t.glyphs := rfl

@[simp] theorem glyphs_ofString (t : String) : (t : Str).glyphs = t.toList.map .char := rfl

@[simp] theorem text?_ofString (t : String) : (t : Str).text? = some t := by
  rw [text?, chars?, glyphs_ofString, charsOf?_map_char, Option.map_some, String.ofList_toList]

theorem text?_eq_some_iff {s : Str} {t : String} : s.text? = some t ↔ s = t := by
  constructor
  · intro h
    obtain ⟨cs, hcs, rfl⟩ := Option.map_eq_some_iff.mp h
    have hglyphs : s.glyphs = cs.map .char := charsOf?_eq_some_iff.mp hcs
    rw [ofString, String.toList_ofList, ofChars, ← hglyphs]
  · rintro rfl
    exact text?_ofString t

theorem ofString_inj {t t' : String} : (t : Str) = t' ↔ t = t' := by
  constructor
  · intro h
    have htext := text?_ofString t
    rw [h, text?_ofString] at htext
    exact (Option.some.inj htext).symm
  · rintro rfl
    rfl

theorem ofString_injective : Function.Injective ofString := fun _ _ h => ofString_inj.mp h

theorem isWhole_eq (s : Str) : s.isWhole = s.text?.isSome := by
  rw [text?, Option.isSome_map, isWhole]

@[simp] theorem isWhole_ofString (t : String) : (t : Str).isWhole = true := by
  rw [isWhole_eq, text?_ofString]
  rfl

/-- A string that can be encoded is a text. -/
theorem isWhole_iff {s : Str} : s.isWhole = true ↔ ∃ t : String, s = t := by
  rw [isWhole_eq, Option.isSome_iff_exists]
  exact exists_congr fun t => text?_eq_some_iff

theorem text?_eq_none_iff {s : Str} : s.text? = none ↔ s.isWhole = false := by
  rw [isWhole_eq, Option.isSome_eq_false_iff, Option.isNone_iff_eq_none]

theorem isWhole_eq_false_iff {s : Str} : s.isWhole = false ↔ ∃ n, Glyph.half n ∈ s.glyphs := by
  obtain ⟨gs⟩ := s
  rw [isWhole, chars?]
  induction gs with
  | nil => simp [charsOf?]
  | cons g gs ih =>
    cases g with
    | half n => simp [charsOf?]
    | char c => simpa [charsOf?] using ih

theorem isEmpty_iff {s : Str} : s.isEmpty = true ↔ s = ("" : Str) := by
  obtain ⟨gs⟩ := s
  rw [isEmpty, List.isEmpty_iff]
  exact (Str.mk.injEq gs []).symm.to_iff

theorem isEmpty_ofString (t : String) : (t : Str).isEmpty = t.isEmpty := by
  rw [Bool.eq_iff_iff, isEmpty_iff, ofString_inj, String.isEmpty_iff]

theorem ofString_append (t t' : String) : ((t ++ t' : String) : Str) = (t : Str) ++ (t' : Str) := by
  show Str.mk _ = Str.mk _
  rw [String.toList_append, List.map_append]
  rfl

/-! Blanks -/

theorem isBlank_ofString (t : String) : (t : Str).isBlank = Text.isBlankText t := by
  rw [isBlank, glyphs_ofString, List.all_map]
  rfl

theorem strip_ofString (t : String) : (t : Str).strip = (Text.strip t : Str) := by
  have hrev (cs : List Char) : (cs.map Glyph.char).dropWhile Glyph.isBlank =
      (cs.dropWhile Text.isBlank).map .char := List.dropWhile_map
  show Str.mk (Text.trimBy _ (t.toList.map .char)) = Str.mk _
  rw [Text.trimBy, Text.dropEndWhile, hrev, ← List.map_reverse, hrev, ← List.map_reverse, Text.strip,
    String.toList_ofList]
  rfl

/-- No blank is a half of a pair. -/
theorem isWhole_strip (s : Str) : s.strip.isWhole = s.isWhole := by
  have hhalf : s.strip.isWhole = false ↔ s.isWhole = false := by
    rw [isWhole_eq_false_iff, isWhole_eq_false_iff]
    refine exists_congr fun n => ⟨Text.mem_of_mem_trimBy, ?_⟩
    intro h
    exact Text.mem_trimBy_of_mem h rfl
  exact Bool.eq_iff_iff.mpr (by simpa using not_congr hhalf)

theorem strip_strip (s : Str) : s.strip.strip = s.strip := by
  rw [strip, strip, Text.trimBy_trimBy]

/-- Nothing is left exactly of a string that is blank altogether. -/
theorem strip_eq_empty_iff {s : Str} : s.strip = ("" : Str) ↔ s.isBlank = true := by
  rw [isBlank, List.all_eq_true, ← Text.trimBy_eq_nil_iff]
  exact (Str.mk.injEq _ []).to_iff

theorem isBlank_append (s t : Str) : (s ++ t).isBlank = (s.isBlank && t.isBlank) := List.all_append

theorem isBlank_strip (s : Str) : s.strip.isBlank = s.isBlank := by
  rw [Bool.eq_iff_iff, ← strip_eq_empty_iff, strip_strip, strip_eq_empty_iff]

/-! Joined strings -/

theorem join_singleton (between s : Str) : join between [s] = s := by
  simp [join, List.intercalate]

theorem join_cons_cons (between s t : Str) (ss : List Str) :
    join between (s :: t :: ss) = s ++ between ++ join between (t :: ss) := by
  show Str.mk _ = Str.mk _
  simp [join, List.intercalate]

end Storefront.Str
