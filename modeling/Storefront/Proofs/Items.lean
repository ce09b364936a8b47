import Mathlib.Data.List.Nodup
import Storefront.Credentials
import Storefront.Proofs.Strings

/-! Bags of items in which keys may repeat. A look-up finds the first item of a key, and the table of
a bag has the last one at its place, so the two agree where the first value of a key is the last. -/
namespace Storefront

namespace Pairs

variable {α κ : Type} [DecidableEq κ]

theorem get?_cons (k : κ) (v : α) (ps : Pairs α κ) (key : κ) :
    get? ((k, v) :: ps) key = if k = key then some v else ps.get? key := rfl

theorem get?_of_not_mem {ps : Pairs α κ} {key : κ} (h : key ∉ ps.keys) :
    ps.get? key = none := by
  induction ps with
  | nil => rfl
  | cons p ps ih =>
    obtain ⟨hne, hrest⟩ := not_or.mp fun hor => h (List.mem_cons.mpr hor)
    rw [get?_cons, if_neg (Ne.symm hne), ih hrest]

/-- Keys may be written in another way, as long as they stay apart. -/
theorem get?_map {β κ' : Type} [DecidableEq κ'] {g : κ → κ'} (hg : Function.Injective g)
    (f : α → β) (ps : Pairs α κ) (key : κ) :
    get? (ps.map fun p => (g p.1, f p.2)) (g key) = (ps.get? key).map f := by
  induction ps with
  | nil => rfl
  | cons p ps ih =>
    obtain ⟨k, v⟩ := p
    simp only [List.map_cons, get?_cons, hg.eq_iff, ih]
    split <;> rfl

theorem mem_of_get? {ps : Pairs α κ} {key : κ} {v : α} (h : ps.get? key = some v) :
    (key, v) ∈ ps := by
  induction ps with
  | nil => cases h
  | cons p ps ih =>
    rw [get?_cons] at h
    split at h
    · next hkey =>
      rw [← hkey, ← Option.some.inj h]
      exact List.mem_cons_self ..
    · exact List.mem_cons_of_mem _ (ih h)

/-- Where no key repeats, every pair is found. -/
theorem get?_of_mem {ps : Pairs α κ} (hnodup : ps.keys.Nodup) {key : κ} {v : α}
    (h : (key, v) ∈ ps) : ps.get? key = some v := by
  induction ps with
  | nil => cases h
  | cons p ps ih =>
    obtain ⟨hnot, hrest⟩ := List.nodup_cons.mp hnodup
    rcases List.mem_cons.mp h with rfl | h
    · exact if_pos rfl
    · have hkey : key ∈ keys ps := List.mem_map.mpr ⟨_, h, rfl⟩
      have hne : p.1 ≠ key := by
        rintro rfl
        exact hnot hkey
      rw [get?_cons, if_neg hne]
      exact ih hrest h

theorem get?_append (ps qs : Pairs α κ) (key : κ) :
    get? (ps ++ qs) key = (ps.get? key).or (qs.get? key) := by
  induction ps with
  | nil => rfl
  | cons p ps ih =>
    obtain ⟨k, v⟩ := p
    rw [List.cons_append, get?_cons, get?_cons]
    split
    · rfl
    · exact ih

theorem get?_put (ps : Pairs α κ) (k key : κ) (v : α) :
    (ps.put k v).get? key = if k = key then some v else ps.get? key := by
  induction ps with
  | nil => rfl
  | cons p ps ih =>
    obtain ⟨k', v'⟩ := p
    unfold put
    by_cases hk : k' = k
    · subst hk
      rw [if_pos rfl, get?_cons, get?_cons]
      split <;> rfl
    · rw [if_neg hk, get?_cons, get?_cons, ih]
      by_cases h : k = key
      · subst h
        rw [if_neg hk, if_pos rfl, if_pos rfl]
      · rw [if_neg h, if_neg h]

theorem put_append {ps : Pairs α κ} {key : κ} (h : key ∉ ps.keys) (qs : Pairs α κ)
    (v : α) : put (ps ++ qs) key v = ps ++ qs.put key v := by
  induction ps with
  | nil => rfl
  | cons p ps ih =>
    obtain ⟨k, w⟩ := p
    have hne : k ≠ key := fun he => h (he ▸ List.mem_cons_self)
    rw [List.cons_append, put, if_neg hne, ih fun hm => h (List.mem_cons_of_mem _ hm),
      List.cons_append]

/-- A key that is not there yet comes last. -/
theorem put_of_not_mem {ps : Pairs α κ} {key : κ} (h : key ∉ ps.keys) (v : α) :
    ps.put key v = ps ++ [(key, v)] := by
  have hput := put_append h [] v
  rw [List.append_nil] at hput
  exact hput

theorem putAll_cons (ps : Pairs α κ) (q : κ × α) (qs : Pairs α κ) :
    ps.putAll (q :: qs) = (ps.put q.1 q.2).putAll qs := rfl

/-- Of what is put under a key, the last value counts. -/
theorem get?_putAll (ps qs : Pairs α κ) (key : κ) :
    (ps.putAll qs).get? key = (get? qs.reverse key).or (ps.get? key) := by
  -- the first of what is put goes into the bag, for whatever comes later to replace it
  induction qs generalizing ps with
  | nil => rfl
  | cons q qs ih =>
    obtain ⟨k, v⟩ := q
    rw [putAll_cons, ih, get?_put, List.reverse_cons, get?_append, get?_cons]
    cases get? qs.reverse key with
    | some w => rfl
    | none =>
      show (if k = key then some v else ps.get? key) =
        (if k = key then some v else none).or (ps.get? key)
      split <;> rfl

theorem get?_ofList (ps : List (κ × α)) (key : κ) :
    (ofList ps).get? key = get? ps.reverse key := by
  rw [ofList, get?_putAll]
  exact Option.or_none

/-- The values under a key, in order. -/
def valuesOf (ps : Pairs α κ) (key : κ) : List α := (ps.filter (·.1 == key)).map (·.2)

theorem get?_eq_head? (ps : Pairs α κ) (key : κ) : ps.get? key = (ps.valuesOf key).head? := by
  induction ps with
  | nil => rfl
  | cons p ps ih =>
    obtain ⟨k, v⟩ := p
    by_cases hk : k = key
    · simp [get?_cons, valuesOf, hk]
    · simpa [get?_cons, valuesOf, hk] using ih

theorem valuesOf_reverse (ps : Pairs α κ) (key : κ) :
    valuesOf ps.reverse key = (ps.valuesOf key).reverse := by
  simp [valuesOf, List.filter_reverse]

theorem get?_ofList_eq_getLast? (ps : List (κ × α)) (key : κ) :
    (ofList ps).get? key = (valuesOf ps key).getLast? := by
  rw [get?_ofList, get?_eq_head?, valuesOf_reverse, List.head?_reverse]

theorem mem_keys_put {ps : Pairs α κ} {k key : κ} {v : α} :
    key ∈ (ps.put k v).keys ↔ key = k ∨ key ∈ ps.keys := by
  induction ps with
  | nil => simp [put, keys]
  | cons p ps ih =>
    obtain ⟨k', v'⟩ := p
    unfold put
    by_cases hk : k' = k
    · simp [hk, keys]
    · simp only [keys, if_neg hk, List.map_cons, List.mem_cons] at ih ⊢
      rw [ih]
      exact or_left_comm

theorem nodup_put {ps : Pairs α κ} (h : ps.keys.Nodup) (k : κ) (v : α) :
    (ps.put k v).keys.Nodup := by
  induction ps with
  | nil => simp [put, keys]
  | cons p ps ih =>
    obtain ⟨k', v'⟩ := p
    obtain ⟨hnot, hrest⟩ := List.nodup_cons.mp h
    unfold put
    by_cases hk : k' = k
    · rw [if_pos hk]
      exact h
    · rw [if_neg hk]
      refine List.nodup_cons.mpr ⟨?_, ih hrest⟩
      intro hm
      rcases mem_keys_put.mp hm with he | hm
      · exact hk he
      · exact hnot hm

theorem nodup_putAll {ps : Pairs α κ} (h : ps.keys.Nodup) (qs : Pairs α κ) :
    (ps.putAll qs).keys.Nodup := by
  induction qs generalizing ps with
  | nil => exact h
  | cons q qs ih => exact ih (nodup_put h q.1 q.2)

/-- Where no key repeats there is one value at most. -/
theorem length_valuesOf_le {ps : Pairs α κ} (h : ps.keys.Nodup) (key : κ) :
    (ps.valuesOf key).length ≤ 1 := by
  have hvalues : (ps.valuesOf key).length = ps.keys.count key := by
    unfold valuesOf keys
    rw [List.length_map, ← List.countP_eq_length_filter, List.count, List.countP_map]
    rfl
  rw [hvalues]
  exact List.nodup_iff_count_le_one.mp h key

end Pairs

namespace Credentials

/-- The value of a key in the document of a bag. -/
def sent? (c : Credentials) (key : String) : Option Json.Value :=
  (c.document.member? "customer").bind (·.member? key)

/-- A look-up finds what the document has. -/
def Agrees (c : Credentials) (key : String) : Prop := c.sent? key = (c.get? key).map .str

theorem sent?_eq (c : Credentials) (key : String) : c.sent? key = (c.table.get? key).map .str :=
  Pairs.get?_map Str.ofString_injective Json.Value.str c.table key

theorem sent?_eq_getLast? (c : Credentials) (key : String) :
    c.sent? key = (Pairs.valuesOf c.pairs key).getLast?.map .str := by
  rw [sent?_eq, table, Pairs.get?_ofList_eq_getLast?]

theorem get?_eq_head? (c : Credentials) (key : String) :
    c.get? key = (Pairs.valuesOf c.pairs key).head? := Pairs.get?_eq_head? c.pairs key

theorem contains_iff (c : Credentials) (key : String) :
    c.contains key = true ↔ Pairs.valuesOf c.pairs key ≠ [] := by
  simp [contains, pairs, Pairs.valuesOf, List.filter_eq_nil_iff]

/-- A key is in a bag exactly when the document has it. -/
theorem contains_iff_sent? (c : Credentials) (key : String) :
    c.contains key = true ↔ (c.sent? key).isSome = true := by
  rw [contains_iff, sent?_eq_getLast?, Option.isSome_map]
  exact List.getLast?_isSome.symm

theorem agrees_iff (c : Credentials) (key : String) :
    c.Agrees key ↔ (Pairs.valuesOf c.pairs key).head? = (Pairs.valuesOf c.pairs key).getLast? := by
  have hinj : Function.Injective Json.Value.str := fun _ _ h => Json.Value.str.inj h
  rw [Agrees, sent?_eq_getLast?, get?_eq_head?, (Option.map_injective hinj).eq_iff]
  exact eq_comm

theorem agrees_of_nodup {c : Credentials} (h : (Pairs.keys c.pairs).Nodup) (key : String) :
    c.Agrees key := by
  rw [agrees_iff]
  have hle := Pairs.length_valuesOf_le h key
  match hv : Pairs.valuesOf c.pairs key with
  | [] => rfl
  | [v] => rfl
  | v :: w :: vs => simp [hv] at hle

theorem pairs_ofPairs (ps : Pairs Str) : (ofPairs ps).pairs = ps := by
  simp [ofPairs, pairs, List.map_map, Function.comp_def]

/-- After items were added no key repeats, so look-ups find what the document has. -/
theorem adding_agrees (c : Credentials) (items : List CredentialItem) (key : String) :
    (c.adding items).Agrees key := by
  apply agrees_of_nodup
  unfold adding
  rw [pairs_ofPairs]
  have hempty : (Pairs.keys ([] : Pairs Str)).Nodup := List.nodup_nil
  have htable : c.table.keys.Nodup := Pairs.nodup_putAll hempty c.pairs
  exact Pairs.nodup_putAll htable _

end Credentials

end Storefront
