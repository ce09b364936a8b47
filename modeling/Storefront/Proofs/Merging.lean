import Mathlib.Data.List.Induction
import Storefront.Proofs.Records

/-! Bags of items that are merged. A key keeps its first place and takes its last value, so that items
can be added one after another or all at once, and adding them again changes nothing. -/
namespace Storefront

namespace Pairs

variable {α κ : Type}

theorem keys_append (ps qs : Pairs α κ) : keys (ps ++ qs) = ps.keys ++ qs.keys := List.map_append

variable [DecidableEq κ]

theorem keys_put (ps : Pairs α κ) (key : κ) (v : α) :
    (ps.put key v).keys = if key ∈ ps.keys then ps.keys else ps.keys ++ [key] := by
  induction ps with
  | nil => rfl
  | cons p ps ih =>
    obtain ⟨k, w⟩ := p
    by_cases hk : k = key
    · simp [put, keys, hk]
    · have hne : key ≠ k := fun he => hk he.symm
      have hcons : keys (put ((k, w) :: ps) key v) = k :: keys (put ps key v) := by
        rw [put, if_neg hk]
        rfl
      have hmem : key ∈ keys ((k, w) :: ps) ↔ key ∈ keys ps := by simp [keys, hne]
      rw [hcons, ih]
      by_cases h : key ∈ keys ps
      · rw [if_pos h, if_pos (hmem.mpr h)]
        rfl
      · rw [if_neg h, if_neg (fun h' => h (hmem.mp h'))]
        rfl

theorem putAll_append (ps qs rs : Pairs α κ) : ps.putAll (qs ++ rs) = (ps.putAll qs).putAll rs :=
  List.foldl_append

theorem ofList_append (ps qs : List (κ × α)) : ofList (ps ++ qs) = (ofList ps).putAll qs :=
  putAll_append [] ps qs

theorem nodup_ofList (ps : List (κ × α)) : (keys (ofList ps)).Nodup := by
  have hempty : (keys ([] : Pairs α κ)).Nodup := List.nodup_nil
  exact nodup_putAll hempty ps

/-- A key keeps the place where it first came. -/
theorem keys_ofList (ps : List (κ × α)) : keys (ofList ps) = (keys ps).eraseDups := by
  induction ps using List.reverseRecOn with
  | nil => rfl
  | append_singleton ps p ih =>
    have hput : ofList (ps ++ [p]) = (ofList ps).put p.1 p.2 := ofList_append ps [p]
    have hlast : keys (ps ++ [p]) = keys ps ++ [p.1] := keys_append ps [p]
    rw [hput, hlast, keys_put, ih, List.eraseDups_append]
    by_cases hp : p.1 ∈ keys ps
    · simp [hp, List.removeAll]
    · simp [hp, List.removeAll, List.eraseDups_cons]

theorem ofList_of_nodup {ps : List (κ × α)} (h : (keys ps).Nodup) : ofList ps = ps := by
  induction ps using List.reverseRecOn with
  | nil => rfl
  | append_singleton ps p ih =>
    have hput : ofList (ps ++ [p]) = (ofList ps).put p.1 p.2 := ofList_append ps [p]
    rw [keys_append] at h
    obtain ⟨hnodup, -, hdisjoint⟩ := List.nodup_append.mp h
    have hnot : p.1 ∉ keys ps := by
      intro hmem
      exact hdisjoint p.1 hmem p.1 (List.mem_singleton.mpr rfl) rfl
    rw [hput, ih hnodup]
    exact put_of_not_mem hnot p.2

/-- Tables with the same keys in the same order and the same look-ups are equal. -/
theorem ext_get? {ps qs : Pairs α κ} (hkeys : ps.keys = qs.keys) (hnodup : ps.keys.Nodup)
    (hget : ∀ key, ps.get? key = qs.get? key) : ps = qs := by
  induction ps generalizing qs with
  | nil => exact (List.map_eq_nil_iff.mp hkeys.symm).symm
  | cons p ps ih =>
    obtain ⟨k, v⟩ := p
    cases qs with
    | nil => cases hkeys
    | cons q qs =>
      obtain ⟨k', v'⟩ := q
      obtain ⟨rfl, hrest⟩ : k = k' ∧ keys ps = keys qs := List.cons.inj hkeys
      obtain ⟨hnot, hnodup'⟩ := List.nodup_cons.mp hnodup
      have hv : v = v' := by simpa [get?_cons] using hget k
      have htail : ps = qs := by
        apply ih hrest hnodup'
        intro key
        by_cases hk : k = key
        · subst hk
          rw [get?_of_not_mem hnot, get?_of_not_mem (hrest ▸ hnot)]
        · simpa [get?_cons, hk] using hget key
      rw [hv, htail]

theorem ofList_append_ofList (ps qs : List (κ × α)) :
    ofList (ofList ps ++ qs) = ofList (ps ++ qs) := by
  rw [ofList_append, ofList_append, ofList_of_nodup (nodup_ofList ps)]

theorem ofList_eq_self_iff {ps : List (κ × α)} : ofList ps = ps ↔ (keys ps).Nodup := by
  constructor
  · intro h
    rw [← h]
    exact nodup_ofList ps
  · exact ofList_of_nodup

theorem valuesOf_append (ps qs : Pairs α κ) (key : κ) :
    valuesOf (ps ++ qs) key = ps.valuesOf key ++ qs.valuesOf key := by
  simp [valuesOf]

/-- Pairs that are put twice count once. -/
theorem ofList_append_twice (ps qs : List (κ × α)) :
    ofList (ps ++ qs ++ qs) = ofList (ps ++ qs) := by
  apply ext_get? _ (nodup_ofList _)
  · intro key
    simp only [get?_ofList_eq_getLast?, valuesOf_append, List.getLast?_append]
    cases (valuesOf qs key).getLast? <;> rfl
  · have hnone : (keys qs).removeAll (keys (ps ++ qs)) = [] := by
      rw [keys_append, List.removeAll, List.filter_eq_nil_iff]
      intro key hkey
      simp [hkey]
    rw [keys_ofList, keys_ofList, keys_append (ps ++ qs), List.eraseDups_append, hnone]
    simp

theorem putAll_map {β κ' : Type} [DecidableEq κ'] {g : κ → κ'} (hg : Function.Injective g)
    (f : α → β) (ps qs : Pairs α κ) :
    (ps.putAll qs).map (fun p => (g p.1, f p.2)) =
      putAll (ps.map fun p => (g p.1, f p.2)) (qs.map fun p => (g p.1, f p.2)) := by
  have hput (ps : Pairs α κ) (key : κ) (v : α) :
      (ps.put key v).map (fun p => (g p.1, f p.2)) =
        put (ps.map fun p => (g p.1, f p.2)) (g key) (f v) := by
    induction ps with
    | nil => rfl
    | cons p ps ih =>
      obtain ⟨k, w⟩ := p
      by_cases hk : k = key
      · simp [put, hk]
      · simp [put, hk, hg.eq_iff, ih]
  induction qs generalizing ps with
  | nil => rfl
  | cons q qs ih => rw [putAll_cons, ih, hput, List.map_cons, putAll_cons]

end Pairs

namespace Credentials

/-- The bag with items after its own, whether or not keys repeat. -/
def followedBy (c : Credentials) (items : List CredentialItem) : Credentials := ⟨c.items ++ items⟩

theorem pairs_followedBy (c : Credentials) (items : List CredentialItem) :
    (c.followedBy items).pairs = c.pairs ++ items.map fun i => (i.key, i.value) := List.map_append

theorem eq_of_pairs {c c' : Credentials} (h : c.pairs = c'.pairs) : c = c' := by
  have hpair : Function.Injective fun i : CredentialItem => (i.key, i.value) := by
    rintro ⟨k, v⟩ ⟨k', v'⟩ he
    obtain ⟨rfl, rfl⟩ := Prod.mk.inj he
    rfl
  obtain ⟨items⟩ := c
  obtain ⟨items'⟩ := c'
  rw [mk.injEq]
  exact List.map_injective_iff.mpr hpair h

/-- Adding items puts them after those of the bag and leaves one item for each key. -/
theorem pairs_adding (c : Credentials) (items : List CredentialItem) :
    (c.adding items).pairs = Pairs.ofList (c.followedBy items).pairs := by
  unfold adding
  rw [pairs_ofPairs, pairs_followedBy]
  exact (Pairs.ofList_append _ _).symm

theorem nodup_adding (c : Credentials) (items : List CredentialItem) :
    (Pairs.keys (c.adding items).pairs).Nodup := by
  rw [pairs_adding]
  exact Pairs.nodup_ofList _

theorem adding_adding (c : Credentials) (xs ys : List CredentialItem) :
    (c.adding xs).adding ys = c.adding (xs ++ ys) := by
  apply eq_of_pairs
  simp only [pairs_adding, pairs_followedBy, Pairs.ofList_append_ofList, List.map_append,
    List.append_assoc]

theorem adding_twice (c : Credentials) (items : List CredentialItem) :
    c.adding (items ++ items) = c.adding items := by
  apply eq_of_pairs
  rw [pairs_adding, pairs_adding, pairs_followedBy, pairs_followedBy, List.map_append,
    ← List.append_assoc]
  exact Pairs.ofList_append_twice _ _

theorem adding_nil_iff (c : Credentials) : c.adding [] = c ↔ (Pairs.keys c.pairs).Nodup := by
  have hpairs : (c.adding []).pairs = Pairs.ofList c.pairs := by
    rw [pairs_adding, pairs_followedBy, List.map_nil, List.append_nil]
  rw [← Pairs.ofList_eq_self_iff, ← hpairs]
  constructor
  · intro h
    rw [h]
  · exact eq_of_pairs

theorem get?_adding (c : Credentials) (items : List CredentialItem) (key : String) :
    (c.adding items).get? key = (Pairs.valuesOf (c.followedBy items).pairs key).getLast? := by
  rw [get?, pairs_adding, Pairs.get?_ofList_eq_getLast?]

/-- The document of a bag with items added is its own, with the items put into it. -/
theorem document_adding (c : Credentials) (items : List CredentialItem) :
    ∃ ms : Pairs Json.Value Str, c.document = .obj [("customer", .obj ms)] ∧
      (c.adding items).document =
        .obj [("customer", .obj (ms.putAll (items.map fun i => ((i.key : Str), .str i.value))))] := by
  have htable : (c.adding items).table = c.table.putAll (items.map fun i => (i.key, i.value)) := by
    rw [table, Pairs.ofList_of_nodup (nodup_adding c items), adding, pairs_ofPairs]
  refine ⟨_, rfl, ?_⟩
  rw [document, htable, Pairs.putAll_map Str.ofString_injective]
  simp [List.map_map, Function.comp_def]

end Credentials

namespace CredentialItem

open Json

theorem key_of_read {key : Str} {v : Value} {item : CredentialItem}
    (h : read (.str key) v = .ok item) : (item.key : Str) = key := by
  obtain ⟨r, hread, rfl⟩ := Except.map_eq_ok_iff.mp h
  obtain ⟨d, hfound, hd⟩ := Schema.Shape.exists_declared hread (by decide) (List.mem_cons_self ..)
  obtain ⟨text, hmember, rfl, htext⟩ := Schema.Field.takes_required_text.mp hd
  obtain rfl : key = text := Value.str.inj (Option.some.inj hmember)
  obtain ⟨t, rfl⟩ := Str.isWhole_iff.mp (htext rfl).1
  have hkey : r.declared.get? "key" = some (.text t) := hfound
  simp [ofRecord, hkey]

theorem keys_of_readAll {ps : Pairs Value Str} {items : List CredentialItem}
    (h : readAll (ps.map fun p => (.str p.1, p.2)) = .ok items) :
    (items.map key).map Str.ofString = ps.keys := by
  induction ps generalizing items with
  | nil =>
    obtain rfl := Except.ok.inj h
    rfl
  | cons p ps ih =>
    rw [List.map_cons, readAll] at h
    cases hread : read (.str p.1) p.2 with
    | error r => simp [hread] at h
    | ok item =>
      cases hrest : readAll (ps.map fun p => (.str p.1, p.2)) with
      | error r => simp [hread, hrest, Except.map] at h
      | ok rest =>
        simp only [hread, hrest, Except.map, Except.ok.injEq] at h
        rw [← h, List.map_cons, List.map_cons, key_of_read hread, ih hrest]
        rfl

/-- Values with names make one item for each name. -/
theorem nodup_of_readNamed {operation taken : String} {ps : List (Value × Value)}
    {items : List CredentialItem} (h : readNamed operation taken ps = .ok items) :
    (items.map key).Nodup := by
  unfold readNamed at h
  dsimp only at h
  split at h
  · cases h
  split at h
  · cases h
  · have hkeys := keys_of_readAll (Except.mapError_eq_ok_iff.mp h)
    apply List.Nodup.of_map Str.ofString
    rw [hkeys]
    exact Pairs.nodup_ofList _

end CredentialItem

/-- Bags that are made of values with names and grow by additions. -/
inductive Credentials.Assembled : Credentials → Prop where
  | named {ps : List (Json.Value × Json.Value)} {c : Credentials} (h : ofNamed ps = .ok c) :
    Assembled c
  | addingNamed {c c' : Credentials} {ps : List (Json.Value × Json.Value)} (hc : Assembled c)
    (h : c.addingNamed ps = .ok c') : Assembled c'
  | adding {c : Credentials} (hc : Assembled c) (items : List CredentialItem) :
    Assembled (c.adding items)

namespace Credentials

theorem keys_pairs (c : Credentials) : Pairs.keys c.pairs = c.items.map CredentialItem.key := by
  simp [pairs, Pairs.keys, List.map_map, Function.comp_def]

theorem Assembled.nodup {c : Credentials} (h : Assembled c) : (Pairs.keys c.pairs).Nodup := by
  cases h with
  | named h =>
    obtain ⟨items, hitems, rfl⟩ := Except.map_eq_ok_iff.mp h
    rw [keys_pairs]
    exact CredentialItem.nodup_of_readNamed hitems
  | addingNamed _ h =>
    obtain ⟨items, -, rfl⟩ := Except.map_eq_ok_iff.mp h
    exact nodup_adding _ items
  | adding _ items => exact nodup_adding _ items

end Credentials

/-- Merging puts items after those of a bag and leaves one for each key, at its first place and with
its last value, which updates the document of the bag. Merging in two goes is merging all at once,
merging again changes nothing, and merging nothing gives the bag back exactly if no key repeats. So no
key repeats in a bag that was assembled from names and by merging, and a look-up finds in it what its
document has. -/
theorem merging_is_last_wins (c : Credentials) (xs ys : List CredentialItem) :
    (Pairs.keys (c.adding xs).pairs).Nodup ∧
    Pairs.keys (c.adding xs).pairs = (Pairs.keys (c.followedBy xs).pairs).eraseDups ∧
    (∀ key, (c.adding xs).get? key = (Pairs.valuesOf (c.followedBy xs).pairs key).getLast?) ∧
    (∃ ms : Pairs Json.Value Str, c.document = .obj [("customer", .obj ms)] ∧
      (c.adding xs).document =
        .obj [("customer", .obj (ms.putAll (xs.map fun i => ((i.key : Str), .str i.value))))]) ∧
    (c.adding xs).adding ys = c.adding (xs ++ ys) ∧
    (c.adding xs).adding xs = c.adding xs ∧
    (c.adding [] = c ↔ (Pairs.keys c.pairs).Nodup) ∧
    ∀ c' : Credentials, c'.Assembled → (Pairs.keys c'.pairs).Nodup ∧
      ∀ key, c'.Agrees key ∧ (c'.contains key = true ↔ (c'.sent? key).isSome = true) := by
  refine ⟨c.nodup_adding xs, ?_, c.get?_adding xs, c.document_adding xs, c.adding_adding xs ys, ?_,
    c.adding_nil_iff, ?_⟩
  · rw [Credentials.pairs_adding, Pairs.keys_ofList]
  · rw [Credentials.adding_adding, Credentials.adding_twice]
  · intro c' hc'
    refine ⟨hc'.nodup, ?_⟩
    intro key
    exact ⟨Credentials.agrees_of_nodup hc'.nodup key, c'.contains_iff_sent? key⟩

/-- The credentials of somebody whose address was given by name and then changed twice. -/
def Credentials.moved : Credentials :=
  (Credentials.mk [⟨"email", "old@example.com"⟩, ⟨"password", "secret"⟩]).adding
    [⟨"email", "mid@example.com"⟩, ⟨"first_name", "Ada"⟩, ⟨"email", "new@example.com"⟩]

/-- A look-up finds the last address, at the first place. -/
theorem merging_is_last_wins_of_moved :
    Credentials.moved.items =
      [⟨"email", "new@example.com"⟩, ⟨"password", "secret"⟩, ⟨"first_name", "Ada"⟩] ∧
    Credentials.moved.Agrees "email" := by
  have hnamed : Credentials.ofNamed [(.str "email", .str "old@example.com"),
      (.str "password", .str "secret")] =
      .ok ⟨[⟨"email", "old@example.com"⟩, ⟨"password", "secret"⟩]⟩ := by rfl
  have hmoved : Credentials.moved.Assembled := .adding (.named hnamed) _
  obtain ⟨-, -, -, -, -, -, -, hassembled⟩ := merging_is_last_wins .moved [] []
  exact ⟨by decide, ((hassembled .moved hmoved).2 "email").1⟩

end Storefront
