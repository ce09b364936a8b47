import Storefront.Proofs.Finite
import Storefront.Proofs.Records

/-! Records that are shown and read again. A field reloads a datum if it makes of its shown form one
that is shown alike, and a shape all of whose fields do so reads its own documents, which then stay as
they are. -/
namespace Storefront

namespace Pairs

variable {α β κ κ' : Type} {e : κ → κ'} {g : α → Option β} {ps : Pairs α κ}

theorem keys_filterMap_subset {key : κ'}
    (h : key ∈ keys (ps.filterMap fun p => (g p.2).map (e p.1, ·))) : ∃ k ∈ ps.keys, e k = key := by
  obtain ⟨q, hq, rfl⟩ := List.mem_map.mp h
  obtain ⟨p, hp, hpq⟩ := List.mem_filterMap.mp hq
  obtain ⟨b, -, rfl⟩ := Option.map_eq_some_iff.mp hpq
  exact ⟨p.1, List.mem_map.mpr ⟨p, hp, rfl⟩, rfl⟩

/-- Where no key repeats, a look-up finds what its pair became. -/
theorem get?_filterMap [DecidableEq κ'] (he : Function.Injective e) (hnodup : ps.keys.Nodup)
    {p : κ × α} (h : p ∈ ps) :
    get? (ps.filterMap fun p => (g p.2).map (e p.1, ·)) (e p.1) = g p.2 := by
  induction ps with
  | nil => cases h
  | cons q ps ih =>
    obtain ⟨hnot, hrest⟩ := List.nodup_cons.mp hnodup
    rw [List.filterMap_cons]
    rcases List.mem_cons.mp h with rfl | h
    · have hnone : get? (ps.filterMap fun p => (g p.2).map (e p.1, ·)) (e p.1) = none := by
        apply get?_of_not_mem
        intro hm
        obtain ⟨k, hk, hkey⟩ := keys_filterMap_subset hm
        obtain rfl : k = p.1 := he hkey
        exact hnot hk
      cases hg : g p.2 with
      | none => exact hnone
      | some b => exact if_pos rfl
    · have hne : e q.1 ≠ e p.1 := fun hq => hnot (List.mem_map.mpr ⟨p, h, (he hq).symm⟩)
      cases hg : g q.2 with
      | none => exact ih hrest h
      | some b =>
        show (if e q.1 = e p.1 then _ else _) = _
        rw [if_neg hne]
        exact ih hrest h

end Pairs

namespace Schema

open Json

variable {δ : Type} [Shown δ]

/-- Holds of two data that are shown by the same value, at the same depth and with the same keys. -/
structure ShownAlike (d d' : δ) : Prop where
  shown : Shown.shown? d' = Shown.shown? d
  depth : ∀ inner, Shown.depth inner d' = Shown.depth inner d
  tornKey : Shown.tornKey? d' = Shown.tornKey? d

theorem ShownAlike.refl (d : δ) : ShownAlike d d := ⟨rfl, fun _ => rfl, rfl⟩

/-- Holds of a datum whose shown form a field reads as one that is shown alike. -/
def Field.Reloads (f : Field δ) (d : δ) : Prop :=
  ∃ d', f.Takes (Shown.shown? d) d' ∧ ShownAlike d d'

/-- Holds of a field that reloads whatever it takes, and takes nothing deeper than it came, nor with keys
that it did not have. -/
structure Field.IsFaithful (f : Field δ) : Prop where
  reloads : ∀ {member d}, (∀ v, member = some v → v.IsFinite) → f.Takes member d → f.Reloads d
  depth_le : ∀ {member d}, f.Takes member d →
    ∀ inner, Shown.depth inner d ≤ inner + (member.map Value.depth).getD 1
  tornKey : ∀ {member d}, (∀ v, member = some v → v.tornKey? = none) → f.Takes member d →
    Shown.tornKey? d = none

/-- Holds of a shape with faithful fields, no two of one name. -/
structure Shape.IsFaithful (s : Shape δ) : Prop where
  names : (s.fields.map (·.name)).Nodup
  fields : ∀ f ∈ s.fields, f.IsFaithful

section Rest

variable {δ : Type} {s : Shape δ} {members : Pairs Value Str}

/-- Members without those that are `null`. -/
def present (members : Pairs Value Str) : Pairs Value Str := members.filter (·.2.present?.isSome)

theorem present_present (members : Pairs Value Str) : present (present members) = present members := by
  simp [present]

theorem Shape.rest_subset {p : Str × Value} (h : p ∈ s.rest members) :
    p ∈ members ∧ s.declares p.1 = false := by
  unfold Shape.rest at h
  split at h
  · simpa using List.mem_filter.mp h
  · cases h

theorem present?_eq (v : Value) : v.present? = if v.present?.isSome then some v else none := by
  cases v <;> rfl

/-- Members that no field has are shown as they came, unless they are `null`. -/
theorem shown_eq_present {members : Pairs Value Str} (h : ∀ p ∈ members, p.2.IsFinite) :
    members.filterMap (fun p => p.2.present?.map (p.1, ·.withoutInfinities)) = present members := by
  induction members with
  | nil => rfl
  | cons p ps ih =>
    have hrest := ih fun q hq => h q (List.mem_cons_of_mem _ hq)
    have hp := (h p (List.mem_cons_self ..)).withoutInfinities_eq
    unfold present at hrest ⊢
    rw [List.filterMap_cons, List.filter_cons, hrest, present?_eq]
    cases p.2.present?.isSome with
    | false => rfl
    | true => simp [hp]

theorem depths_present (members : Pairs Value Str) :
    (present members).filterMap (·.2.present?.map Value.depth) =
      members.filterMap (·.2.present?.map Value.depth) := by
  unfold present
  rw [List.filterMap_filter]
  apply List.filterMap_congr
  intro p _
  cases p.2.present? <;> simp

theorem tornKeys_present (members : Pairs Value Str) :
    (present members).findSome? (·.2.tornKey?) = members.findSome? (·.2.tornKey?) := by
  induction members with
  | nil => rfl
  | cons p ps ih =>
    unfold present at ih ⊢
    rw [List.filter_cons]
    cases hp : p.2.present? with
    | none =>
      have hnull : p.2.tornKey? = none := by
        revert hp
        cases p.2 <;> simp [Value.present?, Value.tornKey?]
      simp [hnull, ih]
    | some v => simp [List.findSome?_cons, ih]

theorem Shape.declares_iff {key : Str} :
    s.declares key = true ↔
      ∃ name : String, name ∈ s.fields.map (·.name) ∧ (name : Str) = key := by
  simp [Shape.declares]

end Rest

variable {s : Shape δ} {v : Value} {r : Record δ}

/-- The members that the document of a record begins with. -/
def Record.front (r : Record δ) : Pairs Value Str :=
  r.declared.filterMap fun p => (Shown.shown? p.2).map ((p.1 : Str), ·)

/-- The document of a record that was read: what the fields show, then the members that no field has. -/
theorem Shape.dumpMembers_eq {members : Pairs Value Str} (hv : (Value.obj members).IsFinite)
    (hunknown : r.unknown = s.rest members) :
    r.dumpMembers = r.front ++ present (s.rest members) := by
  unfold Record.dumpMembers
  rw [hunknown, shown_eq_present fun p hp => hv.member (Shape.rest_subset hp).1]
  rfl

theorem Shape.Takes.declares_front {members : Pairs Value Str} (h : s.Takes members r.declared)
    {p : Str × Value} (hp : p ∈ r.front) : s.declares p.1 = true := by
  obtain ⟨name, hname, hkey⟩ := Pairs.keys_filterMap_subset (List.mem_map.mpr ⟨p, hp, rfl⟩)
  rw [h.keys] at hname
  exact Shape.declares_iff.mpr ⟨name, hname, hkey⟩

/-- The document of a record that was read has no keys but those of the fields and of the value. -/
theorem Shape.admits_dumpMembers {members : Pairs Value Str} (hv : (Value.obj members).IsFinite)
    (hadmits : s.Admits members) (hunknown : r.unknown = s.rest members) : s.Admits r.dumpMembers := by
  intro hk key hkey
  rw [Shape.dumpMembers_eq hv hunknown, Pairs.keys, List.map_append, List.mem_append] at hkey
  rcases hkey with hkey | hkey
  · obtain ⟨name, -, rfl⟩ := Pairs.keys_filterMap_subset hkey
    exact Str.isWhole_ofString name
  · obtain ⟨p, hp, rfl⟩ := List.mem_map.mp hkey
    have hmem := (Shape.rest_subset (List.mem_filter.mp hp).1).1
    exact hadmits hk p.1 (List.mem_map.mpr ⟨p, hmem, rfl⟩)

/-- A look-up in the document of a record finds what the datum of the field shows. -/
theorem Shape.IsFaithful.get?_dumpMembers (hs : s.IsFaithful) {members : Pairs Value Str}
    (hv : (Value.obj members).IsFinite) (htakes : s.Takes members r.declared)
    (hunknown : r.unknown = s.rest members) {p : String × δ} (hp : p ∈ r.declared) :
    Pairs.get? r.dumpMembers (p.1 : Str) = Shown.shown? p.2 := by
  have hnodup : (Pairs.keys r.declared).Nodup := htakes.keys ▸ hs.names
  have hnone : Pairs.get? (present (s.rest members)) (p.1 : Str) = none := by
    apply Pairs.get?_of_not_mem
    intro hmem
    obtain ⟨q, hq, hqp⟩ := List.mem_map.mp hmem
    have hundeclared := (Shape.rest_subset (List.mem_filter.mp hq).1).2
    have hdeclared : p.1 ∈ s.fields.map (·.name) := htakes.keys ▸ List.mem_map.mpr ⟨p, hp, rfl⟩
    rw [hqp, Shape.declares_iff.mpr ⟨p.1, hdeclared, rfl⟩] at hundeclared
    cases hundeclared
  rw [Shape.dumpMembers_eq hv hunknown, Pairs.get?_append, hnone, Option.or_none]
  exact Pairs.get?_filterMap Str.ofString_injective hnodup hp

/-- The members that no field has are found again in the document. -/
theorem Shape.Takes.rest_dumpMembers {members : Pairs Value Str} (hv : (Value.obj members).IsFinite)
    (htakes : s.Takes members r.declared) (hunknown : r.unknown = s.rest members) :
    s.rest r.dumpMembers = present (s.rest members) := by
  rw [Shape.dumpMembers_eq hv hunknown]
  unfold Shape.rest
  cases s.keepsUnknown with
  | false => rfl
  | true =>
    have hfront : r.front.filter (fun p => !s.declares p.1) = [] := by
      apply List.filter_eq_nil_iff.mpr
      intro p hp
      simp [htakes.declares_front hp]
    simp only [if_true, List.filter_append, hfront, List.nil_append]
    unfold present
    simp only [List.filter_filter]
    apply List.filter_congr
    intro p _
    cases s.declares p.1 <;> simp

theorem ShownAlike.front {declared declared' : Pairs δ}
    (h : List.Forall₂ (fun p p' => p'.1 = p.1 ∧ ShownAlike p.2 p'.2) declared declared') :
    declared'.filterMap (fun p => (Shown.shown? p.2).map ((p.1 : Str), ·)) =
      declared.filterMap (fun p => (Shown.shown? p.2).map ((p.1 : Str), ·)) ∧
    (∀ inner, declared'.map (Shown.depth inner ·.2) = declared.map (Shown.depth inner ·.2)) ∧
    declared'.findSome? (Shown.tornKey? ·.2) = declared.findSome? (Shown.tornKey? ·.2) := by
  induction h with
  | nil => exact ⟨rfl, fun _ => rfl, rfl⟩
  | cons hp _ ih =>
    obtain ⟨hname, halike⟩ := hp
    refine ⟨?_, ?_, ?_⟩
    · rw [List.filterMap_cons, List.filterMap_cons, ih.1, halike.shown, hname]
    · intro inner
      rw [List.map_cons, List.map_cons, ih.2.1, halike.depth]
    · rw [List.findSome?_cons, List.findSome?_cons, ih.2.2, halike.tornKey]

/-- What a faithful shape reads, it reads again from its document, and the document stays as it is. -/
theorem Shape.IsFaithful.reloads (hs : s.IsFaithful) (hv : v.IsFinite) (h : s.readIssues v = .ok r) :
    ∃ r', s.readIssues r.dump = .ok r' ∧ r'.dump = r.dump ∧
      (∀ inner, r'.depth inner = r.depth inner) ∧ r'.tornKey? = r.tornKey? := by
  obtain ⟨members, rfl, hadmits, htakes, hunknown⟩ := Shape.readIssues_eq_ok_iff.mp h
  have hrest := htakes.rest_dumpMembers hv hunknown
  -- each field reads its own part of the document again
  obtain ⟨declared', htakes', halike⟩ : ∃ declared', s.Takes r.dumpMembers declared' ∧
      List.Forall₂ (fun p p' => p'.1 = p.1 ∧ ShownAlike p.2 p'.2) r.declared declared' := by
    apply exists_forall₂_of_forall₂ htakes
    intro f hf p hp hfp
    obtain ⟨hname, hread⟩ := hfp
    have hfinite : ∀ w, Pairs.get? members f.name = some w → w.IsFinite := fun w hw =>
      hv.member (Pairs.mem_of_get? hw)
    obtain ⟨d', hd', halike⟩ := (hs.fields f hf).reloads hfinite hread
    have hget := hs.get?_dumpMembers hv htakes hunknown hp
    rw [← hget, hname] at hd'
    exact ⟨(f.name, d'), ⟨rfl, hd'⟩, hname.symm, halike⟩
  obtain ⟨hfront, hdepths, htorn⟩ := ShownAlike.front halike
  refine ⟨⟨declared', present (s.rest members)⟩, ?_, ?_, ?_, ?_⟩
  · have hadmits' := Shape.admits_dumpMembers hv hadmits hunknown
    exact Shape.readIssues_eq_ok_iff.mpr ⟨r.dumpMembers, rfl, hadmits', htakes', hrest.symm⟩
  · have hfinite : ∀ p ∈ present (s.rest members), p.2.IsFinite := fun p hp =>
      hv.member (Shape.rest_subset (List.mem_filter.mp hp).1).1
    have hdump := Shape.dumpMembers_eq hv hunknown
    rw [Record.dump, Record.dump, hdump, Record.dumpMembers, hfront, shown_eq_present hfinite,
      present_present]
    rfl
  · intro inner
    unfold Record.depth
    dsimp only
    rw [hdepths, depths_present, hunknown]
  · unfold Record.tornKey?
    dsimp only
    rw [htorn, tornKeys_present, hunknown]

theorem foldl_max_le_iff {ns : List Nat} {start bound : Nat} :
    ns.foldl max start ≤ bound ↔ start ≤ bound ∧ ∀ n ∈ ns, n ≤ bound := by
  induction ns generalizing start with
  | nil => simp
  | cons n ns ih => rw [List.foldl_cons, ih, Nat.max_le, List.forall_mem_cons, and_assoc]

/-- A record is no deeper than the value it was read from, beside the levels of a record inside. -/
theorem Shape.IsFaithful.depth_le (hs : s.IsFaithful) (h : s.readIssues v = .ok r) (inner : Nat) :
    r.depth inner ≤ inner + v.depth := by
  obtain ⟨members, rfl, -, htakes, hunknown⟩ := Shape.readIssues_eq_ok_iff.mp h
  have hdepth : (Value.obj members).depth = Value.memberDepth members + 1 := rfl
  unfold Record.depth
  rw [foldl_max_le_iff]
  refine ⟨Nat.zero_le _, ?_⟩
  intro n hn
  rcases List.mem_append.mp hn with hn | hn
  · obtain ⟨p, hp, rfl⟩ := List.mem_map.mp hn
    obtain ⟨f, hf, hread⟩ := htakes.exists_field hp
    have hle := (hs.fields f hf).depth_le hread inner
    cases hm : Pairs.get? members f.name with
    | none =>
      simp only [hm, Option.map_none, Option.getD_none] at hle
      omega
    | some w =>
      have hw : w.depth ≤ _ := Value.depth_le_memberDepth (Pairs.mem_of_get? hm)
      simp only [hm, Option.map_some, Option.getD_some] at hle
      omega
  · obtain ⟨p, hp, hpn⟩ := List.mem_filterMap.mp hn
    rw [hunknown] at hp
    have hle := Value.depth_le_memberDepth (Shape.rest_subset hp).1
    rw [present?_eq] at hpn
    cases hpresent : p.2.present?.isSome with
    | false => simp [hpresent] at hpn
    | true =>
      simp only [hpresent, if_true, Option.map_some, Option.some.injEq] at hpn
      omega

/-- A record has no keys but those of the value it was read from. -/
theorem Shape.IsFaithful.tornKey? (hs : s.IsFaithful) (hv : v.tornKey? = none)
    (h : s.readIssues v = .ok r) : r.tornKey? = none := by
  obtain ⟨members, rfl, -, htakes, hunknown⟩ := Shape.readIssues_eq_ok_iff.mp h
  have hmember : ∀ p ∈ members, p.2.tornKey? = none := fun p hp =>
    (Value.memberTornKey?_eq_none_iff.mp hv p hp).2
  rw [Record.tornKey?, Option.or_eq_none_iff, List.findSome?_eq_none_iff, List.findSome?_eq_none_iff]
  constructor
  · intro p hp
    obtain ⟨f, hf, hread⟩ := htakes.exists_field hp
    exact (hs.fields f hf).tornKey (fun w hw => hmember _ (Pairs.mem_of_get? hw)) hread
  · rw [hunknown]
    exact fun p hp => hmember p (Shape.rest_subset hp).1

/-- Holds of a value and the one it is shown as if the members that no field has are shown as they came,
unless they are `null`, after those of the fields. -/
def Shape.Keeps {δ : Type} (s : Shape δ) (given shown : Value) : Prop :=
  ∃ members front : Pairs Value Str, given = .obj members ∧
    shown = .obj (front ++ members.filter fun p => !s.declares p.1 && p.2.present?.isSome) ∧
    ∀ p ∈ front, s.declares p.1 = true

theorem Shape.keeps_dump (hk : s.keepsUnknown = true) (hv : v.IsFinite)
    (h : s.readIssues v = .ok r) : s.Keeps v r.dump := by
  obtain ⟨members, rfl, -, htakes, hunknown⟩ := Shape.readIssues_eq_ok_iff.mp h
  refine ⟨members, r.front, rfl, ?_, fun p hp => htakes.declares_front hp⟩
  rw [Record.dump, Shape.dumpMembers_eq hv hunknown, Shape.rest, if_pos hk, present,
    List.filter_filter]
  simp only [Bool.and_comm]

/-- What a field made of a member is shown in the place of that member. -/
theorem Shape.IsFaithful.exists_shown (hs : s.IsFaithful) (hv : v.IsFinite)
    (h : s.readIssues v = .ok r) {f : Field δ} (hf : f ∈ s.fields) :
    ∃ d, f.Takes (v.member? f.name) d ∧ r.dump.member? f.name = Shown.shown? d := by
  obtain ⟨members, rfl, -, htakes, hunknown⟩ := Shape.readIssues_eq_ok_iff.mp h
  obtain ⟨d, hd, hread⟩ := htakes.exists_datum hf
  exact ⟨d, hread, hs.get?_dumpMembers hv htakes hunknown hd⟩

theorem Shape.dump_eq_ok {d : Value} (h : r.depth s.innerLevels ≤ levelLimit) (ht : r.tornKey? = none)
    (hd : r.dump = d) : s.dump r = .ok d := by
  rw [Shape.dump, if_neg (Nat.not_lt.mpr h), ht, hd]

/-- A record that was read from a value within the limit, with keys that can be encoded, has a document,
which is read again and is the document of what was read. -/
theorem Shape.IsFaithful.dump_reloads (hs : s.IsFaithful) (hv : v.IsFinite)
    (hdepth : s.innerLevels + v.depth ≤ levelLimit) (htorn : v.tornKey? = none)
    (h : s.readIssues v = .ok r) :
    s.dump r = .ok r.dump ∧ ∃ r', s.read r.dump = .ok r' ∧ s.dump r' = .ok r.dump := by
  obtain ⟨r', hread, hdump, hsame, htorn'⟩ := hs.reloads hv h
  have hr : r.depth s.innerLevels ≤ levelLimit := Nat.le_trans (hs.depth_le h _) hdepth
  have hr' : r'.depth s.innerLevels ≤ levelLimit := hsame s.innerLevels ▸ hr
  have ht : r.tornKey? = none := hs.tornKey? htorn h
  exact ⟨dump_eq_ok hr ht rfl, r', read_eq_ok_iff.mpr hread, dump_eq_ok hr' (htorn'.trans ht) hdump⟩

end Schema
end Storefront
