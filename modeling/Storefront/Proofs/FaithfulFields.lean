import Storefront.Proofs.Moments
import Storefront.Proofs.Reloading

/-! Fields that reload what they take: scalars of every kind, whether required, optional or with a datum
for their absence, and records and lists of records of a faithful shape. -/
namespace Storefront.Schema

open Json

theorem readInstant_eq_ok_iff {v : Value} {t : Time.Instant} :
    readInstant v = .ok t ↔ readMoment v = .ok t ∧ t.date.year ≠ 0 := by
  unfold readInstant
  cases hv : readMoment v with
  | error problem => simp [bind, Except.bind]
  | ok t' =>
    simp only [bind, Except.bind, pure, Except.pure]
    constructor
    · intro h
      split at h
      · cases h
      · next hyear =>
        obtain rfl := Except.ok.inj h
        exact ⟨rfl, hyear⟩
    · rintro ⟨h, hyear⟩
      obtain rfl := Except.ok.inj h
      rw [if_neg hyear]

/-- Holds of a datum that is shown, and read from its shown form as it is. -/
def ScalarKind.Holds (k : ScalarKind) (d : Datum) : Prop :=
  ∃ w, w ≠ .null ∧ d.shown? = some w ∧ k.read w = .ok d ∧ d.depth = 1 ∧ d.tornKey? = none

theorem ScalarKind.holds_of_read {k : ScalarKind} {v : Value} {d : Datum} (h : k.read v = .ok d) :
    k.Holds d := by
  cases k with
  | text mayBeEmpty =>
    obtain ⟨s, hs, rfl⟩ := Except.map_eq_ok_iff.mp h
    obtain ⟨rfl, -⟩ := readText_eq_ok_iff.mp hs
    exact ⟨.str s, by simp, rfl, h, rfl, rfl⟩
  | whole =>
    obtain ⟨n, -, rfl⟩ := Except.map_eq_ok_iff.mp h
    exact ⟨.int n, by simp, rfl, rfl, rfl, rfl⟩
  | flag =>
    obtain ⟨b, -, rfl⟩ := Except.map_eq_ok_iff.mp h
    exact ⟨.bool b, by simp, rfl, rfl, rfl, rfl⟩
  | instant =>
    obtain ⟨t, ht, rfl⟩ := Except.map_eq_ok_iff.mp h
    refine ⟨.str t.write, by simp, rfl, ?_, rfl, rfl⟩
    have hmoment : readMoment (.str t.write) = .ok t := by
      rw [readMoment, readEncoded, Str.text?_ofString]
      dsimp only
      rw [Time.Instant.read_write]
      rfl
    have hread := readInstant_eq_ok_iff.mpr ⟨hmoment, (readInstant_eq_ok_iff.mp ht).2⟩
    rw [ScalarKind.read, hread]
    rfl

section Fields

variable {f : Field Datum} {k : ScalarKind}

/-- A field is faithful that reads values by their kind, and whose data are of that kind or absent. -/
theorem Field.isFaithful_of_kind (hread : ∀ v, v ≠ .null → f.read v = k.readIssues v)
    (htakes : ∀ {member d}, f.Takes member d → k.Holds d ∨ d = .null ∧ f.absent = some .null) :
    f.IsFaithful where
  reloads _ h := by
    rcases htakes h with ⟨w, hw, hshown, hd, -, -⟩ | ⟨rfl, habsent⟩
    · refine ⟨_, ?_, .refl _⟩
      show f.Takes (Datum.shown? _) _
      rw [hshown]
      exact (hread w hw).trans (ScalarKind.readIssues_eq_ok_iff.mpr hd)
    · exact ⟨.null, habsent, .refl _⟩
  depth_le {member d} h inner := by
    have hone : d.depth = 1 := by
      rcases htakes h with ⟨_, -, -, -, hdepth, -⟩ | ⟨rfl, -⟩
      · exact hdepth
      · rfl
    show d.depth ≤ _
    cases member with
    | none => simp [hone]
    | some v =>
      have hv := v.depth_pos
      simp only [hone, Option.map_some, Option.getD_some]
      omega
  tornKey _ h := by
    rcases htakes h with ⟨_, -, -, -, -, htorn⟩ | ⟨rfl, -⟩
    · exact htorn
    · rfl

theorem ScalarKind.Holds.tornKey? {d : Datum} (h : k.Holds d) : d.tornKey? = none := by
  obtain ⟨_, -, -, -, -, htorn⟩ := h
  exact htorn

theorem Field.holds_of_required {name : String} {member : Option Value} {d : Datum}
    (h : (Field.required name k).Takes member d) : k.Holds d := by
  obtain ⟨v, -, hv⟩ := takes_required.mp h
  exact ScalarKind.holds_of_read hv

@[simp]
theorem Field.isFaithful_required (name : String) (k : ScalarKind) :
    (Field.required name k).IsFaithful :=
  isFaithful_of_kind (fun _ _ => rfl) fun h => .inl (holds_of_required h)

theorem orNull_of_ne {δ : Type} {absent : δ} {read : Value → Except (List Issue) δ} {v : Value}
    (h : v ≠ .null) : orNull absent read v = read v := by
  cases v with
  | null => exact absurd rfl h
  | _ => rfl

theorem Field.holds_of_optional {name : String} {member : Option Value} {d : Datum}
    (h : (Field.optional name k).Takes member d) : k.Holds d ∨ d = .null := by
  cases member with
  | none => exact .inr (Option.some.inj h).symm
  | some v =>
    by_cases hv : v = .null
    · subst hv
      exact .inr (Except.ok.inj h).symm
    · have hk : orNull .null k.readIssues v = .ok d := h
      rw [orNull_of_ne hv] at hk
      exact .inl (ScalarKind.holds_of_read (ScalarKind.readIssues_eq_ok_iff.mp hk))

@[simp]
theorem Field.isFaithful_optional (name : String) (k : ScalarKind) :
    (Field.optional name k).IsFaithful :=
  isFaithful_of_kind (fun _ hv => orNull_of_ne hv) fun h =>
    (holds_of_optional h).imp_right fun hd => ⟨hd, rfl⟩

@[simp]
theorem Field.isFaithful_defaulting (name : String) {k : ScalarKind} {d : Datum} (hd : k.Holds d) :
    (Field.defaulting name k d).IsFaithful := by
  refine isFaithful_of_kind (k := k) (fun _ _ => rfl) ?_
  intro member d' h
  cases member with
  | none =>
    obtain rfl := Option.some.inj h
    exact .inl hd
  | some v => exact .inl (ScalarKind.holds_of_read (ScalarKind.readIssues_eq_ok_iff.mp h))

@[simp]
theorem Field.IsFaithful.cell (hf : f.IsFaithful) : f.cell.IsFaithful where
  reloads hv h := by
    obtain ⟨d, hd, rfl⟩ := takes_cell.mp h
    obtain ⟨d', hd', halike⟩ := hf.reloads hv hd
    exact ⟨.scalar d', takes_cell.mpr ⟨d', hd', rfl⟩, halike.shown, halike.depth, halike.tornKey⟩
  depth_le h := by
    obtain ⟨d, hd, rfl⟩ := takes_cell.mp h
    exact hf.depth_le hd
  tornKey hv h := by
    obtain ⟨d, hd, rfl⟩ := takes_cell.mp h
    exact hf.tornKey hv hd

end Fields

section Nested

variable {s : Shape Datum}

theorem Field.takes_optionalRecord {name : String} {member : Option Value} {c : Cell}
    (h : (Field.optionalRecord name s).Takes member c) :
    (member = none ∨ member = some .null) ∧ c = .scalar .null ∨
      ∃ v r, member = some v ∧ s.readIssues v = .ok r ∧ c = .one r := by
  cases member with
  | none => exact .inl ⟨.inl rfl, (Option.some.inj h).symm⟩
  | some v =>
    by_cases hnull : v = .null
    · subst hnull
      exact .inl ⟨.inr rfl, (Except.ok.inj h).symm⟩
    · have hread : orNull (.scalar .null) (fun v => (s.readIssues v).map Cell.one) v = .ok c := h
      rw [orNull_of_ne hnull] at hread
      obtain ⟨r, hr, rfl⟩ := Except.map_eq_ok_iff.mp hread
      exact .inr ⟨v, r, rfl, hr, rfl⟩

@[simp]
theorem Field.isFaithful_optionalRecord (name : String) (hs : s.IsFaithful) :
    (Field.optionalRecord name s).IsFaithful where
  reloads hv h := by
    rcases takes_optionalRecord h with ⟨-, rfl⟩ | ⟨v, r, rfl, hr, rfl⟩
    · exact ⟨.scalar .null, rfl, .refl _⟩
    · obtain ⟨r', hr', hdump, hdepth, htorn⟩ := hs.reloads (hv v rfl) hr
      refine ⟨.one r', Except.map_eq_ok_iff.mpr ⟨r', hr', rfl⟩, congrArg some hdump, ?_, htorn⟩
      intro inner
      exact congrArg (inner + ·) (hdepth 0)
  depth_le {member c} h inner := by
    rcases takes_optionalRecord h with ⟨-, rfl⟩ | ⟨v, r, rfl, hr, rfl⟩
    · have hone : Shown.depth inner (Cell.scalar .null) = 1 := rfl
      cases member with
      | none => simp [hone]
      | some v =>
        have hv := v.depth_pos
        simp only [hone, Option.map_some, Option.getD_some]
        omega
    · have hr' := hs.depth_le hr 0
      have hone : Shown.depth inner (Cell.one r) = inner + r.depth 0 := rfl
      simp only [hone, Option.map_some, Option.getD_some]
      omega
  tornKey hv h := by
    rcases takes_optionalRecord h with ⟨-, rfl⟩ | ⟨v, r, rfl, hr, rfl⟩
    · rfl
    · exact hs.tornKey? (hv v rfl) hr

theorem readItems_eq_ok_iff {items : List Value} {rs : List (Record Datum)} :
    readItems s items = .ok rs ↔ List.Forall₂ (fun v r => s.readIssues v = .ok r) items rs := by
  rw [readItems, collect_eq_ok_iff, List.forall₂_iff_get]
  constructor
  · intro h
    have hlength : items.length = rs.length := by simpa using congrArg List.length h
    refine ⟨hlength, ?_⟩
    intro i hi hi'
    have hitem := congrArg (·[i]?) h
    simpa [hi, hi', Except.mapError_eq_ok_iff] using hitem
  · rintro ⟨hlength, hitems⟩
    apply List.ext_getElem
    · simpa using hlength
    · intro i hi hi'
      simp only [List.length_mapIdx, List.length_map] at hi hi'
      simp only [List.getElem_mapIdx, List.getElem_map]
      exact Except.mapError_eq_ok_iff.mpr (hitems i hi hi')

theorem Field.takes_list {name : String} {member : Option Value} {c : Cell}
    (h : (Field.list name s).Takes member c) : member = none ∧ c = .many [] ∨
      ∃ items rs, member = some (.arr items) ∧
        List.Forall₂ (fun v r => s.readIssues v = .ok r) items rs ∧ c = .many rs := by
  cases member with
  | none => exact .inl ⟨rfl, (Option.some.inj h).symm⟩
  | some v =>
    cases v with
    | arr items =>
      obtain ⟨rs, hrs, rfl⟩ := Except.map_eq_ok_iff.mp h
      exact .inr ⟨items, rs, rfl, readItems_eq_ok_iff.mp hrs, rfl⟩
    | _ => cases h

@[simp]
theorem Field.isFaithful_list (name : String) (hs : s.IsFaithful) :
    (Field.list name s).IsFaithful where
  reloads {member c} hv h := by
    obtain ⟨rs, rfl, hreload⟩ : ∃ rs, c = .many rs ∧ ∀ r ∈ rs, ∃ r', s.readIssues r.dump = .ok r' ∧
        r'.dump = r.dump ∧ (∀ inner, r'.depth inner = r.depth inner) ∧ r'.tornKey? = r.tornKey? := by
      rcases takes_list h with ⟨-, rfl⟩ | ⟨items, rs, rfl, hitems, rfl⟩
      · exact ⟨[], rfl, fun r hr => by cases hr⟩
      · refine ⟨rs, rfl, ?_⟩
        intro r hr
        obtain ⟨v, hvitems, hread⟩ := exists_left_of_forall₂ hitems hr
        exact hs.reloads ((hv _ rfl).item hvitems) hread
    obtain ⟨rs', hrs'⟩ := exists_forall₂ hreload
    have hdump : rs'.map Record.dump = rs.map Record.dump :=
      map_eq_of_forall₂ (hrs'.imp fun _ _ h => h.2.1)
    have hdepth : rs'.map (·.depth 0) = rs.map (·.depth 0) :=
      map_eq_of_forall₂ (hrs'.imp fun _ _ h => h.2.2.1 0)
    have htorn : rs'.map (·.tornKey?) = rs.map (·.tornKey?) :=
      map_eq_of_forall₂ (hrs'.imp fun _ _ h => h.2.2.2)
    refine ⟨.many rs', ?_, ?_, ?_, ?_⟩
    · have hread : readItems s (rs.map Record.dump) = .ok rs' :=
        readItems_eq_ok_iff.mpr (List.forall₂_map_left_iff.mpr (hrs'.imp fun _ _ h => h.1))
      exact Except.map_eq_ok_iff.mpr ⟨rs', hread, rfl⟩
    · exact congrArg (fun vs => some (Value.arr vs)) hdump
    · intro inner
      exact congrArg (fun ns => inner + ns.foldl max 0) hdepth
    · show rs'.findSome? Record.tornKey? = rs.findSome? Record.tornKey?
      have hfound (rs : List (Record Datum)) :
          rs.findSome? Record.tornKey? = (rs.map (·.tornKey?)).findSome? id := by
        simp [List.findSome?_map]
      rw [hfound, hfound, htorn]
  depth_le {member c} h inner := by
    rcases takes_list h with ⟨-, rfl⟩ | ⟨items, rs, rfl, hitems, rfl⟩
    · exact Nat.le_add_right inner _
    · have hmany : (rs.map (·.depth 0)).foldl max 0 ≤ (Value.arr items).depth := by
        rw [foldl_max_le_iff]
        refine ⟨Nat.zero_le _, ?_⟩
        intro n hn
        obtain ⟨r, hr, rfl⟩ := List.mem_map.mp hn
        obtain ⟨v, hv, hread⟩ := exists_left_of_forall₂ hitems hr
        have hle := hs.depth_le hread 0
        have hitem := Value.depth_le_itemDepth hv
        have harr : (Value.arr items).depth = Value.itemDepth items + 1 := rfl
        omega
      exact Nat.add_le_add_left hmany inner
  tornKey {member c} hv h := by
    rcases takes_list h with ⟨-, rfl⟩ | ⟨items, rs, rfl, hitems, rfl⟩
    · rfl
    · refine List.findSome?_eq_none_iff.mpr fun r hr => ?_
      obtain ⟨v, hvitems, hread⟩ := exists_left_of_forall₂ hitems hr
      exact hs.tornKey? (Value.itemTornKey?_eq_none_iff.mp (hv _ rfl) v hvitems) hread

end Nested

end Storefront.Schema
