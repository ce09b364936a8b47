import Storefront.Proofs.Items
import Storefront.Proofs.Leaves

/-! Values with finite numbers only, which are shown as they are, how deep the values inside a value may
go, and whether all keys inside it can be encoded. -/
namespace Storefront.Json.Value

/-- Holds of a value all of whose numbers are finite. -/
def IsFinite (v : Value) : Prop := ∀ p x, v.at? p = some (.real x) → x.isFinite = true

theorem IsFinite.child {v : Value} (h : v.IsFinite) {c : Option Str × Value}
    (hc : c ∈ v.children) : c.2.IsFinite := by
  intro p x hx
  obtain ⟨i, hi, rfl⟩ := List.getElem_of_mem hc
  apply h (i :: p) x
  rw [at?_cons (List.getElem?_eq_getElem hi)]
  exact hx

theorem isFinite_iff_children {v : Value} (hv : ∀ x, v ≠ .real x) :
    v.IsFinite ↔ ∀ c ∈ v.children, c.2.IsFinite := by
  constructor
  · intro h c hc
    exact h.child hc
  · intro h p x hx
    cases p with
    | nil => exact absurd (Option.some.inj hx) (hv x)
    | cons i p =>
      cases hi : v.children[i]? with
      | none => simp [at?, hi] at hx
      | some c =>
        rw [at?_cons hi] at hx
        exact h c (List.mem_of_getElem? hi) p x hx

@[simp]
theorem isFinite_real (x : Binary64) : (Value.real x).IsFinite ↔ x.isFinite = true := by
  constructor
  · intro h
    exact h [] x rfl
  · intro h p y hy
    cases p with
    | nil =>
      obtain rfl := Value.real.inj (Option.some.inj hy)
      exact h
    | cons i p => simp [at?, children] at hy

@[simp]
theorem isFinite_arr (items : List Value) :
    (Value.arr items).IsFinite ↔ ∀ v ∈ items, v.IsFinite := by
  rw [isFinite_iff_children (by simp)]
  exact List.forall_mem_map

@[simp]
theorem isFinite_obj (members : List (Str × Value)) :
    (Value.obj members).IsFinite ↔ ∀ p ∈ members, p.2.IsFinite := by
  rw [isFinite_iff_children (by simp)]
  exact List.forall_mem_map

theorem IsFinite.item {items : List Value} (h : (Value.arr items).IsFinite) {v : Value}
    (hv : v ∈ items) : v.IsFinite := (isFinite_arr items).mp h v hv

theorem IsFinite.member {members : List (Str × Value)} (h : (Value.obj members).IsFinite)
    {p : Str × Value} (hp : p ∈ members) : p.2.IsFinite := (isFinite_obj members).mp h p hp

theorem IsFinite.of_member? {v w : Value} {key : Str} (h : v.IsFinite)
    (hw : v.member? key = some w) : w.IsFinite := by
  cases v with
  | obj members => exact h.member (Pairs.mem_of_get? hw)
  | _ => cases hw

/-- A value that is no number in floating form and has no children is finite. -/
theorem isFinite_of_children_eq_nil {v : Value} (hv : ∀ x, v ≠ .real x) (h : v.children = []) :
    v.IsFinite := by
  rw [isFinite_iff_children hv, h]
  simp

@[simp]
theorem isFinite_null : Value.null.IsFinite := isFinite_of_children_eq_nil (by simp) rfl

@[simp]
theorem isFinite_bool (b : Bool) : (Value.bool b).IsFinite :=
  isFinite_of_children_eq_nil (by simp) rfl

@[simp]
theorem isFinite_int (n : Int) : (Value.int n).IsFinite :=
  isFinite_of_children_eq_nil (by simp) rfl

@[simp]
theorem isFinite_str (s : Str) : (Value.str s).IsFinite :=
  isFinite_of_children_eq_nil (by simp) rfl

theorem itemsWithoutInfinities_eq (items : List Value) :
    itemsWithoutInfinities items = items.map withoutInfinities := by
  induction items with
  | nil => rfl
  | cons v vs ih => rw [itemsWithoutInfinities, ih, List.map_cons]

theorem membersWithoutInfinities_eq (members : List (Str × Value)) :
    membersWithoutInfinities members = members.map fun p => (p.1, p.2.withoutInfinities) := by
  induction members with
  | nil => rfl
  | cons p ps ih =>
    obtain ⟨key, v⟩ := p
    rw [membersWithoutInfinities, ih, List.map_cons]

/-- A value whose numbers are finite is shown as it is. -/
theorem IsFinite.withoutInfinities_eq {v : Value} (h : v.IsFinite) : v.withoutInfinities = v := by
  induction v using induction_children with
  | step v ih =>
    cases v with
    | real x =>
      have hx : x.isFinite = true := h [] x rfl
      rw [withoutInfinities, if_pos hx]
    | arr items =>
      have hitems : items.map withoutInfinities = items := by
        conv_rhs => rw [← List.map_id items]
        apply List.map_congr_left
        intro v hv
        exact ih (none, v) (List.mem_map.mpr ⟨v, hv, rfl⟩) (h.item hv)
      rw [withoutInfinities, itemsWithoutInfinities_eq, hitems]
    | obj members =>
      have hmembers : members.map (fun p => (p.1, p.2.withoutInfinities)) = members := by
        conv_rhs => rw [← List.map_id members]
        apply List.map_congr_left
        intro p hp
        exact Prod.ext rfl (ih (some p.1, p.2) (List.mem_map.mpr ⟨p, hp, rfl⟩) (h.member hp))
      rw [withoutInfinities, membersWithoutInfinities_eq, hmembers]
    | _ => rfl

theorem depth_le_itemDepth {items : List Value} {v : Value} (h : v ∈ items) :
    v.depth ≤ itemDepth items := by
  induction items with
  | nil => cases h
  | cons w ws ih =>
    rw [itemDepth]
    rcases List.mem_cons.mp h with rfl | h
    · exact Nat.le_max_left _ _
    · exact Nat.le_trans (ih h) (Nat.le_max_right _ _)

theorem depth_le_memberDepth {members : List (Str × Value)} {p : Str × Value}
    (h : p ∈ members) : p.2.depth ≤ memberDepth members := by
  induction members with
  | nil => cases h
  | cons q qs ih =>
    rw [memberDepth]
    rcases List.mem_cons.mp h with rfl | h
    · exact Nat.le_max_left _ _
    · exact Nat.le_trans (ih h) (Nat.le_max_right _ _)

theorem itemTornKey?_eq_none_iff {items : List Value} :
    itemTornKey? items = none ↔ ∀ v ∈ items, v.tornKey? = none := by
  induction items with
  | nil => simp [itemTornKey?]
  | cons v vs ih => rw [itemTornKey?, Option.or_eq_none_iff, ih, List.forall_mem_cons]

theorem memberTornKey?_eq_none_iff {members : List (Str × Value)} :
    memberTornKey? members = none ↔ ∀ p ∈ members, p.1.isWhole = true ∧ p.2.tornKey? = none := by
  induction members with
  | nil => simp [memberTornKey?]
  | cons p ps ih =>
    obtain ⟨key, v⟩ := p
    rw [memberTornKey?, List.forall_mem_cons, ← ih]
    cases key.isWhole with
    | false => simp
    | true => simp [Option.or_eq_none_iff]

theorem depth_pos (v : Value) : 1 ≤ v.depth := by
  cases v <;> simp [depth]

end Storefront.Json.Value
