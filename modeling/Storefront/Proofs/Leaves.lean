import Mathlib.Data.List.Flatten
import Storefront.Json.Value
import Storefront.Proofs.Matching

/-! Values as trees. A position leads from a value to one inside it, child by child, and the texts of a
value are found at positions that can be listed in the order of the document. -/
namespace Storefront.Json.Value

/-- The items of a list and the members of an object, in order; a member has its name. -/
def children : Value → List (Option Str × Value)
  | .arr items => items.map (none, ·)
  | .obj members => members.map fun p => (some p.1, p.2)
  | _ => []

theorem sizeOf_child {v : Value} {c : Option Str × Value} (hc : c ∈ v.children) :
    sizeOf c.2 < sizeOf v := by
  cases v with
  | arr items =>
    obtain ⟨w, hw, rfl⟩ := List.mem_map.mp hc
    have hlt := List.sizeOf_lt_of_mem hw
    simp only [arr.sizeOf_spec]
    omega
  | obj members =>
    obtain ⟨p, hp, rfl⟩ := List.mem_map.mp hc
    have hlt := List.sizeOf_lt_of_mem hp
    have hpair : sizeOf p = 1 + sizeOf p.1 + sizeOf p.2 := by
      cases p
      rfl
    simp only [obj.sizeOf_spec]
    omega
  | _ => cases hc

/-- What holds of a value whenever it holds of its children holds of every value. -/
@[elab_as_elim]
theorem induction_children {motive : Value → Prop}
    (step : ∀ v, (∀ c ∈ v.children, motive c.2) → motive v) (v : Value) : motive v := by
  apply step
  intro c hc
  have hlt := sizeOf_child hc
  exact induction_children step c.2
termination_by sizeOf v

/-- The way from a value to one inside it, by the numbers of the children on it. -/
abbrev Position := List Nat

def at? (v : Value) : Position → Option Value
  | [] => some v
  | i :: p => v.children[i]?.bind fun c => c.2.at? p

/-- The names of the members on the way to a position, from the outside in. -/
def namesTo (v : Value) : Position → List Str
  | [] => []
  | i :: p =>
    match v.children[i]? with
    | some (name, w) => name.toList ++ w.namesTo p
    | none => []

theorem at?_cons {v w : Value} {i : Nat} {name : Option Str}
    (h : v.children[i]? = some (name, w)) (p : Position) : v.at? (i :: p) = w.at? p := by
  rw [at?, h]
  rfl

theorem namesTo_cons {v w : Value} {i : Nat} {name : Option Str}
    (h : v.children[i]? = some (name, w)) (p : Position) :
    v.namesTo (i :: p) = name.toList ++ w.namesTo p := by
  rw [namesTo, h]

def modifyChild (v : Value) (i : Nat) (f : Value → Value) : Value :=
  match v with
  | .arr items => .arr (items.modify i f)
  | .obj members => .obj (members.modify i fun p => (p.1, f p.2))
  | v => v

/-- The value with another one at a position. -/
def replaceAt (v : Value) : Position → Value → Value
  | [], w => w
  | i :: p, w => v.modifyChild i (·.replaceAt p w)

theorem children_modifyChild (v : Value) (i : Nat) (f : Value → Value) :
    (v.modifyChild i f).children = v.children.modify i fun c => (c.1, f c.2) := by
  apply List.ext_getElem?
  intro j
  cases v with
  | arr items =>
    simp only [modifyChild, children, List.getElem?_map, List.getElem?_modify]
    cases items[j]? <;> split <;> rfl
  | obj members =>
    simp only [modifyChild, children, List.getElem?_map, List.getElem?_modify]
    cases members[j]? <;> split <;> rfl
  | _ => simp [modifyChild, children]

/-- Holds of the positions of all texts of a value, in the order of the document. -/
structure Lists (v : Value) (ps : List Position) : Prop where
  sorted : ps.Pairwise (· < ·)
  mem_iff : ∀ p, p ∈ ps ↔ ∃ s, v.at? p = some (.str s)

/-- The positions below some children, from those below each of them. -/
def Position.ofBranches (pss : List (List Position)) : List Position :=
  (pss.mapIdx fun i ps => ps.map (i :: ·)).flatten

theorem Position.mem_ofBranches {pss : List (List Position)} {p : Position} :
    p ∈ ofBranches pss ↔ ∃ i q ps, p = i :: q ∧ pss[i]? = some ps ∧ q ∈ ps := by
  simp only [ofBranches, List.mem_flatten, List.mem_mapIdx]
  constructor
  · rintro ⟨_, ⟨i, hi, rfl⟩, hp⟩
    obtain ⟨q, hq, rfl⟩ := List.mem_map.mp hp
    exact ⟨i, q, pss[i], rfl, List.getElem?_eq_getElem hi, hq⟩
  · rintro ⟨i, q, ps, rfl, hi, hq⟩
    obtain ⟨hlt, rfl⟩ := List.getElem?_eq_some_iff.mp hi
    exact ⟨_, ⟨i, hlt, rfl⟩, List.mem_map.mpr ⟨q, hq, rfl⟩⟩

/-- The positions below one child come before those below the next. -/
theorem Position.sorted_ofBranches {pss : List (List Position)}
    (h : ∀ ps ∈ pss, ps.Pairwise (· < ·)) : (ofBranches pss).Pairwise (· < ·) := by
  apply List.pairwise_flatten.mpr
  constructor
  · intro qs hqs
    obtain ⟨i, hi, rfl⟩ := List.mem_mapIdx.mp hqs
    apply List.Pairwise.map _ _ (h _ (List.getElem_mem hi))
    intro p q hpq
    exact List.cons_lt_cons_iff.mpr (.inr ⟨rfl, hpq⟩)
  · apply List.pairwise_iff_getElem.mpr
    intro i j hi hj hij p hp q hq
    rw [List.getElem_mapIdx] at hp hq
    obtain ⟨p, -, rfl⟩ := List.mem_map.mp hp
    obtain ⟨q, -, rfl⟩ := List.mem_map.mp hq
    exact List.cons_lt_cons_iff.mpr (.inl hij)

theorem lists_str (s : Str) : Lists (.str s) [[]] where
  sorted := List.pairwise_singleton _ _
  mem_iff p := by
    cases p with
    | nil => simp [at?]
    | cons i p => simp [at?, children]

/-- A value that is no text itself has the texts of its children. -/
theorem lists_ofBranches {v : Value} (hv : ∀ s, v ≠ .str s) {pss : List (List Position)}
    (h : List.Forall₂ (fun c ps => Lists c.2 ps) v.children pss) :
    Lists v (Position.ofBranches pss) := by
  obtain ⟨hlength, hlists⟩ := List.forall₂_iff_get.mp h
  constructor
  · apply Position.sorted_ofBranches
    intro ps hps
    obtain ⟨i, hi, rfl⟩ := List.getElem_of_mem hps
    exact (hlists i (hlength ▸ hi) hi).sorted
  · intro p
    rw [Position.mem_ofBranches]
    constructor
    · rintro ⟨i, q, ps, rfl, hi, hq⟩
      obtain ⟨hlt, rfl⟩ := List.getElem?_eq_some_iff.mp hi
      obtain ⟨s, hs⟩ := ((hlists i (hlength ▸ hlt) hlt).mem_iff q).mp hq
      refine ⟨s, ?_⟩
      rw [at?_cons (List.getElem?_eq_getElem (hlength ▸ hlt))]
      exact hs
    · rintro ⟨s, hs⟩
      cases p with
      | nil => exact absurd (Option.some.inj hs) (hv s)
      | cons i q =>
        cases hi : v.children[i]? with
        | none => simp [at?, hi] at hs
        | some c =>
          rw [at?_cons hi] at hs
          obtain ⟨hlt, rfl⟩ := List.getElem?_eq_some_iff.mp hi
          have hq := ((hlists i hlt (hlength ▸ hlt)).mem_iff q).mpr ⟨s, hs⟩
          exact ⟨i, q, _, rfl, List.getElem?_eq_getElem (hlength ▸ hlt), hq⟩

end Storefront.Json.Value
