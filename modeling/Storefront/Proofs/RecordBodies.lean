import Storefront.Body
import Storefront.Proofs.Models

/-! Records as bodies of requests. Whether an object makes its own document is asked by a name, and it is
asked before a record is known for one. A record answers by that name with a member that no field has,
and then it is no body; every other record is sent as it is shown. -/
namespace Storefront

open Json Schema

theorem Pairs.get?_filter {α κ : Type} [DecidableEq κ] (p : κ → Bool) (ps : Pairs α κ) (key : κ) :
    get? (ps.filter fun q => p q.1) key = if p key then ps.get? key else none := by
  induction ps with
  | nil => simp [get?]
  | cons q ps ih =>
    obtain ⟨k, v⟩ := q
    rw [List.filter_cons]
    by_cases hk : k = key
    · subst hk
      cases hp : p k with
      | true => simp [get?_cons]
      | false => simpa [hp] using ih
    · cases hp : p k with
      | true => simpa [get?_cons, hk] using ih
      | false => simpa [get?_cons, hk] using ih

/-- A value under the name of the maker of documents, in an object whose unknown members are kept. -/
structure Schema.AnyShape.Claims (a : AnyShape) (o w : Value) : Prop where
  keeps : a.keepsUnknown = true
  member : o.member? Body.producerMember = some w
  present : w ≠ .null

/-- No shape has a field of that name. -/
theorem Schema.producerMember_not_declared :
    ∀ a ∈ models, a.declares Body.producerMember = false := by decide

section

variable {a : AnyShape} {o : Value} {r : AnyRecord}

theorem Schema.present?_eq_some_iff {v w : Value} : v.present? = some w ↔ v = w ∧ w ≠ .null := by
  cases v with
  | null =>
    constructor
    · intro h
      cases h
    · rintro ⟨rfl, h⟩
      exact absurd rfl h
  | _ =>
    simp only [Value.present?, Option.some.injEq, iff_self_and]
    rintro rfl
    simp

/-- The claim of a record is that of the object from which it was read. -/
theorem Body.claimed?_iff (ha : a ∈ models) (h : a.read o = .ok r) {w : Value} :
    claimed? r.unknown = some w ↔ a.Claims o w := by
  obtain ⟨members, rfl, hunknown⟩ := AnyShape.read_unknown h
  have hget : Pairs.get? r.unknown producerMember =
      if a.keepsUnknown then Pairs.get? members producerMember else none := by
    rw [hunknown, AnyShape.rest]
    cases a.keepsUnknown with
    | false => rfl
    | true => simp [Pairs.get?_filter (!a.declares ·), producerMember_not_declared a ha]
  unfold claimed?
  rw [hget]
  constructor
  · intro hw
    obtain ⟨v, hv, hpresent⟩ := Option.bind_eq_some_iff.mp hw
    obtain ⟨rfl, hnull⟩ := present?_eq_some_iff.mp hpresent
    cases hkeeps : a.keepsUnknown with
    | false => simp [hkeeps] at hv
    | true =>
      rw [if_pos hkeeps] at hv
      exact ⟨hkeeps, hv, hnull⟩
  · rintro ⟨hkeeps, hmember, hnull⟩
    rw [if_pos hkeeps]
    exact Option.bind_eq_some_iff.mpr ⟨w, hmember, present?_eq_some_iff.mpr ⟨rfl, hnull⟩⟩

/-- A record of what the shop describes is a body, and its document is the one that it is shown as, if no
member of the object from which it was read has the name of the maker of documents, or only nothing for
a value, or unknown members are not kept. If one has, the record is refused: the value is taken for the
maker. A record within the limit of depth always is shown, unless a key that it may have kept cannot be
encoded. -/
theorem record_is_its_body_unless_claimed (ha : a ∈ models) (h : a.read o = .ok r) :
    (∀ w, a.Claims o w → Body.content? (.record r) = .error (.notCallable w.kindName)) ∧
    ((∀ w, ¬ a.Claims o w) →
      (∀ d, r.dump = .ok d → Body.content? (.record r) = .ok (some (.scalar d))) ∧
      ∀ e, r.dump = .error e → Body.content? (.record r) = .error (.dump e)) ∧
    (o.depth < levelLimit → (a.keepsUnknown = true → o.tornKey? = none) → ∃ d, r.dump = .ok d) := by
  have hclaims {w : Value} := Body.claimed?_iff (w := w) ha h
  have hcontent : Body.content? (.record r) = Body.recordContent r := rfl
  refine ⟨?_, ?_, ?_⟩
  · intro w hw
    rw [hcontent, Body.recordContent, hclaims.mpr hw]
  · intro hfree
    have hnone : Body.claimed? r.unknown = none := by
      cases hw : Body.claimed? r.unknown with
      | none => rfl
      | some w => exact absurd (hclaims.mp hw) (hfree w)
    constructor
    · intro d hd
      rw [hcontent, Body.recordContent, hnone, hd]
    · intro e he
      rw [hcontent, Body.recordContent, hnone, he]
  · exact dumps_of_models ha h

end

/-- A customer with a member under the name of the maker of documents. -/
def Customer.claiming (v : Value) : Value :=
  .obj [("id", .int 1), ("to_json", v)]

/-- Nothing under that name is no claim. -/
theorem record_is_its_body_unless_claimed_by_nothing : ∃ r d,
    (AnyShape.nested customerShape).read (Customer.claiming .null) = .ok r ∧ r.dump = .ok d ∧
      Body.content? (.record r) = .ok (some (.scalar d)) := by
  have hread : ∃ r, (AnyShape.nested customerShape).read (Customer.claiming .null) = .ok r := ⟨_, rfl⟩
  obtain ⟨r, hr⟩ := hread
  have hmodel : .nested customerShape ∈ models := List.mem_cons_self
  obtain ⟨-, hfree, hshown⟩ := record_is_its_body_unless_claimed hmodel hr
  obtain ⟨d, hd⟩ := hshown (by decide) fun _ => by decide
  have hnot (w : Value) : ¬ (AnyShape.nested customerShape).Claims (Customer.claiming .null) w := by
    rintro ⟨-, hmember, hnull⟩
    exact hnull (Option.some.inj hmember).symm
  exact ⟨r, d, hr, hd, (hfree hnot).1 d hd⟩

/-- A customer whose description has a text under that name is accepted and shown, and is no body. -/
theorem claimed_customer_is_no_body : ∃ r d,
    (AnyShape.nested customerShape).read (Customer.claiming (.str "x")) = .ok r ∧ r.dump = .ok d ∧
      Body.content? (.record r) = .error (.notCallable "str") := ⟨_, _, rfl, rfl, rfl⟩

end Storefront
