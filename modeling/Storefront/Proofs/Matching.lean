import Mathlib.Data.List.Forall2

/-! Lists that match item by item, and results that match. -/
namespace Storefront

section Lists

variable {α β γ : Type} {R : α → β → Prop} {xs : List α} {ys : List β}

/-- If each item has something that it goes with, there is a list of these. -/
theorem exists_forall₂ (h : ∀ x ∈ xs, ∃ y, R x y) : ∃ ys, List.Forall₂ R xs ys := by
  induction xs with
  | nil => exact ⟨[], .nil⟩
  | cons x xs ih =>
    obtain ⟨y, hy⟩ := h x (List.mem_cons_self ..)
    obtain ⟨ys, hys⟩ := ih fun x' hx' => h x' (List.mem_cons_of_mem _ hx')
    exact ⟨y :: ys, .cons hy hys⟩

theorem exists_forall₂_of_forall₂ {P : α → γ → Prop} {Q : β → γ → Prop}
    (h : List.Forall₂ R xs ys) (hstep : ∀ x ∈ xs, ∀ y ∈ ys, R x y → ∃ z, P x z ∧ Q y z) :
    ∃ zs, List.Forall₂ P xs zs ∧ List.Forall₂ Q ys zs := by
  induction h with
  | nil => exact ⟨[], .nil, .nil⟩
  | cons hxy _ ih =>
    obtain ⟨z, hp, hq⟩ := hstep _ (List.mem_cons_self ..) _ (List.mem_cons_self ..) hxy
    obtain ⟨zs, hps, hqs⟩ := ih fun x hx y hy =>
      hstep x (List.mem_cons_of_mem _ hx) y (List.mem_cons_of_mem _ hy)
    exact ⟨z :: zs, .cons hp hps, .cons hq hqs⟩

/-- Lists that both go with one list, if what goes with one item can be completed. -/
theorem exists_forall₂_beside {δ : Type} {S : α → γ → Prop} {P : β → δ → Prop} {Q : γ → δ → Prop}
    {zs : List γ} (h : List.Forall₂ R xs ys) (h' : List.Forall₂ S xs zs)
    (hstep : ∀ x y z, R x y → S x z → ∃ w, P y w ∧ Q z w) :
    ∃ ws, List.Forall₂ P ys ws ∧ List.Forall₂ Q zs ws := by
  induction h generalizing zs with
  | nil =>
    cases h'
    exact ⟨[], .nil, .nil⟩
  | cons hxy _ ih =>
    cases h' with
    | cons hxz hrest =>
      obtain ⟨w, hp, hq⟩ := hstep _ _ _ hxy hxz
      obtain ⟨ws, hps, hqs⟩ := ih hrest
      exact ⟨w :: ws, .cons hp hps, .cons hq hqs⟩

theorem exists_right_of_forall₂ (h : List.Forall₂ R xs ys) {x : α} (hx : x ∈ xs) :
    ∃ y ∈ ys, R x y := by
  obtain ⟨hlength, hitems⟩ := List.forall₂_iff_get.mp h
  obtain ⟨i, hi, rfl⟩ := List.getElem_of_mem hx
  have hi' : i < ys.length := hlength ▸ hi
  exact ⟨ys[i], List.getElem_mem hi', hitems i hi hi'⟩

theorem exists_left_of_forall₂ (h : List.Forall₂ R xs ys) {y : β} (hy : y ∈ ys) :
    ∃ x ∈ xs, R x y := exists_right_of_forall₂ h.flip hy

theorem map_eq_of_forall₂ {g : α → β} {xs ys : List α}
    (h : List.Forall₂ (fun x y => g y = g x) xs ys) : ys.map g = xs.map g := by
  induction h with
  | nil => rfl
  | cons hxy _ ih => rw [List.map_cons, List.map_cons, hxy, ih]

end Lists

/-- Values are related, or failures are. -/
inductive Except.Rel {ε ε' α α' : Type} (E : ε → ε' → Prop) (R : α → α' → Prop) :
    Except ε α → Except ε' α' → Prop
  | ok {a : α} {a' : α'} (h : R a a') : Except.Rel E R (.ok a) (.ok a')
  | error {e : ε} {e' : ε'} (h : E e e') : Except.Rel E R (.error e) (.error e')

namespace Except.Rel

variable {ε ε' α α' β β' : Type} {E : ε → ε' → Prop} {R : α → α' → Prop} {S : β → β' → Prop}

theorem refl {R : α → α → Prop} (hr : ∀ a, R a a) (x : Except ε α) : Except.Rel Eq R x x := by
  cases x with
  | ok a => exact .ok (hr a)
  | error e => exact .error rfl

theorem bind {x : Except ε α} {x' : Except ε' α'} {f : α → Except ε β} {f' : α' → Except ε' β'}
    (h : Except.Rel E R x x') (hf : ∀ a a', R a a' → Except.Rel E S (f a) (f' a')) :
    Except.Rel E S (x >>= f) (x' >>= f') := by
  cases h with
  | ok h => exact hf _ _ h
  | error h => exact .error h

theorem both {x : Except ε α} {x' : Except ε α'} (h : Except.Rel Eq R x x') :
    (∃ e, x = .error e ∧ x' = .error e) ∨ ∃ a a', x = .ok a ∧ x' = .ok a' ∧ R a a' := by
  cases h with
  | ok h => exact .inr ⟨_, _, rfl, rfl, h⟩
  | error h => exact .inl ⟨_, rfl, h ▸ rfl⟩

theorem map {f : α → β} {f' : α' → β'} {x : Except ε α} {x' : Except ε' α'}
    (h : Except.Rel E R x x') (hf : ∀ a a', R a a' → S (f a) (f' a')) :
    Except.Rel E S (x.map f) (x'.map f') := by
  cases h with
  | ok h => exact .ok (hf _ _ h)
  | error h => exact .error h

theorem mapError {γ γ' : Type} {G : γ → γ' → Prop} {f : ε → γ} {f' : ε' → γ'} {x : Except ε α}
    {x' : Except ε' α'} (h : Except.Rel E R x x') (hf : ∀ e e', E e e' → G (f e) (f' e')) :
    Except.Rel G R (x.mapError f) (x'.mapError f') := by
  cases h with
  | ok h => exact .ok h
  | error h => exact .error (hf _ _ h)

end Except.Rel

end Storefront
