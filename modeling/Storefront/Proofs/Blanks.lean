import Mathlib.Data.List.DropRight
import Storefront.Text.Blank

/-! Text without blanks at its ends. What is left of a text is part of it, nothing more is taken from
it a second time, and nothing is left exactly of a text that is blank altogether. -/
namespace Storefront.Text

section Trimming

variable {α : Type} {p : α → Bool} {xs : List α}

theorem dropEndWhile_eq (p : α → Bool) (xs : List α) : dropEndWhile p xs = xs.rdropWhile p := rfl

theorem mem_of_mem_trimBy {x : α} (h : x ∈ trimBy p xs) : x ∈ xs :=
  (List.dropWhile_sublist p).subset ((List.rdropWhile_prefix p (xs.dropWhile p)).subset h)

/-- What fails the test is never taken away. -/
theorem mem_trimBy_of_mem {x : α} (h : x ∈ xs) (hx : p x = false) : x ∈ trimBy p xs := by
  have hdrop {ys : List α} (hy : x ∈ ys) : x ∈ ys.dropWhile p := by
    rw [← @List.takeWhile_append_dropWhile α p ys, List.mem_append] at hy
    rcases hy with hy | hy
    · rw [List.mem_takeWhile_imp hy] at hx
      cases hx
    · exact hy
  have hback : x ∈ (xs.dropWhile p).reverse := List.mem_reverse.mpr (hdrop h)
  exact List.mem_reverse.mpr (hdrop hback)

theorem dropWhile_of_head? (h : ∀ x, xs.head? = some x → p x = false) : xs.dropWhile p = xs := by
  cases xs with
  | nil => rfl
  | cons x rest => exact List.dropWhile_cons_of_neg (by simp [h x rfl])

theorem head?_dropWhile {x : α} (h : (xs.dropWhile p).head? = some x) : p x = false := by
  have hnot := List.head?_dropWhile_not p xs
  rw [h] at hnot
  exact hnot

/-- Nothing is left exactly when everything satisfies the test. -/
theorem trimBy_eq_nil_iff : trimBy p xs = [] ↔ ∀ x ∈ xs, p x = true := by
  unfold trimBy
  rw [dropEndWhile_eq, List.rdropWhile_eq_nil_iff, ← List.dropWhile_eq_nil_iff,
    List.dropWhile_idempotent, List.dropWhile_eq_nil_iff]

theorem trimBy_trimBy (p : α → Bool) (xs : List α) : trimBy p (trimBy p xs) = trimBy p xs := by
  have hhead : (trimBy p xs).dropWhile p = trimBy p xs := by
    refine dropWhile_of_head? fun x hx => @head?_dropWhile α p xs x ?_
    obtain ⟨rest, hrest⟩ := List.rdropWhile_prefix p (xs.dropWhile p)
    rw [← hrest, List.head?_append]
    exact congrArg (Option.or · rest.head?) hx
  conv_lhs => rw [trimBy, hhead]
  exact List.rdropWhile_idempotent p _

end Trimming

theorem isBlankText_append (s t : String) :
    isBlankText (s ++ t) = (isBlankText s && isBlankText t) := by
  simp [isBlankText, String.toList_append]

end Storefront.Text
