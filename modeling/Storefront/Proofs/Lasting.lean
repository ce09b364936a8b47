import Storefront.Proofs.Entries
import Storefront.Proofs.Turns

/-! A delivered result lasts. What happened on a loop is never forgotten, and a task whose result was
delivered is at the last stage of its books, so nothing can be added to them. -/
namespace Storefront

theorem Reachable.inOrder {s : Scene} (h : Reachable s) : s.InOrder :=
  h.invariant Scene.InOrder.initial fun _ _ hs => hs.inOrder

/-- What happened is never forgotten. -/
theorem Step.trace {s s' : Scene} (hs : Step s s') :
    ∃ es, s'.loop.trace = s.loop.trace ++ es := by
  obtain ⟨es, hes, -⟩ := hs.notes
  exact ⟨es, hes⟩

namespace Loop

theorem ticket?_of_due? {l : Loop} {task : Nat} {t : Ticket} {e : Ending}
    (h : l.due? task = some (t, e)) : l.ticket? task = some t ∧ task < l.jobs.length := by
  obtain ⟨j, hj, hd⟩ := Option.bind_eq_some_iff.mp h
  refine ⟨?_, (List.getElem?_eq_some_iff.mp hj).1⟩
  unfold ticket?
  rw [hj]
  exact (Job.ended_of_due? hd).1

/-- A task that has ended is due when it has a result to deliver. -/
theorem due?_of_ended {l : Loop} {task : Nat} {j : Job} {t : Ticket} {e : Ending}
    (hj : l.jobs[task]? = some j) (ht : l.ticket? task = some t) (hp : j.phase = .ended e) :
    l.due? task = some (t, e) := by
  have hjt : j.ticket = some t := by
    unfold ticket? at ht
    rw [hj] at ht
    exact ht
  rw [due?_eq hj]
  simp [Job.due?, hjt, hp]

theorem pending_ne_zero {l : Loop} {task : Nat} (h : .complete task ∈ l.ready) :
    l.pending task ≠ 0 :=
  Nat.pos_iff_ne_zero.mp (List.count_pos_iff.mpr h)

theorem Books.delivered {l : Loop} {task : Nat} (h : l.Books task)
    (hne : l.deliveries task ≠ [] ∨ l.outcome? task ≠ none) :
    ∃ t e, l.due? task = some (t, e) ∧ l.pending task = 0 ∧
      l.handed task = handedAtEnd t (deliveryOf t e) ∧ l.deliveries task = [deliveryOf t e] ∧
      l.outcome? task = some (deliveryOf t e) := by
  obtain ⟨-, -, -, hs, ho⟩ | ⟨_, _, -, -, -, hs, ho⟩ | ⟨_, _, _, -, -, -, -, hs, ho⟩ |
    ⟨t, e, hd, hp, hh, hs, ho⟩ := h
  · simp [hs, ho] at hne
  · simp [hs, ho] at hne
  · simp [hs, ho] at hne
  · exact ⟨t, e, hd, hp, hh, hs, ho⟩

end Loop

theorem Scene.due?_of_stand? {s : Scene} {task : Nat} {t : Ticket} {e : Ending}
    (hσ : s.stand? task = some (.ended e)) (ht : s.loop.ticket? task = some t) :
    s.loop.due? task = some (t, e) := by
  obtain ⟨j, hj, hp⟩ := Scene.job_of_stand? hσ (Scene.task?_of_ended hσ)
  exact Loop.due?_of_ended hj ht (Phase.eq_of_stand hp)

theorem Scene.InOrder.stand?_of_due? {s : Scene} (h : s.InOrder) {task : Nat} {t : Ticket}
    {e : Ending} (hd : s.loop.due? task = some (t, e)) : s.stand? task = some (.ended e) := by
  have hl : s.loop.stand? task = some (.ended e) := by
    obtain ⟨j, hj, hjd⟩ := Option.bind_eq_some_iff.mp hd
    unfold Loop.stand?
    rw [hj, Option.map_some, (Job.ended_of_due? hjd).2]
    rfl
  unfold Scene.stand?
  split
  · rename_i id flow hf
    split
    · rename_i he
      subst he
      exact absurd ((h.running id flow hf).symm.trans hd) (by simp)
    · exact hl
  · exact hl

/-- A delivered result stays, and so does what was done with it. -/
theorem Step.delivered {s s' : Scene} (hs : Step s s') (h : s.InOrder) {task : Nat} {d : Delivery}
    (ho : s.loop.outcome? task = some d) :
    s'.loop.outcome? task = some d ∧ s'.loop.handed task = s.loop.handed task ∧
      s'.loop.deliveries task = s.loop.deliveries task := by
  obtain ⟨t, e, hd, -, hh, hs₁, ho₁⟩ := (h.books task).delivered (.inr (by simp [ho]))
  obtain ⟨es, hes⟩ := hs.trace
  have hmore : s'.loop.deliveries task =
      [Loop.deliveryOf t e] ++ es.filterMap (Event.delivered? task) := by
    rw [← hs₁]
    unfold Loop.deliveries
    rw [hes, List.filterMap_append]
  obtain ⟨t', e', hd', -, hh', hs', ho'⟩ := ((hs.inOrder h).books task).delivered
    (.inl (by simp [hmore]))
  obtain ⟨htick, hlt⟩ := Loop.ticket?_of_due? hd
  have hticket : t' = t := by
    have h₁ := (Loop.ticket?_of_due? hd').1
    rw [(hs.turns hlt).ticket, htick] at h₁
    exact (Option.some.inj h₁).symm
  rw [hs'] at hmore
  obtain ⟨heq, -⟩ := List.cons.inj hmore
  refine ⟨?_, ?_, ?_⟩
  · rw [ho', heq, ← ho₁, ho]
  · rw [hh', hh, heq, hticket]
  · rw [hs', hs₁, heq]

theorem Steps.delivered {s s' : Scene} (hr : Steps s s') (h : s.InOrder) {task : Nat} {d : Delivery}
    (ho : s.loop.outcome? task = some d) :
    s'.loop.outcome? task = some d ∧ s'.loop.handed task = s.loop.handed task ∧
      s'.loop.deliveries task = s.loop.deliveries task := by
  have hrun : s'.InOrder ∧ s'.loop.outcome? task = some d ∧
      s'.loop.handed task = s.loop.handed task ∧ s'.loop.deliveries task = s.loop.deliveries task := by
    induction hr with
    | refl => exact ⟨h, ho, rfl, rfl⟩
    | tail _ hs ih =>
      obtain ⟨hin, ho', hh, hd⟩ := ih
      obtain ⟨ho'', hh', hd'⟩ := hs.delivered hin ho'
      exact ⟨hs.inOrder hin, ho'', hh'.trans hh, hd'.trans hd⟩
  exact hrun.2

end Storefront
