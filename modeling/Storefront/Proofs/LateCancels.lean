import Storefront.Proofs.Delivered
import Storefront.Proofs.Plays
import Storefront.Proofs.Propagation

/-! When it is too late to cancel. A task can be cancelled until it has ended, but its result is set only
later: while its completion waits in the queue and while its callback runs, a cancellation is refused
although nothing has been delivered. -/
namespace Storefront

/-- A task has ended and its result has not been set: its completion is in the queue, or its callback
runs, or has aborted. -/
inductive Scene.Conveys (s : Scene) (task : Nat) (t : Ticket) : Prop where
  | queued (h : .complete task ∈ s.loop.ready)
  | inside (h : s.focus = .inside task)
  | aborted (hc : t.callback = some .abort) (hh : s.loop.handed task ≠ [])

/-- A task with a result to deliver refuses a cancellation exactly when it has ended. -/
theorem Loop.Books.cancel_fst {l : Loop} {task : Nat} (h : l.Books task) {t : Ticket}
    (ht : l.ticket? task = some t) :
    (l.cancel task).1 = false ↔ ∃ e, l.due? task = some (t, e) := by
  obtain ⟨j, hj, -⟩ := Option.bind_eq_some_iff.mp ht
  constructor
  · intro hcancel
    by_contra hnone
    have hgoes : j.hasEnded = false := by
      unfold Job.hasEnded
      split
      · rename_i e hp
        exact absurd ⟨e, Loop.due?_of_ended hj ht hp⟩ hnone
      · rfl
    have ho : j.outcome = none := by
      by_contra hne
      have hdone : l.outcome? task ≠ none := by
        unfold Loop.outcome?
        rw [hj]
        exact hne
      obtain ⟨t', e, hd, -⟩ := h.delivered (.inr hdone)
      obtain rfl := Option.some.inj ((Loop.ticket?_of_due? hd).1.symm.trans ht)
      exact hnone ⟨e, hd⟩
    rw [Loop.cancel_accepts hj ho hgoes] at hcancel
    cases hcancel
  · rintro ⟨e, hd⟩
    exact congrArg Prod.fst
      (Loop.cancel_of_ended hj (Job.ended_of_due? ((Loop.due?_eq hj).symm.trans hd)).2)

namespace Scene.InOrder

variable {s : Scene} {task : Nat} {t : Ticket}

/-- A task that has ended has delivered, or its result is on its way. -/
theorem conveys (h : s.InOrder) {e : Ending} (hd : s.loop.due? task = some (t, e))
    (ho : s.loop.outcome? task = none) : s.Conveys task t := by
  have hsame {t' : Ticket} {e' : Ending} (hd' : s.loop.due? task = some (t', e')) : t' = t :=
    (Prod.mk.inj (Option.some.inj (hd'.symm.trans hd))).1
  obtain ⟨hd', -⟩ | ⟨_, _, -, hp, -⟩ | ⟨t', e', c, hd', -, -, hh, hs, -⟩ | ⟨_, _, -, -, -, -, ho'⟩ :=
    h.books task
  · exact absurd (hd'.symm.trans hd) (by simp)
  · exact .queued (List.count_pos_iff.mp (by rw [← Loop.pending, hp]; decide))
  · have hne : s.loop.handed task ≠ [] := by simp [hh]
    rcases h.left task t' e' hd' hne hs with hin | ha
    · exact .inside hin
    · exact .aborted (hsame hd' ▸ ha) hne
  · exact absurd (ho.symm.trans ho') (by simp)

/-- A result that is on its way belongs to a task that has ended, and is not delivered. -/
theorem of_conveys (h : s.InOrder) (hw : s.loop.Withholds) (ht : s.loop.ticket? task = some t)
    (hc : s.Conveys task t) : (∃ e, s.loop.due? task = some (t, e)) ∧ s.loop.outcome? task = none := by
  have hdue {t' : Ticket} {e : Ending} (hd : s.loop.due? task = some (t', e)) :
      ∃ e, s.loop.due? task = some (t, e) :=
    ⟨e, Option.some.inj ((Loop.ticket?_of_due? hd).1.symm.trans ht) ▸ hd⟩
  obtain ⟨hd, hp, hh, -⟩ | ⟨t', e, hd, hp, hh, -, ho⟩ | ⟨t', e, c, hd, -, hp, hh, -, ho⟩ |
    ⟨t', e, hd, hp, hh, hs, ho⟩ := h.books task
  · cases hc with
    | queued hq => exact absurd hp (Loop.pending_ne_zero hq)
    | inside hf => exact absurd hh (h.inside task hf).2
    | aborted _ hne => exact absurd hh hne
  · exact ⟨hdue hd, ho⟩
  · exact ⟨hdue hd, ho⟩
  · have hne : s.loop.deliveries task ≠ [] := by simp [hs]
    cases hc with
    | queued hq => exact absurd hp (Loop.pending_ne_zero hq)
    | inside hf => exact absurd (h.inside task hf).1 hne
    | aborted hc _ =>
      obtain ⟨e', hd'⟩ := hdue hd
      exact absurd (hw task t e' hd' hc) hne

end Scene.InOrder

/-- In every run a cancellation is refused exactly when the task has ended, and from then on for good and
without effect. So it is refused where the result has been delivered, but also where the result is on its
way and nothing has been delivered yet. -/
theorem cancel_is_refused_once_ended {s : Scene} (hr : Reachable s) {task : Nat} {t : Ticket}
    (ht : s.loop.ticket? task = some t) :
    ((s.loop.cancel task).1 = false ↔ ∃ e, s.stand? task = some (.ended e)) ∧
    ((s.loop.cancel task).1 = false ↔ (s.loop.outcome? task).isSome = true ∨ s.Conveys task t) ∧
    (s.Conveys task t → s.loop.outcome? task = none) ∧
    ∀ s', Steps s s' → (s.loop.cancel task).1 = false → s'.loop.cancel task = (false, s'.loop) := by
  have hin := hr.inOrder
  have hrefused := (hin.books task).cancel_fst ht
  have hconveyed (hc : s.Conveys task t) := hin.of_conveys hr.withholds ht hc
  refine ⟨?_, ?_, fun hc => (hconveyed hc).2, ?_⟩
  · rw [hrefused]
    exact exists_congr fun e => ⟨hin.stand?_of_due?, fun hσ => Scene.due?_of_stand? hσ ht⟩
  · constructor
    · intro h
      obtain ⟨e, hd⟩ := hrefused.mp h
      cases ho : s.loop.outcome? task with
      | some d => exact .inl rfl
      | none => exact .inr (hin.conveys hd ho)
    · rintro (hdone | hc)
      · obtain ⟨d, ho⟩ := Option.isSome_iff_exists.mp hdone
        exact congrArg Prod.fst (Loop.cancel_of_delivered ho)
      · exact hrefused.mpr (hconveyed hc).1
  · intro s' hs h
    obtain ⟨e, hd⟩ := hrefused.mp h
    have hlt := (Loop.ticket?_of_due? hd).2
    have hσ' : s'.stand? task = some (.ended e) := Steps.ended hs hlt (hin.stand?_of_due? hd)
    have hd' : s'.loop.due? task = some (t, e) :=
      Scene.due?_of_stand? hσ' ((Steps.ticket? hs hlt).trans ht)
    obtain ⟨j, hj, hjd⟩ := Option.bind_eq_some_iff.mp hd'
    exact Loop.cancel_of_ended hj (Job.ended_of_due? hjd).2

/-- Work that has ended with a result, with its completion in the queue. -/
def Scene.endedWork (callback : Option Callback) : Scene :=
  (⟨.ofWork { ending := .finished (.items []) } callback, .idle⟩ : Scene).plays [.take 0, .go]

theorem Scene.endedWork_reachable (callback : Option Callback) : Reachable (endedWork callback) :=
  (Reachable.ofWork _ callback).trans (plays_steps _ _)

/-- Work refuses a cancellation as soon as it has ended, and for good. -/
theorem cancel_is_refused_once_ended_of_work :
    let s := Scene.endedWork none
    (s.loop.cancel 0).1 = false ∧ s.loop.outcome? 0 = none ∧ s.Conveys 0 ⟨"request", .items, none⟩ ∧
      s.loop.settle.cancel 0 = (false, s.loop.settle) ∧
      s.loop.settle.outcome? 0 = some (.items []) := by
  intro s
  have ht : s.loop.ticket? 0 = some ⟨"request", .items, none⟩ := by cbv
  have ho : s.loop.outcome? 0 = none := by cbv
  have hfocus : s = ⟨s.loop, .idle⟩ := by cbv
  obtain ⟨hended, htells, -, hlasts⟩ := cancel_is_refused_once_ended (Scene.endedWork_reachable none) ht
  have hrefused : (s.loop.cancel 0).1 = false := hended.mpr ⟨.finished (.items []), by cbv⟩
  have hsettle : Steps s ⟨s.loop.settle, .idle⟩ := by
    rw [hfocus]
    exact s.loop.settle_steps.steps
  refine ⟨hrefused, ho, ?_, hlasts _ hsettle hrefused, by cbv⟩
  refine (htells.mp hrefused).resolve_left ?_
  rw [ho]
  decide

/-- Work that has ended refuses to be cancelled before its result is delivered, also when its own
callback asks for that. -/
theorem undelivered_work_refuses_cancellation :
    (Reachable (Scene.endedWork none) ∧ ((Scene.endedWork none).loop.cancel 0).1 = false ∧
      (Scene.endedWork none).loop.outcome? 0 = none) ∧
    Reachable ((Scene.endedWork (some .probe)).plays [.take 0]) ∧
      ((Scene.endedWork (some .probe)).plays [.take 0]).focus = .inside 0 ∧
      (((Scene.endedWork (some .probe)).plays [.take 0]).loop.cancel 0).1 = false ∧
      ((Scene.endedWork (some .probe)).plays [.take 0]).loop.outcome? 0 = none :=
  ⟨⟨Scene.endedWork_reachable none, by cbv, by cbv⟩,
    (Scene.endedWork_reachable (some .probe)).trans (Scene.plays_steps _ _), by cbv, by cbv, by cbv⟩

end Storefront
