import Storefront.Proofs.Awaiting
import Storefront.Proofs.Runs

/-! Results are delivered once. The callback of a task and its outcome get one result, the same for
both, and from then on nothing changes it: neither a cancellation nor whoever waits for it. -/
namespace Storefront

/-- What has been done with the result of a task: at most one result was handed to the callback, at
most one was set, and they are one. -/
structure Loop.DeliversOnce (l : Loop) (task : Nat) : Prop where
  handed : (l.handed task).length ≤ 1
  delivered : (l.deliveries task).length ≤ 1
  outcome : l.outcome? task = (l.deliveries task).head?
  same : ∀ d ∈ l.handed task, ∀ d', l.outcome? task = some d' → d' = d
  called : ∀ t d, l.ticket? task = some t → l.outcome? task = some d →
    l.handed task = handedAtEnd t d

theorem Loop.Books.deliversOnce {l : Loop} {task : Nat} (h : l.Books task) :
    l.DeliversOnce task := by
  obtain ⟨-, -, hh, hs, ho⟩ | ⟨t, e, -, -, hh, hs, ho⟩ | ⟨t, e, c, -, -, -, hh, hs, ho⟩ |
    ⟨t, e, hd, -, hh, hs, ho⟩ := h
  · refine ⟨by simp [hh], by simp [hs], by simp [hs, ho], by simp [hh], by simp [ho]⟩
  · refine ⟨by simp [hh], by simp [hs], by simp [hs, ho], by simp [hh], by simp [ho]⟩
  · refine ⟨by simp [hh], by simp [hs], by simp [hs, ho], by simp [ho], by simp [ho]⟩
  · refine ⟨?_, by simp [hs], by simp [hs, ho], ?_, ?_⟩
    · rw [hh, handedAtEnd]
      cases t.callback <;> simp
    · intro d hd' d' ho'
      rw [hh, handedAtEnd, Option.mem_toList] at hd'
      obtain ⟨c, -, rfl⟩ := Option.map_eq_some_iff.mp hd'
      exact Option.some.inj (ho'.symm.trans ho)
    · intro t' d ht' ho'
      obtain rfl := Option.some.inj ((Loop.ticket?_of_due? hd).1.symm.trans ht')
      rw [hh, Option.some.inj (ho'.symm.trans ho)]

/-- In every run a result is delivered at most once and never again. -/
theorem result_delivered_once {s : Scene} (hr : Reachable s) (task : Nat) :
    s.loop.DeliversOnce task ∧
    (∀ s', Step s s' → s'.loop.deliveries task ≠ s.loop.deliveries task →
      s.loop.outcome? task = none) ∧
    (∀ d s', s.loop.outcome? task = some d → Steps s s' →
      s'.loop.outcome? task = some d ∧ s'.loop.handed task = s.loop.handed task ∧
        s'.loop.deliveries task = s.loop.deliveries task ∧
        s'.loop.cancel task = (false, s'.loop)) ∧
    ∀ s', s.focus.IsFree → Steps ⟨(s.loop.startWaiter task).2, s.focus⟩ s' →
      (∀ e, s'.stand? s.loop.jobs.length = some (.ended e) →
        e = .interrupted ∨ ∃ d, e = .finished d ∧ s'.loop.outcome? task = some d) ∧
      ∀ d, s.loop.outcome? task = some d → ¬ s'.loop.Waits s.loop.jobs.length := by
  have hin := hr.inOrder
  refine ⟨(hin.books task).deliversOnce, ?_, ?_, ?_⟩
  · intro s' hs hne
    cases ho : s.loop.outcome? task with
    | none => rfl
    | some d => exact absurd (hs.delivered hin ho).2.2 hne
  · intro d s' ho hs
    obtain ⟨ho', hh, hd⟩ := Steps.delivered hs hin ho
    exact ⟨ho', hh, hd, Loop.cancel_of_delivered ho'⟩
  · intro s' hf hs
    have hin' := (hr.act hf (.await task)).inOrder
    have hlt : s.loop.jobs.length < (s.loop.startWaiter task).2.jobs.length := by
      simp [Loop.startWaiter]
    have hl : (⟨(s.loop.startWaiter task).2, s.focus⟩ : Scene).Listens s.loop.jobs.length task :=
      .start hf task
    constructor
    · intro e he
      obtain ⟨-, -, hl'⟩ := Steps.listens hs hin' hlt hl
      cases hl' with
      | yet h => exact absurd (he.symm.trans h) (by simp)
      | heard d _ h => exact absurd (he.symm.trans h) (by simp)
      | stopped h => exact absurd (he.symm.trans h) (by simp)
      | ended e' h hcase =>
        obtain rfl := Stand.ended.inj (Option.some.inj (he.symm.trans h))
        exact hcase
    · intro d ho
      have ho' : (s.loop.startWaiter task).2.outcome? task = some d := by
        rw [Loop.startWaiter, Loop.outcome?_spawn, ho]
      refine Steps.not_waits hs hin' hlt hl ho' ?_
      rintro ⟨j, hj, w, hw⟩
      rcases Loop.getElem?_spawn hj with hj | ⟨-, rfl⟩
      · exact absurd (List.getElem?_eq_some_iff.mp hj).1 (Nat.lt_irrefl _)
      · cases hw

/-- Work that ends with a result and whose callback fails, after everything has run. -/
def Loop.finishedWork : Loop := (Loop.ofWork { ending := .finished (.items []) } (some .fail)).settle

/-- A result that was delivered in spite of its callback, to whoever waits for it afterwards. -/
theorem result_delivered_once_after_failing_callback :
    let l := (Loop.finishedWork.startWaiter 0).2.settle
    Loop.finishedWork.handed 0 = [.items []] ∧ Loop.finishedWork.DeliversOnce 0 ∧
      l.outcome? 0 = some (.items []) ∧ l.cancel 0 = (false, l) ∧
      l.stand? 1 = some (.ended (.finished (.items []))) ∧ ¬ l.Waits 1 := by
  have hr : Reachable ⟨Loop.finishedWork, .idle⟩ := (Reachable.ofWork _ _).settle
  have ho : Loop.finishedWork.outcome? 0 = some (.items []) := by cbv
  have hwait := (Loop.settle_steps (Loop.finishedWork.startWaiter 0).2).steps
  have hrun := hwait.head (.act Loop.finishedWork .idle (.await 0) trivial)
  obtain ⟨honce, -, hlasts, hwaits⟩ := result_delivered_once hr 0
  obtain ⟨ho', -, -, hcancel⟩ := hlasts _ _ ho hrun
  exact ⟨by cbv, honce, ho', hcancel, by cbv, (hwaits _ trivial hwait).2 _ ho⟩

end Storefront
