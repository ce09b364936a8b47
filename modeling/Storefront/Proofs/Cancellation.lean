import Storefront.Proofs.Compliance
import Storefront.Proofs.Delivered
import Storefront.Proofs.Openings

/-! What cancelling a task decides. Once a cancellation was accepted, the task ends by that and its
result says so, whatever was on its way to it; where none was accepted, the result is what the task
itself came to. -/
namespace Storefront

def Stand.Complies (broken : Prop) : Stand → Prop
  | .going f => f.Complies broken
  | .ended e => e = .interrupted → broken

theorem Turn.complies {l : Loop} {σ σ' : Stand} {ds : List Deed} (m : Turn l σ ds σ')
    (h : σ.Complies True) : σ'.Complies True := by
  cases m with
  | rest => exact h
  | log line next => exact h
  | client next => exact h l.client
  | session next v => exact h v
  | send place r next p =>
    have hnext : (next p.answer).Complies True := (h p.answer).mono fun _ => trivial
    change (p.answered next).Complies True
    unfold Reply.answered
    split
    · exact hnext
    · exact ⟨rfl, hnext⟩
  | hear place r next => exact h
  | call o next => exact fun d => h d.asTransport
  | join id next d hd => exact h d
  | gate name stubborn next => exact h.2
  | interrupt f => trivial
  | ending f e he => exact fun _ => trivial

theorem Step.complies {s s' : Scene} (hs : Step s s') {i : Nat} (hi : i < s.loop.jobs.length)
    (h : ∀ σ, s.stand? i = some σ → σ.Complies True) :
    ∀ σ, s'.stand? i = some σ → σ.Complies True := by
  intro σ hσ
  obtain ⟨τ, hτ⟩ := Scene.exists_stand? hi
  obtain ⟨ds, σ', hσ', -, hm, -⟩ := (hs.turns hi).turn τ hτ
  rw [← Option.some.inj (hσ'.symm.trans hσ)]
  exact hm.complies (h τ hτ)

theorem Steps.complies {s s' : Scene} (hr : Steps s s') {i : Nat} (hi : i < s.loop.jobs.length)
    (h : ∀ σ, s.stand? i = some σ → σ.Complies True) :
    ∀ σ, s'.stand? i = some σ → σ.Complies True := by
  induction hr with
  | refl => exact h
  | tail hr hs ih => exact hs.complies (Nat.lt_of_lt_of_le hi (Steps.length hr)) ih

theorem Scene.Opens.complies {s : Scene} {i : Nat} {st : Start} (h : s.Opens i st)
    (hst : st.Offered) : ∀ σ, s.stand? i = some σ → σ.Complies True := by
  intro σ hσ
  rw [← Option.some.inj (h.stand?.symm.trans hσ)]
  exact hst.complies.mono False.elim

/-! A task that was asked to end early -/

theorem Wait.resumed_interrupt {w : Wait} {b : Bool} (h : w.resumed b = .interrupt) :
    w.resumed true = .interrupt := by
  cases w with
  | gate name stubborn next =>
    cases stubborn with
    | true => exact h
    | false => rfl
  | task id next => rfl

theorem Wait.resumed_true {w : Wait} (h : w.flow.Complies True) : w.resumed true = .interrupt := by
  cases w with
  | gate name stubborn next =>
    obtain rfl : stubborn = false := h.1
    rfl
  | task id next => rfl

namespace Job

variable {j : Job}

theorem asked_next? (he : j.hasEnded = false) (hc : j.phase.stand.Complies True) :
    j.asked.next? = some .interrupt := by
  unfold asked
  cases hp : j.phase with
  | fresh f => simp [next?]
  | parked w =>
    rw [hp] at hc
    simp [next?, Wait.resumed_true hc]
  | woken w b =>
    rw [hp] at hc
    simp [next?, Wait.resumed_true hc]
  | ended e => simp [hasEnded, hp] at he

/-- Who was asked to end early can be asked again. -/
theorem asked_next?_of_next? (h : j.next? = some .interrupt) : j.asked.next? = some .interrupt := by
  unfold asked
  cases hp : j.phase with
  | fresh f => simp [next?]
  | parked w => simp [next?, hp] at h
  | woken w b =>
    have hw : w.resumed (b || j.cancelRequested) = .interrupt := by simpa [next?, hp] using h
    simp [next?, Wait.resumed_interrupt hw]
  | ended e => simp [next?, hp] at h

/-- Who gives up waiting ends early. -/
theorem next?_of_abandoned? {k : Nat} {f : Flow Delivery} (ha : j.abandoned? = some k)
    (hf : j.next? = some f) : f = .interrupt := by
  unfold abandoned? at ha
  split at ha
  · rename_i id next b hp
    split at ha
    · rename_i hb
      simp only [next?, hp, hb] at hf
      exact (Option.some.inj hf).symm
    · cases ha
  · cases ha

end Job

namespace Loop

variable {l : Loop} {i : Nat}

theorem interruptJob_accepted (h : (l.interruptJob i).1 = true) :
    ∃ j, l.jobs[i]? = some j ∧ j.hasEnded = false ∧
      (l.interruptJob i).2.jobs[i]? = some j.asked := by
  cases hj : l.jobs[i]? with
  | none => simp [interruptJob, hj] at h
  | some j =>
    refine ⟨j, rfl, ?_, ?_⟩
    · rw [interruptJob_accepts hj] at h
      simpa using h
    · rw [interruptJob_job i hj, if_pos rfl]

theorem cancel_accepted (h : (l.cancel i).1 = true) :
    ∃ j, l.jobs[i]? = some j ∧ j.hasEnded = false ∧ (l.cancel i).2.jobs[i]? = some j.asked := by
  unfold cancel at h ⊢
  split at h
  · cases h
  · rename_i ho
    rw [if_neg ho]
    exact interruptJob_accepted h

end Loop

/-- A task that has to end early: it was asked to and has not gone on yet, or it does so, or it has. -/
inductive Scene.Doomed (s : Scene) (i : Nat) : Prop where
  | called (j : Job) (hj : s.loop.jobs[i]? = some j) (hb : s.focus.task? ≠ some i)
      (hn : j.next? = some .interrupt)
  | stopping (hf : s.focus = .running i .interrupt)
  | stopped (h : s.stand? i = some (.ended .interrupted))

theorem Scene.Cancels.step {s s' : Scene} {i : Nat} (h : s.Cancels i s') : Step s s' := by
  cases h with
  | call l f hf h => exact .act l f _ hf
  | interrupt l f hf h => exact .act l f _ hf
  | wait l place waiter j f hr hj hf ha h => exact .resume l place waiter j f hr hj hf

/-- Whoever is asked to end early has to. -/
theorem Scene.Cancels.doomed {s s' : Scene} {i : Nat} (h : s.Cancels i s')
    (hc : ∀ σ, s.stand? i = some σ → σ.Complies True) : s'.Doomed i := by
  have hstand {j : Job} (hj : s.loop.jobs[i]? = some j) (hb : s.focus.task? ≠ some i) :
      j.phase.stand.Complies True := hc _ (Scene.stand?_of_job hj hb)
  cases h with
  | call l f hf h =>
    have hb : f.task? ≠ some i := by simp [hf.task?]
    obtain ⟨j, hj, he, hj'⟩ := Loop.cancel_accepted h
    exact .called j.asked hj' hb (Job.asked_next? he (hstand hj hb))
  | interrupt l f hf h =>
    have hb : f.task? ≠ some i := by simp [hf.task?]
    obtain ⟨j, hj, he, hj'⟩ := Loop.interruptJob_accepted h
    exact .called j.asked hj' hb (Job.asked_next? he (hstand hj hb))
  | wait l place waiter k f hr hk hf ha h =>
    -- a task may wait for itself, and then it is the one that goes on
    by_cases hw : waiter = i
    · subst hw
      obtain rfl := Job.next?_of_abandoned? ha hf
      exact .stopping rfl
    · obtain ⟨j, hj, he, hj'⟩ := Loop.cancel_accepted h
      rw [Loop.getElem?_update_ne _ _ hw] at hj
      refine .called j.asked ?_ (fun hb => hw (Option.some.inj hb))
        (Job.asked_next? he (hstand hj (by simp [Focus.task?])))
      change ((l.drop place).pickUp waiter k).jobs[i]? = _
      unfold Loop.pickUp
      dsimp only
      rw [ha]
      exact hj'

theorem Step.doomed {s s' : Scene} (hs : Step s s') {i : Nat} (hi : i < s.loop.jobs.length)
    (h : s.Doomed i) : s'.Doomed i := by
  cases h with
  | called j hj hb hn =>
    rcases hs.meets hj hb with ⟨hb', j', hj', hm⟩ | ⟨place, f, hf, rfl⟩
    · cases hm with
      | same => exact .called j hj' hb' hn
      | settled d => exact .called _ hj' hb' hn
      -- news calls back only who is parked, and such a task was not asked yet
      | called w hw => simp [Job.next?, hw] at hn
      | asked _ _ => exact .called _ hj' hb' (Job.asked_next?_of_next? hn)
    · obtain rfl := Option.some.inj (hf.symm.trans hn)
      exact .stopping rfl
  | stopping hf =>
    cases hs with
    | ending l task f e he =>
      obtain ⟨rfl, rfl⟩ := Focus.running.inj hf
      obtain rfl := Option.some.inj he
      exact .stopped ((l.finish_stand? task .interrupted hi).trans (if_pos rfl))
    | park l task w hw => cases w <;> cases hf
    | act l f a hfree =>
      cases hf
      exact hfree.elim
    | _ => cases hf
  | stopped hσ =>
    obtain ⟨ds, σ', hσ', -, hm, -⟩ := (hs.turns hi).turn _ hσ
    cases hm with
    | rest => exact .stopped hσ'

theorem Steps.doomed {s s' : Scene} (hr : Steps s s') {i : Nat} (hi : i < s.loop.jobs.length)
    (h : s.Doomed i) : s'.Doomed i := by
  have hrun : i < s'.loop.jobs.length ∧ s'.Doomed i := by
    induction hr with
    | refl => exact ⟨hi, h⟩
    | tail _ hs ih => exact ⟨(hs.turns ih.1).length, hs.doomed ih.1 ih.2⟩
  exact hrun.2

/-- A task that has to end early delivers nothing else than that it was cancelled. -/
theorem Scene.Doomed.delivered {s : Scene} {i : Nat} (h : s.Doomed i) (hin : s.InOrder)
    {d : Delivery} (ho : s.loop.outcome? i = some d) : s.loop.isCancelled i = true ∧
      ∃ t, s.loop.ticket? i = some t ∧ d = t.kind.failed (Loop.cancelledFailure t) := by
  obtain ⟨t, e, hd, -, -, -, ho'⟩ := (hin.books i).delivered (.inr (by simp [ho]))
  have hstand := hin.stand?_of_due? hd
  have hdel : d = Loop.deliveryOf t e := Option.some.inj (ho.symm.trans ho')
  cases h with
  | called j hj hb hn =>
    have hdue := Job.due?_of_next? hn
    rw [Loop.due?_eq hj, hdue] at hd
    cases hd
  | stopping hf =>
    have hdue := hin.running i .interrupt hf
    rw [hdue] at hd
    cases hd
  | stopped hσ =>
    obtain rfl := Stand.ended.inj (Option.some.inj (hstand.symm.trans hσ))
    exact ⟨Scene.isCancelled_of_stand? hσ, t, (Loop.ticket?_of_due? hd).1, hdel⟩

/-- When nothing is left to do, a task that had to end early has ended. -/
theorem Scene.Doomed.ended {s : Scene} {i : Nat} (h : s.Doomed i) (hr : Reachable s)
    (hidle : s.focus = .idle) (hempty : s.loop.ready = []) :
    s.stand? i = some (.ended .interrupted) := by
  cases h with
  | called j hj hb hn => cases hn.symm.trans (hr.next?_eq_none hj hidle hempty)
  | stopping hf => simp [hidle] at hf
  | stopped hσ => exact hσ

/-- When nothing is left to do, a task that has ended has delivered. -/
theorem Reachable.delivers {s : Scene} (hr : Reachable s) {i : Nat} {e : Ending}
    (hend : s.stand? i = some (.ended e)) {t : Ticket} (ht : s.loop.ticket? i = some t)
    (hc : t.callback ≠ some .abort) (hidle : s.focus = .idle) (hempty : s.loop.ready = []) :
    s.loop.outcome? i = some (Loop.deliveryOf t e) :=
  hr.inOrder.delivered (Scene.due?_of_stand? hend ht) hc (by simp [hempty]) (by simp [hidle])

/-- When nothing is left to do, a task that had to end early has delivered. -/
theorem Scene.Doomed.delivers {s : Scene} {i : Nat} (h : s.Doomed i) (hr : Reachable s) {t : Ticket}
    (ht : s.loop.ticket? i = some t) (hc : t.callback ≠ some .abort) (hidle : s.focus = .idle)
    (hempty : s.loop.ready = []) : ∃ d, s.loop.outcome? i = some d :=
  ⟨_, hr.delivers (h.ended hr hidle hempty) ht hc hidle hempty⟩

end Storefront
