import Storefront.Proofs.Lasting

/-! Waiting for a result. A task that waits for another one hears what was delivered and nothing
else, and a result that is there already keeps nobody waiting. -/
namespace Storefront

namespace Loop

def Waits (l : Loop) (task : Nat) : Prop := ∃ j, l.jobs[task]? = some j ∧ j.IsParked

/-- Two states between which no task begins to wait. -/
def Restless (l l' : Loop) : Prop := ∀ i, l'.Waits i → l.Waits i

theorem Restless.of_jobs {l l' : Loop} (h : l'.jobs = l.jobs) : l.Restless l' := by
  rintro i ⟨j, hj, hp⟩
  exact ⟨j, h ▸ hj, hp⟩

theorem Restless.trans {a b c : Loop} (h : a.Restless b) (h' : b.Restless c) : a.Restless c :=
  fun i hi => h i (h' i hi)

theorem Stirred.restless {l l' : Loop} (h : l.Stirred l') : l.Restless l' := by
  rintro i ⟨j', hj', hp⟩
  obtain ⟨j, hj, hs⟩ := h.job' hj'
  exact ⟨j, hj, hs.isParked hp⟩

theorem spawn_restless (l : Loop) (flow : Flow Delivery) (t : Option Ticket) :
    l.Restless (l.spawn flow t).2 := by
  rintro i ⟨j, hj, hp⟩
  rcases getElem?_spawn hj with hj | ⟨-, rfl⟩
  · exact ⟨j, hj, hp⟩
  · obtain ⟨w, hw⟩ := hp
    cases hw

theorem update_restless (l : Loop) (task : Nat) (f : Job → Job)
    (hf : ∀ j, (f j).IsParked → j.IsParked) : l.Restless (l.update task f) := by
  rintro i ⟨j, hj, hp⟩
  rw [getElem?_update] at hj
  split at hj
  · obtain ⟨k, hk, rfl⟩ := Option.map_eq_some_iff.mp hj
    exact ⟨k, hk, hf k hp⟩
  · exact ⟨j, hj, hp⟩

theorem deliver_restless (l : Loop) (task : Nat) (d : Delivery) : l.Restless (l.deliver task d) :=
  update_restless l task _ fun _ h => h

theorem act_restless (l : Loop) (a : Act) : l.Restless (l.act a) := by
  cases a with
  | cancel i => exact (cancel_stirred l i).restless
  | interrupt i => exact (interruptJob_stirred l i).restless
  | release gate => exact (release_stirred l gate).restless
  | start s => exact spawn_restless l _ _
  | await i => exact spawn_restless l _ _
  | note i seen => exact .of_jobs rfl
  | assign c => exact .of_jobs rfl
  | openSession => exact .of_jobs rfl
  | beginClose => exact .of_jobs rfl
  | finishClose => exact .of_jobs rfl
  | prepareReply p => exact .of_jobs rfl

end Loop

/-- A task begins to wait only while it takes a step, and for something that is not there yet. -/
theorem Step.waits {s s' : Scene} (hs : Step s s') {i : Nat} (hw : s'.loop.Waits i) :
    s.loop.Waits i ∨ ∃ w : Wait, s.focus = .running i w.flow ∧ s.loop.Holds w := by
  have hmore (h : s.loop.Restless s'.loop) :
      s.loop.Waits i ∨ ∃ w : Wait, s.focus = .running i w.flow ∧ s.loop.Holds w := .inl (h i hw)
  cases hs with
  | log l task line next => exact hmore (.of_jobs rfl)
  | client l task next => exact .inl hw
  | session l task next => exact hmore (.of_jobs rfl)
  | send l task place r next => exact hmore (.of_jobs rfl)
  | hear l task place r next => exact hmore (.of_jobs rfl)
  | call l task o next => exact hmore ((Loop.spawn_restless l _ _).trans (.of_jobs rfl))
  | join l task id next d hd => exact .inl hw
  | gate l task name stubborn next ho => exact .inl hw
  | park l task w hh =>
    obtain ⟨j, hj, hp⟩ := hw
    change (l.setPhase task (.parked w)).jobs[i]? = some j at hj
    rw [Loop.setPhase, Loop.getElem?_update] at hj
    split at hj
    · rename_i he
      exact .inr ⟨w, by rw [he], hh⟩
    · exact .inl ⟨j, hj, hp⟩
  | ending l task f e he =>
    have hrest : l.Restless (l.setPhase task (.ended e)) := by
      refine Loop.update_restless l task _ ?_
      rintro j ⟨w, hw⟩
      cases hw
    exact hmore (hrest.trans (.of_jobs (l.finish_jobs task e)))
  | resume l place task j f hr hj hf =>
    have hstir := Loop.pickUp_stirred (l.drop place) task j
    exact hmore ((Loop.Restless.of_jobs rfl : l.Restless (l.drop place)).trans hstir.restless)
  | complete l place task j t e hr hj hd hc =>
    have hann : l.Restless ((l.drop place).announce task t e) :=
      .of_jobs (Loop.announce_jobs (l.drop place) task t e)
    exact hmore (hann.trans (Loop.deliver_restless _ task _))
  | callback l place task j t e c hr hj hd hc =>
    exact hmore (.of_jobs (Loop.announce_jobs (l.drop place) task t e))
  | leave l task j t e c hj hd hc =>
    have hlog : l.Restless (l.record (.log task (Loop.callbackLine t))) := .of_jobs rfl
    refine hmore (Loop.afterCallback_cases (P := fun l' => l.Restless l') ?_ ?_ ?_)
    · intro _
      exact .of_jobs rfl
    · exact Loop.deliver_restless l task _
    · exact hlog.trans (Loop.deliver_restless _ task _)
  | relay l place waiter task hr =>
    have hstir := Loop.relay_stirred (l.drop place) waiter task
    exact hmore ((Loop.Restless.of_jobs rfl : l.Restless (l.drop place)).trans hstir.restless)
  | skip l place h hr hst => exact hmore (.of_jobs rfl)
  | act l f a hf => exact hmore (Loop.act_restless l a)

/-- Where a task can stand that waits for another one and does nothing else. -/
inductive Scene.Listens (s : Scene) (waiter task : Nat) : Prop where
  | yet (h : s.stand? waiter = some (.going (.join task .finish)))
  | heard (d : Delivery) (ho : s.loop.outcome? task = some d)
      (h : s.stand? waiter = some (.going (.finish d)))
  | stopped (h : s.stand? waiter = some (.going .interrupt))
  | ended (e : Ending) (h : s.stand? waiter = some (.ended e))
      (he : e = .interrupted ∨ ∃ d, e = .finished d ∧ s.loop.outcome? task = some d)

theorem Step.listens {s s' : Scene} (hs : Step s s') (h : s.InOrder) {waiter task : Nat}
    (hlt : waiter < s.loop.jobs.length) (hl : s.Listens waiter task) : s'.Listens waiter task := by
  have hturn := (hs.turns hlt).turn
  cases hl with
  | yet hσ =>
    obtain ⟨ds, σ', hσ', -, hm, -⟩ := hturn _ hσ
    cases hm with
    | rest => exact .yet hσ'
    | join _ _ d hd => exact .heard d (hs.delivered h hd).1 hσ'
    | interrupt => exact .stopped hσ'
    | ending _ e he => simp [Flow.ending?] at he
  | heard d ho hσ =>
    have ho' := (hs.delivered h ho).1
    obtain ⟨ds, σ', hσ', -, hm, -⟩ := hturn _ hσ
    cases hm with
    | rest => exact .heard d ho' hσ'
    | interrupt => exact .stopped hσ'
    | ending _ e he =>
      obtain rfl := Option.some.inj he
      exact .ended _ hσ' (.inr ⟨d, rfl, ho'⟩)
  | stopped hσ =>
    obtain ⟨ds, σ', hσ', -, hm, -⟩ := hturn _ hσ
    cases hm with
    | rest => exact .stopped hσ'
    | interrupt => exact .stopped hσ'
    | ending _ e he =>
      obtain rfl := Option.some.inj he
      exact .ended _ hσ' (.inl rfl)
  | ended e hσ he =>
    obtain ⟨ds, σ', hσ', -, hm, -⟩ := hturn _ hσ
    cases hm with
    | rest =>
      refine .ended e hσ' ?_
      rcases he with he | ⟨d, hd, ho⟩
      · exact .inl he
      · exact .inr ⟨d, hd, (hs.delivered h ho).1⟩

theorem Scene.Listens.start {l : Loop} {f : Focus} (hf : f.IsFree) (task : Nat) :
    (⟨(l.startWaiter task).2, f⟩ : Scene).Listens l.jobs.length task :=
  .yet ((Scene.stand?_of_free hf _ _).trans (l.spawn_stand? _ _))

/-- A task that waits for a result that is there goes on without a rest. -/
theorem Step.not_waits {s s' : Scene} (hs : Step s s') {waiter task : Nat} {d : Delivery}
    (hl : s.Listens waiter task) (ho : s.loop.outcome? task = some d)
    (hn : ¬ s.loop.Waits waiter) : ¬ s'.loop.Waits waiter := by
  intro hw
  rcases hs.waits hw with hw | ⟨w, hf, hh⟩
  · exact hn hw
  · have hσ : s.stand? waiter = some (.going w.flow) := by
      unfold Scene.stand?
      rw [hf]
      exact if_pos rfl
    have hflow {f : Flow Delivery} (h : s.stand? waiter = some (.going f)) : w.flow = f :=
      Stand.going.inj (Option.some.inj (hσ.symm.trans h))
    cases hl with
    | yet h =>
      have hj := hflow h
      cases w with
      | gate name stubborn next => cases hj
      | task id next =>
        obtain ⟨rfl, -⟩ := Flow.join.inj hj
        have hnone : s.loop.outcome? id = none := hh
        exact absurd (hnone.symm.trans ho) (by simp)
    | heard d' _ h =>
      have hj := hflow h
      cases w <;> cases hj
    | stopped h =>
      have hj := hflow h
      cases w <;> cases hj
    | ended e h => exact absurd (hσ.symm.trans h) (by simp)

/-- Whoever waits for a task listens to it for the rest of the run. -/
theorem Steps.listens {s s' : Scene} (hr : Steps s s') (h : s.InOrder) {waiter task : Nat}
    (hlt : waiter < s.loop.jobs.length) (hl : s.Listens waiter task) :
    s'.InOrder ∧ waiter < s'.loop.jobs.length ∧ s'.Listens waiter task := by
  induction hr with
  | refl => exact ⟨h, hlt, hl⟩
  | tail _ hs ih =>
    obtain ⟨hin, hlt', hl'⟩ := ih
    exact ⟨hs.inOrder hin, (hs.turns hlt').length, hs.listens hin hlt' hl'⟩

/-- A result that is there already keeps nobody waiting. -/
theorem Steps.not_waits {s s' : Scene} (hr : Steps s s') (h : s.InOrder) {waiter task : Nat}
    {d : Delivery} (hlt : waiter < s.loop.jobs.length) (hl : s.Listens waiter task)
    (ho : s.loop.outcome? task = some d) (hn : ¬ s.loop.Waits waiter) :
    ¬ s'.loop.Waits waiter := by
  induction hr with
  | refl => exact hn
  | tail hr hs ih =>
    obtain ⟨-, -, hl'⟩ := Steps.listens hr h hlt hl
    exact hs.not_waits hl' (Steps.delivered hr h ho).1 ih

end Storefront
