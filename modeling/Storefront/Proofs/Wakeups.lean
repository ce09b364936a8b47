import Storefront.Proofs.Jobs

/-! No wake-up is lost. A task that can go on has its next step in the queue, and a task that waits
for a result which has been delivered has the news in the queue. -/
namespace Storefront

namespace Loop

/-- Every task is where something will find it again. A handle in the hand was taken from the queue
and is being dealt with, and so is the next step of the busy task. -/
structure Tracked (l : Loop) (busy : Option Nat) (hand : List Handle) : Prop where
  queued : ∀ (i : Nat) (j : Job) (f : Flow Delivery), l.jobs[i]? = some j → j.next? = some f →
    busy ≠ some i → .resume i ∈ hand ++ l.ready
  waiting : ∀ (i : Nat) (j : Job), l.jobs[i]? = some j → j.IsParked → i ∈ l.waiting
  told : ∀ (i k : Nat) (j : Job) (next : Delivery → Flow Delivery) (d : Delivery),
    l.jobs[i]? = some j → j.phase = .parked (.task k next) → l.outcome? k = some d →
    .relay i k ∈ hand ++ l.ready

end Loop

theorem Job.not_parked_of_next? {j : Job} {f : Flow Delivery} (h : j.next? = some f) :
    ¬ j.IsParked := by
  rintro ⟨w, hw⟩
  simp [Job.next?, hw] at h

theorem Job.next?_of_phase {j j' : Job} (h : j'.phase = j.phase) (f : Flow Delivery)
    (hf : j'.next? = some f) : ∃ g, j.next? = some g := by
  unfold Job.next? at hf ⊢
  rw [h] at hf
  cases hp : j.phase with
  | fresh flow => exact ⟨_, rfl⟩
  | woken w b => exact ⟨_, rfl⟩
  | parked w => simp [hp] at hf
  | ended e => simp [hp] at hf

namespace Loop.Tracked

variable {l l' : Loop} {busy : Option Nat} {hand : List Handle}

/-- Nothing is lost when tasks are called back. -/
theorem stirred (h : l.Tracked busy hand) (hs : l.Stirred l') : l'.Tracked busy hand where
  queued i j' f hj' hf hb := by
    obtain ⟨j, hj, hjj⟩ := hs.job' hj'
    obtain ⟨hs', he, -⟩ := hs.ready
    rcases hjj.phase with hp | ⟨w, b, hw, -⟩
    · obtain ⟨g, hg⟩ := Job.next?_of_phase hp f hf
      rw [he, ← List.append_assoc]
      exact List.mem_append_left _ (h.queued i j g hj hg hb)
    · exact List.mem_append_right _
        (hs.woken i j j' hj hj' ⟨w, hw⟩ (Job.not_parked_of_next? hf))
  waiting i j' hj' hp := by
    obtain ⟨j, hj, hjj⟩ := hs.job' hj'
    exact hs.waiting i j' hj' hp (h.waiting i j hj (hjj.isParked hp))
  told i k j' next d hj' hp hd := by
    obtain ⟨j, hj, hjj⟩ := hs.job' hj'
    obtain ⟨hs', he, -⟩ := hs.ready
    have hp' : j.phase = .parked (.task k next) := by
      rcases hjj.phase with h | ⟨v, b, -, hv⟩
      · exact h.symm.trans hp
      · exact absurd (hv.symm.trans hp) (by simp)
    rw [he, ← List.append_assoc]
    exact List.mem_append_left _ (h.told i k j next d hj hp' (hs.outcome? k ▸ hd))

theorem of_eq (h : l.Tracked busy hand) (hj : l'.jobs = l.jobs) (hr : l'.ready = l.ready)
    (hw : l'.waiting = l.waiting) : l'.Tracked busy hand := by
  have ho (k : Nat) : l'.outcome? k = l.outcome? k := by simp only [outcome?, hj]
  refine ⟨?_, ?_, ?_⟩
  · rw [hj, hr]
    exact h.queued
  · rw [hj, hw]
    exact h.waiting
  · intro i k j next d hi hp hd
    rw [hr]
    exact h.told i k j next d (hj ▸ hi) hp (ho k ▸ hd)

theorem take {place : Nat} {t : Handle} (h : l.Tracked busy []) (hr : l.ready[place]? = some t) :
    (l.drop place).Tracked busy [t] where
  queued i j f hj hf hb := (drop_perm hr).mem_iff.mpr (h.queued i j f hj hf hb)
  waiting := h.waiting
  told i k j next d hj hp hd := (drop_perm hr).mem_iff.mpr (h.told i k j next d hj hp hd)

/-- A handle may leave the hand when no task needs it. -/
theorem let_go {t : Handle} (h : l.Tracked busy [t])
    (hq : ∀ (i : Nat) (j : Job) (f : Flow Delivery), t = .resume i → l.jobs[i]? = some j →
      j.next? = some f → busy = some i)
    (ht : ∀ (i k : Nat) (j : Job) (next : Delivery → Flow Delivery), t = .relay i k →
      l.jobs[i]? = some j → j.phase ≠ .parked (.task k next)) : l.Tracked busy [] where
  queued i j f hj hf hb := by
    rcases List.mem_cons.mp (h.queued i j f hj hf hb) with he | hm
    · exact absurd (hq i j f he.symm hj hf) hb
    · exact hm
  waiting := h.waiting
  told i k j next d hj hp hd := by
    rcases List.mem_cons.mp (h.told i k j next d hj hp hd) with he | hm
    · exact absurd hp (ht i k j next he.symm hj)
    · exact hm

theorem spawn (h : l.Tracked busy hand) (flow : Flow Delivery) (t : Option Ticket) :
    (l.spawn flow t).2.Tracked busy hand := by
  refine ⟨?_, ?_, ?_⟩
  · intro i j f hj hf hne
    rw [spawn_ready, ← List.append_assoc]
    rcases getElem?_spawn hj with hj | ⟨rfl, -⟩
    · exact List.mem_append_left _ (h.queued i j f hj hf hne)
    · exact List.mem_append_right _ (List.mem_singleton.mpr rfl)
  · intro i j hj hp
    rcases getElem?_spawn hj with hj | ⟨-, rfl⟩
    · exact h.waiting i j hj hp
    · obtain ⟨w, hw⟩ := hp
      cases hw
  · intro i k j next d hj hp hd
    rw [spawn_ready, ← List.append_assoc]
    rcases getElem?_spawn hj with hj | ⟨-, rfl⟩
    · exact List.mem_append_left _ (h.told i k j next d hj hp (outcome?_spawn l flow t k ▸ hd))
    · cases hp

/-- A busy task comes to rest in a phase that is found again. -/
theorem setPhase {task : Nat} {p : Phase} {ready : List Handle} {waiting : List Nat}
    (h : l.Tracked (some task) []) (hn : ∀ j : Job, ({ j with phase := p } : Job).next? = none)
    (hr : ∀ t ∈ l.ready, t ∈ ready) (hw : ∀ i ∈ l.waiting, i ∈ waiting)
    (hp : ∀ w, p = .parked w → task ∈ waiting ∧ l.Holds w) :
    ({ l.setPhase task p with ready, waiting } : Loop).Tracked none [] := by
  have hget {i : Nat} {j : Job} (hj : (l.setPhase task p).jobs[i]? = some j) :
      (task ≠ i ∧ l.jobs[i]? = some j) ∨ (task = i ∧ ∃ k : Job, j = { k with phase := p }) := by
    rw [Loop.setPhase, getElem?_update] at hj
    by_cases he : task = i
    · rw [if_pos he] at hj
      obtain ⟨k, -, hk⟩ := Option.map_eq_some_iff.mp hj
      exact .inr ⟨he, k, hk.symm⟩
    · rw [if_neg he] at hj
      exact .inl ⟨he, hj⟩
  have hout (k : Nat) (d : Delivery)
      (hd : ({ l.setPhase task p with ready, waiting } : Loop).outcome? k = some d) :
      l.outcome? k = some d := (outcome?_setPhase l task k p).symm.trans hd
  refine ⟨?_, ?_, ?_⟩
  · intro i j f hj hf _
    rcases hget hj with ⟨hne, hj⟩ | ⟨-, k, rfl⟩
    · exact hr _ (h.queued i j f hj hf (by simpa using hne))
    · exact absurd ((hn k).symm.trans hf) (by simp)
  · intro i j hj hpk
    rcases hget hj with ⟨-, hj⟩ | ⟨rfl, k, rfl⟩
    · exact hw i (h.waiting i j hj hpk)
    · obtain ⟨w, hw⟩ := hpk
      exact (hp w hw).1
  · intro i k j next d hj hpk hd
    rcases hget hj with ⟨-, hj⟩ | ⟨rfl, m, rfl⟩
    · exact hr _ (h.told i k j next d hj hpk (hout k d hd))
    · have hnone : l.outcome? k = none := (hp _ hpk).2
      exact absurd (hnone.symm.trans (hout k d hd)) (by simp)

/-- A delivery sends the news to every task that waits for it. -/
theorem deliver (h : l.Tracked busy []) (task : Nat) (d : Delivery) :
    (l.deliver task d).Tracked busy [] := by
  have hget {i : Nat} {j : Job} (hj : (l.deliver task d).jobs[i]? = some j) :
      ∃ k, l.jobs[i]? = some k ∧ j.phase = k.phase ∧ j.next? = k.next? := by
    change (l.update task _).jobs[i]? = some j at hj
    rw [getElem?_update] at hj
    split at hj
    · obtain ⟨k, hk, rfl⟩ := Option.map_eq_some_iff.mp hj
      exact ⟨k, hk, rfl, rfl⟩
    · exact ⟨j, hj, rfl, rfl⟩
  have hsub (t : Handle) (ht : t ∈ l.ready) : t ∈ (l.deliver task d).ready :=
    List.mem_append_left _ ht
  refine ⟨?_, ?_, ?_⟩
  · intro i j f hj hf hb
    obtain ⟨k, hk, -, hnext⟩ := hget hj
    exact hsub _ (h.queued i k f hk (hnext ▸ hf) hb)
  · intro i j hj hp
    obtain ⟨k, hk, hphase, -⟩ := hget hj
    obtain ⟨w, hw⟩ := hp
    exact h.waiting i k hk ⟨w, hphase ▸ hw⟩
  · intro i m j next d' hj hp hd
    obtain ⟨k, hk, hphase, -⟩ := hget hj
    by_cases he : m = task
    · subst he
      refine List.mem_append_right l.ready
        (List.mem_map.mpr ⟨i, List.mem_filter.mpr ⟨?_, ?_⟩, rfl⟩)
      · exact h.waiting i k hk ⟨_, hphase ▸ hp⟩
      · change ((l.deliver m d).jobs[i]?.map _).getD false = true
        rw [hj]
        simp [Job.waitsFor, hp]
    · have hd' : l.outcome? m = some d' := outcome?_deliver_ne l d (Ne.symm he) ▸ hd
      exact hsub _ (h.told i m k next d' hk (hphase ▸ hp) hd')

end Loop.Tracked

def Scene.Awake (s : Scene) : Prop := s.loop.Tracked s.focus.task? []

theorem Scene.Awake.initial (c : Client) (owned : Bool) (server : Server) (keeper : CookieKeeper) :
    (Scene.initial c owned server keeper).Awake where
  queued _ _ _ h := by simp [Scene.initial, Loop.ofClient] at h
  waiting _ _ h := by simp [Scene.initial, Loop.ofClient] at h
  told _ _ _ _ _ h := by simp [Scene.initial, Loop.ofClient] at h

theorem Loop.relay_told {l : Loop} {waiter task : Nat} {j : Job} {next : Delivery → Flow Delivery}
    (hj : (l.relay waiter task).jobs[waiter]? = some j) : j.phase ≠ .parked (.task task next) := by
  intro hp
  unfold Loop.relay at hj
  split at hj
  · unfold Loop.wake at hj
    split at hj
    · rename_i w _ _ _ hk
      change (l.setPhase waiter _).jobs[waiter]? = some j at hj
      rw [Loop.setPhase, Loop.getElem?_update_self, hk] at hj
      rw [← Option.some.inj hj] at hp
      cases hp
    · rename_i hne
      exact hne _ _ _ _ (by rw [hj, ← hp])
  · rename_i hw
    simp [hj, Job.waitsFor, hp] at hw

theorem Step.awake {s s' : Scene} (hs : Step s s') (h : s.Awake) : s'.Awake := by
  cases hs with
  | log l task line next => exact h.of_eq rfl rfl rfl
  | client l task next => exact h
  | session l task next => exact h.of_eq rfl rfl rfl
  | send l task place r next => exact h.of_eq rfl rfl rfl
  | hear l task place r next => exact h.of_eq rfl rfl rfl
  | call l task o next =>
    have hspawn : (l.startRequest o none).2.Tracked (some task) [] := Loop.Tracked.spawn h _ _
    exact hspawn.of_eq rfl rfl rfl
  | join l task id next d hd => exact h
  | gate l task name stubborn next ho => exact h
  | park l task w hw =>
    have h' : l.Tracked (some task) [] := h
    refine h'.setPhase (p := .parked w) (fun j => rfl) (fun t ht => ht)
      (fun i hi => List.mem_append_left _ hi) ?_
    intro v hv
    obtain rfl := Phase.parked.inj hv
    exact ⟨List.mem_append_right _ (List.mem_singleton.mpr rfl), hw⟩
  | ending l task f e he =>
    have h' : l.Tracked (some task) [] := h
    have hphase (ready : List Handle) (hr : ∀ t ∈ l.ready, t ∈ ready) :
        ({ l.setPhase task (.ended e) with ready } : Loop).Tracked none [] :=
      h'.setPhase (p := .ended e) (fun j => rfl) hr (fun i hi => hi) (fun w hw => by cases hw)
    change (l.finish task e).Tracked none []
    unfold Loop.finish
    dsimp only
    split
    · exact hphase (l.ready ++ [.complete task]) fun t ht => List.mem_append_left _ ht
    · exact hphase l.ready fun t ht => ht
  | resume l place task j f hr hj hf =>
    have h' : l.Tracked none [] := h
    have hstir := Loop.pickUp_stirred (l.drop place) task j
    have hbusy : (l.drop place).Tracked (some task) [.resume task] :=
      { h'.take hr with queued := fun i k g hk hg _ => (h'.take hr).queued i k g hk hg (by simp) }
    refine (hbusy.stirred hstir).let_go ?_ ?_
    · intro i k g he _ _
      rw [Handle.resume.inj he]
    · intro i k _ _ he
      cases he
  | complete l place task j t e hr hj hd hc =>
    have h' : l.Tracked none [] := h
    have hdrop : (l.drop place).Tracked none [] := (h'.take hr).let_go (by simp) (by simp)
    have hann : ((l.drop place).announce task t e).Tracked none [] :=
      hdrop.of_eq (Loop.announce_jobs _ task t e) (Loop.announce_ready _ task t e)
        (Loop.announce_waiting _ task t e)
    exact hann.deliver task _
  | callback l place task j t e c hr hj hd hc =>
    have h' : l.Tracked none [] := h
    have hdrop : (l.drop place).Tracked none [] := (h'.take hr).let_go (by simp) (by simp)
    exact hdrop.of_eq (Loop.announce_jobs _ task t e) (Loop.announce_ready _ task t e)
        (Loop.announce_waiting _ task t e)
  | leave l task j t e c hj hd hc =>
    have h' : l.Tracked none [] := h
    have hlog : (l.record (.log task (Loop.callbackLine t))).Tracked none [] := h'.of_eq rfl rfl rfl
    exact Loop.afterCallback_cases (P := fun l' => l'.Tracked none []) (fun _ => h')
      (h'.deliver task _) (hlog.deliver task _)
  | relay l place waiter task hr =>
    have h' : l.Tracked none [] := h
    have hstir := Loop.relay_stirred (l.drop place) waiter task
    refine ((h'.take hr).stirred hstir).let_go (by simp) ?_
    intro i k j next he hj
    obtain ⟨rfl, rfl⟩ := Handle.relay.inj he
    exact Loop.relay_told hj
  | skip l place t hr hst =>
    have h' : l.Tracked none [] := h
    refine (h'.take hr).let_go ?_ ?_
    · rintro i j f rfl hj hf
      have hstale : l.jobs[i]?.bind (·.next?) = none := hst
      have hj' : l.jobs[i]? = some j := hj
      rw [hj'] at hstale
      exact absurd (hstale.symm.trans hf) (by simp)
    · rintro i k j next rfl
      exact absurd hst (by simp [Loop.Stale])
  | act l f a hf =>
    have h' : l.Tracked f.task? [] := h
    change (l.act a).Tracked f.task? []
    cases a with
    | cancel task => exact h'.stirred (Loop.cancel_stirred l task)
    | interrupt task => exact h'.stirred (Loop.interruptJob_stirred l task)
    | release gate => exact h'.stirred (Loop.release_stirred l gate)
    | start s => exact h'.spawn _ _
    | await task => exact h'.spawn _ _
    | note task seen => exact h'.of_eq rfl rfl rfl
    | assign c => exact h'.of_eq rfl rfl rfl
    | openSession => exact h'.of_eq rfl rfl rfl
    | beginClose => exact h'.of_eq rfl rfl rfl
    | finishClose => exact h'.of_eq rfl rfl rfl
    | prepareReply p => exact h'.of_eq rfl rfl rfl

theorem Reachable.awake {s : Scene} (h : Reachable s) : s.Awake :=
  h.invariant Scene.Awake.initial fun _ _ hs => hs.awake

/-- When nothing is left to do, no task can go on. -/
theorem Reachable.next?_eq_none {s : Scene} (hr : Reachable s) {i : Nat} {j : Job}
    (hj : s.loop.jobs[i]? = some j) (hidle : s.focus = .idle) (hempty : s.loop.ready = []) :
    j.next? = none := by
  rw [Option.eq_none_iff_forall_ne_some]
  intro f hf
  have hmem := hr.awake.queued i j f hj hf (by simp [hidle, Focus.task?])
  simp [hempty] at hmem

/-- Then every task has ended or waits. -/
theorem Reachable.rests {s : Scene} (hr : Reachable s) {i : Nat} {j : Job}
    (hj : s.loop.jobs[i]? = some j) (hidle : s.focus = .idle) (hempty : s.loop.ready = []) :
    (∃ e, j.phase = .ended e) ∨ ∃ w, j.phase = .parked w := by
  have hnone := hr.next?_eq_none hj hidle hempty
  unfold Job.next? at hnone
  cases hp : j.phase with
  | fresh f => simp [hp] at hnone
  | woken w b => simp [hp] at hnone
  | ended e => exact .inl ⟨e, rfl⟩
  | parked w => exact .inr ⟨w, rfl⟩

end Storefront
