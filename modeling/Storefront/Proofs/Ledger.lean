import Storefront.Proofs.Jobs

/-! The books of a task: its completion in the queue, the calls of its callback, its deliveries and
its outcome. They pass through four stages in one direction, so nothing is delivered twice. -/
namespace Storefront

/-- The result with which an event calls the callback of a task. -/
def Event.handed? (task : Nat) : Event → Option Delivery
  | .callback id d => if id = task then some d else none
  | _ => none

/-- The result that an event sets for a task. -/
def Event.delivered? (task : Nat) : Event → Option Delivery
  | .delivery id d => if id = task then some d else none
  | _ => none

/-- An event that belongs to no delivery. -/
def Event.IsPlain : Event → Prop
  | .callback _ _ => False
  | .delivery _ _ => False
  | _ => True

namespace Loop

/-- The results with which the callback of a task was called, in order. -/
def handed (l : Loop) (task : Nat) : List Delivery := l.trace.filterMap (Event.handed? task)

def deliveries (l : Loop) (task : Nat) : List Delivery := l.trace.filterMap (Event.delivered? task)

/-- How often the completion of a task is in the queue. -/
def pending (l : Loop) (task : Nat) : Nat := l.ready.count (.complete task)

def due? (l : Loop) (task : Nat) : Option (Ticket × Ending) := l.jobs[task]?.bind (·.due?)

/-- What the callback of a ticket is called with in the end. -/
def handedAtEnd (t : Ticket) (d : Delivery) : List Delivery := (t.callback.map fun _ => d).toList

/-- The stages of a delivery. -/
inductive Books (l : Loop) (task : Nat) : Prop where
  | open (due : l.due? task = none) (pending : l.pending task = 0) (handed : l.handed task = [])
      (deliveries : l.deliveries task = []) (outcome : l.outcome? task = none)
  | queued (t : Ticket) (e : Ending) (due : l.due? task = some (t, e))
      (pending : l.pending task = 1) (handed : l.handed task = [])
      (deliveries : l.deliveries task = []) (outcome : l.outcome? task = none)
  | called (t : Ticket) (e : Ending) (c : Callback) (due : l.due? task = some (t, e))
      (callback : t.callback = some c) (pending : l.pending task = 0)
      (handed : l.handed task = [deliveryOf t e]) (deliveries : l.deliveries task = [])
      (outcome : l.outcome? task = none)
  | settled (t : Ticket) (e : Ending) (due : l.due? task = some (t, e))
      (pending : l.pending task = 0) (handed : l.handed task = handedAtEnd t (deliveryOf t e))
      (deliveries : l.deliveries task = [deliveryOf t e])
      (outcome : l.outcome? task = some (deliveryOf t e))

/-- Nothing about the delivery of a task has changed. -/
structure SameBooks (task : Nat) (l l' : Loop) : Prop where
  due : l'.due? task = l.due? task
  pending : l'.pending task = l.pending task
  handed : l'.handed task = l.handed task
  deliveries : l'.deliveries task = l.deliveries task
  outcome : l'.outcome? task = l.outcome? task

namespace SameBooks

variable {task : Nat} {a b c : Loop}

theorem refl (task : Nat) (a : Loop) : SameBooks task a a := ⟨rfl, rfl, rfl, rfl, rfl⟩

theorem trans (h : SameBooks task a b) (h' : SameBooks task b c) : SameBooks task a c :=
  ⟨h'.due.trans h.due, h'.pending.trans h.pending, h'.handed.trans h.handed,
    h'.deliveries.trans h.deliveries, h'.outcome.trans h.outcome⟩

theorem books (h : SameBooks task a b) (hb : a.Books task) : b.Books task := by
  cases hb with
  | «open» hd hp hh hs ho =>
    exact .open (h.due ▸ hd) (h.pending ▸ hp) (h.handed ▸ hh) (h.deliveries ▸ hs) (h.outcome ▸ ho)
  | queued t e hd hp hh hs ho =>
    exact .queued t e (h.due ▸ hd) (h.pending ▸ hp) (h.handed ▸ hh) (h.deliveries ▸ hs)
      (h.outcome ▸ ho)
  | called t e c hd hc hp hh hs ho =>
    exact .called t e c (h.due ▸ hd) hc (h.pending ▸ hp) (h.handed ▸ hh) (h.deliveries ▸ hs)
      (h.outcome ▸ ho)
  | settled t e hd hp hh hs ho =>
    exact .settled t e (h.due ▸ hd) (h.pending ▸ hp) (h.handed ▸ hh) (h.deliveries ▸ hs)
      (h.outcome ▸ ho)

end SameBooks

theorem due?_of_stirred {l l' : Loop} (h : l.Stirred l') (i : Nat) : l'.due? i = l.due? i := by
  unfold due?
  cases hj' : l'.jobs[i]? with
  | none =>
    have hj : l.jobs[i]? = none := by
      rw [List.getElem?_eq_none_iff] at hj' ⊢
      rwa [← h.length]
    rw [hj]
  | some j' =>
    obtain ⟨j, hj, hs⟩ := h.job' hj'
    rw [hj]
    change j'.due? = j.due?
    unfold Job.due?
    rw [hs.ticket]
    rcases hs.phase with hp | ⟨w, b, hp, hp'⟩
    · rw [hp]
    · rw [hp, hp']
      cases j.ticket <;> rfl

theorem Stirred.sameBooks {l l' : Loop} (h : l.Stirred l') (task : Nat) : SameBooks task l l' where
  due := due?_of_stirred h task
  pending := by
    obtain ⟨hs, he, ht⟩ := h.ready
    unfold Loop.pending
    have hz : hs.count (.complete task) = 0 := by
      rw [List.count_eq_zero]
      intro hm
      obtain ⟨t, ht⟩ := ht _ hm
      exact absurd ht (by simp)
    rw [he, List.count_append, hz, Nat.add_zero]
  handed := by unfold Loop.handed; rw [h.trace]
  deliveries := by unfold Loop.deliveries; rw [h.trace]
  outcome := h.outcome? task

theorem record_sameBooks (l : Loop) (task : Nat) {e : Event} (he : e.IsPlain) :
    SameBooks task l (l.record e) where
  due := rfl
  pending := rfl
  handed := by
    cases e <;> first
      | exact absurd he id
      | simp [Loop.handed, Event.handed?]
  deliveries := by
    cases e <;> first
      | exact absurd he id
      | simp [Loop.deliveries, Event.delivered?]
  outcome := rfl

theorem spawn_sameBooks (l : Loop) (task : Nat) (flow : Flow Delivery) (t : Option Ticket) :
    SameBooks task l (l.spawn flow t).2 where
  due := by
    simp only [due?, spawn_jobs, List.getElem?_append]
    split
    · rfl
    · rename_i h
      rw [List.getElem?_eq_none (Nat.le_of_not_lt h)]
      cases task - l.jobs.length with
      | zero => cases t <;> rfl
      | succ n => rfl
  pending := by simp [Loop.pending]
  handed := rfl
  deliveries := rfl
  outcome := outcome?_spawn l flow t task

theorem announce_sameBooks (l : Loop) (task i : Nat) (t : Ticket) (e : Ending) :
    SameBooks task l (l.announce i t e) := by
  unfold announce
  split
  · exact record_sameBooks l task trivial
  · exact .refl task l

theorem pending_drop {l : Loop} {place : Nat} {h : Handle} (hr : l.ready[place]? = some h)
    (task : Nat) :
    l.pending task = (l.drop place).pending task + if h = .complete task then 1 else 0 := by
  unfold pending
  rw [← (drop_perm hr).count_eq, List.count_cons]
  simp only [beq_iff_eq]

theorem drop_sameBooks {l : Loop} (task : Nat) {place : Nat} {h : Handle}
    (hr : l.ready[place]? = some h) (hne : h ≠ .complete task) :
    SameBooks task l (l.drop place) where
  due := rfl
  pending := by rw [pending_drop hr task, if_neg hne, Nat.add_zero]
  handed := rfl
  deliveries := rfl
  outcome := rfl

theorem act_sameBooks (l : Loop) (task : Nat) (a : Act) : SameBooks task l (l.act a) := by
  cases a with
  | cancel i => exact (cancel_stirred l i).sameBooks task
  | interrupt i => exact (interruptJob_stirred l i).sameBooks task
  | start s => exact spawn_sameBooks l task _ _
  | await i => exact spawn_sameBooks l task _ _
  | note i seen => exact record_sameBooks l task trivial
  | release gate => exact (release_stirred l gate).sameBooks task
  | assign c => exact ⟨rfl, rfl, rfl, rfl, rfl⟩
  | openSession => exact ⟨rfl, rfl, rfl, rfl, rfl⟩
  | beginClose => exact ⟨rfl, rfl, rfl, rfl, rfl⟩
  | finishClose => exact ⟨rfl, rfl, rfl, rfl, rfl⟩
  | prepareReply p => exact ⟨rfl, rfl, rfl, rfl, rfl⟩

/-- A task that is at its end, or has nothing to deliver, is not due when it only waits. -/
theorem setPhase_sameBooks (l : Loop) (task i : Nat) (p : Phase) (hp : ∀ e, p ≠ .ended e)
    (hd : l.due? i = none) : SameBooks task l (l.setPhase i p) where
  due := by
    unfold due? at hd ⊢
    rw [setPhase, getElem?_update]
    split
    · rename_i h
      subst h
      rw [hd]
      cases l.jobs[i]? with
      | none => rfl
      | some j =>
        change ({ j with phase := p } : Job).due? = none
        unfold Job.due?
        split
        · rename_i e _ he
          exact absurd he (hp e)
        · rfl
    · rfl
  pending := rfl
  handed := rfl
  deliveries := rfl
  outcome := outcome?_setPhase l i task p

theorem park_sameBooks (l : Loop) (task i : Nat) (w : Wait) (hd : l.due? i = none) :
    SameBooks task l (l.park i w) := by
  have h := setPhase_sameBooks l task i (.parked w) (by simp) hd
  exact ⟨h.due, h.pending, h.handed, h.deliveries, h.outcome⟩

theorem finish_sameBooks (l : Loop) {task i : Nat} (e : Ending) (hne : i ≠ task) :
    SameBooks task l (l.finish i e) := by
  have h : SameBooks task l (l.setPhase i (.ended e)) :=
    ⟨by simp only [due?, setPhase, getElem?_update_ne l _ hne], rfl, rfl, rfl,
      outcome?_setPhase l i task _⟩
  have hpush : SameBooks task (l.setPhase i (.ended e))
      ((l.setPhase i (.ended e)).push (.complete i)) :=
    ⟨rfl, by simp [pending, hne], rfl, rfl, rfl⟩
  unfold finish
  dsimp only
  split
  · exact h.trans hpush
  · exact h

theorem hand_sameBooks (l : Loop) {task i : Nat} (d : Delivery) (hne : i ≠ task) :
    SameBooks task l (l.record (.callback i d)) where
  due := rfl
  pending := rfl
  handed := by simp [Loop.handed, Event.handed?, hne]
  deliveries := by simp [Loop.deliveries, Event.delivered?]
  outcome := rfl

theorem deliver_pending (l : Loop) (task i : Nat) (d : Delivery) :
    (l.deliver i d).pending task = l.pending task := by
  simp [pending, deliver, List.count_append, List.count_eq_zero]

theorem deliver_handed (l : Loop) (task i : Nat) (d : Delivery) :
    (l.deliver i d).handed task = l.handed task := by
  simp [handed, deliver, Event.handed?]

theorem deliver_sameBooks (l : Loop) {task i : Nat} (d : Delivery) (hne : i ≠ task) :
    SameBooks task l (l.deliver i d) where
  due := by simp only [due?, deliver, record_jobs, getElem?_update_ne l _ hne]
  pending := deliver_pending l task i d
  handed := deliver_handed l task i d
  deliveries := by simp [deliveries, deliver, Event.delivered?, hne]
  outcome := outcome?_deliver_ne l d hne

/-! The steps of a task's own delivery -/

/-- A task that ends and has a result to deliver puts its completion in the queue. -/
theorem finish_books {l : Loop} {task : Nat} (e : Ending) (hd : l.due? task = none)
    (hb : l.Books task) : (l.finish task e).Books task := by
  obtain ⟨-, hp, hh, hs, ho⟩ | ⟨t, e', hd', -⟩ | ⟨t, e', c, hd', -⟩ | ⟨t, e', hd', -⟩ := hb
  case queued => simp [hd] at hd'
  case called => simp [hd] at hd'
  case settled => simp [hd] at hd'
  have ho' : (l.setPhase task (.ended e)).outcome? task = none := by rwa [outcome?_setPhase]
  unfold finish
  dsimp only
  split
  · rename_i ht
    obtain ⟨t, ht⟩ := Option.isSome_iff_exists.mp ht
    obtain ⟨j, hj, hjt⟩ := Option.bind_eq_some_iff.mp ht
    refine .queued t e ?_ ?_ hh hs ho'
    · change ((l.setPhase task (.ended e)).jobs[task]?.bind _) = _
      rw [setPhase, getElem?_update_self, hj]
      simp [Job.due?, hjt]
    · simpa [pending, setPhase] using hp
  · rename_i ht
    refine .open ?_ hp hh hs ho'
    rw [Bool.not_eq_true, Option.isSome_eq_false_iff, Option.isNone_iff_eq_none] at ht
    change ((l.setPhase task (.ended e)).jobs[task]?.bind _) = _
    rw [setPhase, getElem?_update_self]
    cases hj : l.jobs[task]? with
    | none => rfl
    | some j =>
      rw [hj] at ht
      change j.ticket = none at ht
      simp [Job.due?, ht]

/-- The call of a callback takes the result of a task out of the queue. -/
theorem hand_books {l : Loop} {task : Nat} {t : Ticket} {e : Ending} {c : Callback}
    (hd : l.due? task = some (t, e)) (hc : t.callback = some c) (hp : l.pending task = 0)
    (hh : l.handed task = []) (hs : l.deliveries task = []) (ho : l.outcome? task = none) :
    (l.record (.callback task (deliveryOf t e))).Books task := by
  refine .called t e c hd hc hp ?_ ?_ ho
  · unfold handed at hh ⊢
    simp [hh, Event.handed?]
  · unfold deliveries at hs ⊢
    simp [hs, Event.delivered?]

theorem Books.handed_of_open {l : Loop} {task : Nat} (hb : l.Books task)
    (hd : l.due? task = none) : l.handed task = [] := by
  obtain ⟨-, -, hh, -⟩ | ⟨_, _, -, -, hh, -⟩ | ⟨_, _, _, hd', -⟩ | ⟨_, _, hd', -⟩ := hb
  · exact hh
  · exact hh
  · simp [hd] at hd'
  · simp [hd] at hd'

theorem deliver_deliveries (l : Loop) (task : Nat) (d : Delivery) :
    (l.deliver task d).deliveries task ≠ [] := by
  simp [deliveries, deliver, Event.delivered?]

/-- A delivery settles the books of a task whose callback, if it has one, was called. -/
theorem deliver_books {l : Loop} {task : Nat} {t : Ticket} {e : Ending}
    (hd : l.due? task = some (t, e)) (hp : l.pending task = 0)
    (hh : l.handed task = handedAtEnd t (deliveryOf t e)) (hs : l.deliveries task = []) :
    (l.deliver task (deliveryOf t e)).Books task := by
  obtain ⟨j, hj, hjd⟩ := Option.bind_eq_some_iff.mp hd
  refine .settled t e ?_ ?_ ?_ ?_ ?_
  · simp only [due?, deliver, record_jobs, getElem?_update_self, hj]
    exact hjd
  · rwa [deliver_pending]
  · rwa [deliver_handed]
  · simpa [deliveries, deliver, Event.delivered?] using hs
  · simp only [outcome?, deliver, record_jobs, getElem?_update_self, hj]
    rfl

end Loop

theorem Job.due?_of_next? {j : Job} {f : Flow Delivery} (h : j.next? = some f) :
    j.due? = none := by
  unfold Job.next? at h
  unfold Job.due?
  split at h
  · rename_i hp
    rw [hp]
    cases j.ticket <;> rfl
  · rename_i hp
    rw [hp]
    cases j.ticket <;> rfl
  · cases h

theorem Loop.due?_eq {l : Loop} {task : Nat} {j : Job} (hj : l.jobs[task]? = some j) :
    l.due? task = j.due? := by
  unfold Loop.due?
  rw [hj]
  rfl

/-- The books of all tasks are in order. A task that takes a step is not due, and a callback runs
between its call and the delivery; only one that aborts is left without a delivery. -/
structure Scene.InOrder (s : Scene) : Prop where
  books : ∀ task, s.loop.Books task
  running : ∀ task flow, s.focus = .running task flow → s.loop.due? task = none
  inside : ∀ task, s.focus = .inside task → s.loop.deliveries task = [] ∧ s.loop.handed task ≠ []
  left : ∀ task t e, s.loop.due? task = some (t, e) → s.loop.handed task ≠ [] →
    s.loop.deliveries task = [] → s.focus = .inside task ∨ t.callback = some .abort

namespace Scene.InOrder

theorem initial (c : Client) (owned : Bool) (server : Server) (keeper : CookieKeeper) :
    (Scene.initial c owned server keeper).InOrder where
  books _ := .open rfl rfl rfl rfl rfl
  running _ _ h := by cases h
  inside _ h := by cases h
  left _ _ _ h := by cases h

theorem same {s s' : Scene} (h : s.InOrder) (hs : ∀ i, Loop.SameBooks i s.loop s'.loop)
    (hr : ∀ task flow, s'.focus = .running task flow → s'.loop.due? task = none)
    (hi : ∀ task, s'.focus = .inside task ↔ s.focus = .inside task) : s'.InOrder where
  books task := (hs task).books (h.books task)
  running := hr
  inside task hf := by
    obtain ⟨hd, hh⟩ := h.inside task ((hi task).mp hf)
    rw [(hs task).deliveries, (hs task).handed]
    exact ⟨hd, hh⟩
  left task t e hd hh hs' := by
    rw [(hs task).due] at hd
    rw [(hs task).handed] at hh
    rw [(hs task).deliveries] at hs'
    rw [hi]
    exact h.left task t e hd hh hs'

/-- While a task goes on, its books are open. -/
theorem run {l l' : Loop} {task : Nat} {f f' : Flow Delivery}
    (h : InOrder ⟨l, .running task f⟩) (hs : ∀ i, Loop.SameBooks i l l') :
    InOrder ⟨l', .running task f'⟩ := by
  refine h.same hs ?_ (by simp)
  intro i g hf
  obtain ⟨rfl, -⟩ := Focus.running.inj hf
  exact ((hs task).due).trans (h.running task f rfl)

/-- After a change to the books of one task nothing is going on, or its callback. -/
theorem rest {l l' : Loop} {focus focus' : Focus} (h : InOrder ⟨l, focus⟩) (task : Nat)
    (hs : ∀ i, task ≠ i → Loop.SameBooks i l l') (hb : l'.Books task)
    (hf : ∀ i, focus = .inside i → i = task)
    (hf' : focus' = .idle ∧ (l'.handed task = [] ∨ l'.deliveries task ≠ []) ∨
      focus' = .inside task ∧ l'.deliveries task = [] ∧ l'.handed task ≠ []) :
    InOrder ⟨l', focus'⟩ where
  books i := by
    by_cases he : task = i
    · exact he ▸ hb
    · exact (hs i he).books (h.books i)
  running i f hr := by
    obtain ⟨rfl, -⟩ | ⟨rfl, -⟩ := hf' <;> cases hr
  inside i hi := by
    obtain ⟨rfl, -⟩ | ⟨rfl, hd, hh⟩ := hf'
    · cases hi
    · obtain rfl := Focus.inside.inj hi
      exact ⟨hd, hh⟩
  left i t e hd hh hs' := by
    by_cases he : task = i
    · subst he
      obtain ⟨-, h0 | h0⟩ | ⟨rfl, -⟩ := hf'
      · exact absurd h0 hh
      · exact absurd hs' h0
      · exact .inl rfl
    · have hsame := hs i he
      rcases h.left i t e (hsame.due ▸ hd) (hsame.handed ▸ hh) (hsame.deliveries ▸ hs') with hi | ha
      · exact absurd (hf i hi) (Ne.symm he)
      · exact .inr ha

/-- A completion in the queue belongs to a task that waits to be delivered. -/
theorem queued {l : Loop} {place task : Nat} (hb : l.Books task)
    (hr : l.ready[place]? = some (.complete task)) :
    (l.drop place).pending task = 0 ∧ l.handed task = [] ∧ l.deliveries task = [] ∧
      l.outcome? task = none := by
  have hp := Loop.pending_drop hr task
  rw [if_pos rfl] at hp
  obtain ⟨-, h0, -⟩ | ⟨t, e, -, h1, hh, hs, ho⟩ | ⟨t, e, c, -, -, h0, -⟩ | ⟨t, e, -, h0, -⟩ := hb
  · omega
  · exact ⟨by omega, hh, hs, ho⟩
  · omega
  · omega

end Scene.InOrder

theorem Scene.InOrder.called {l : Loop} {task : Nat} (h : InOrder ⟨l, .inside task⟩)
    {t : Ticket} {e : Ending} (hd : l.due? task = some (t, e)) :
    l.pending task = 0 ∧ l.handed task = [Loop.deliveryOf t e] ∧ l.deliveries task = [] ∧
      l.outcome? task = none := by
  obtain ⟨hs, hh⟩ := h.inside task rfl
  obtain ⟨hd', -⟩ | ⟨_, _, -, -, hh', -⟩ | ⟨t', e', _, hd', -, hp, hh', -, ho⟩ |
    ⟨_, _, -, -, -, hs', -⟩ := h.books task
  · simp [hd] at hd'
  · exact absurd hh' hh
  · obtain ⟨rfl, rfl⟩ := Prod.mk.inj (Option.some.inj (hd.symm.trans hd'))
    exact ⟨hp, hh', hs, ho⟩
  · simp [hs] at hs'

theorem Step.inOrder {s s' : Scene} (hs : Step s s') (h : s.InOrder) : s'.InOrder := by
  cases hs with
  | log l task line next => exact h.run fun i => Loop.record_sameBooks l i (by trivial)
  | client l task next => exact h.run fun i => .refl i l
  | session l task next => exact h.run fun i => ⟨rfl, rfl, rfl, rfl, rfl⟩
  | send l task place r next =>
    have hserver (i : Nat) : Loop.SameBooks i l { l with server := (l.server.take r).2 } :=
      ⟨rfl, rfl, rfl, rfl, rfl⟩
    exact h.run fun i => (hserver i).trans (Loop.record_sameBooks _ i (by trivial))
  | hear l task place r next => exact h.run fun i => ⟨rfl, rfl, rfl, rfl, rfl⟩
  | call l task o next =>
    exact h.run fun i => (Loop.spawn_sameBooks l i _ _).trans (Loop.record_sameBooks _ i (by trivial))
  | join l task id next d hd => exact h.run fun i => .refl i l
  | gate l task name stubborn next ho => exact h.run fun i => .refl i l
  | park l task w hw =>
    have hd := h.running task _ rfl
    exact h.same (fun i => Loop.park_sameBooks l i task w hd) (by simp) (by simp)
  | ending l task f e he =>
    have hd := h.running task _ rfl
    refine h.rest task (fun i hne => Loop.finish_sameBooks l e hne)
      (Loop.finish_books e hd (h.books task)) (by simp) (.inl ⟨rfl, .inl ?_⟩)
    have hhand : (l.finish task e).handed task = l.handed task := by
      simp only [Loop.handed, Loop.finish_trace]
    rw [hhand]
    exact (h.books task).handed_of_open hd
  | resume l place task j f hr hj hf =>
    have hstir := Loop.pickUp_stirred (l.drop place) task j
    have hbooks : ∀ i, Loop.SameBooks i l ((l.drop place).pickUp task j) := fun i =>
      (Loop.drop_sameBooks i hr (by simp)).trans (hstir.sameBooks i)
    refine h.same hbooks ?_ (by simp)
    intro i g hg
    obtain ⟨rfl, -⟩ := Focus.running.inj hg
    exact (hbooks task).due.trans ((Loop.due?_eq hj).trans (Job.due?_of_next? hf))
  | complete l place task j t e hr hj hd hc =>
    obtain ⟨hp, hh, hs, -⟩ := Scene.InOrder.queued (h.books task) hr
    have hann := Loop.announce_sameBooks (l.drop place) task task t e
    refine h.rest task (fun i hne => ?_) (Loop.deliver_books ?_ ?_ ?_ ?_) (by simp)
      (.inl ⟨rfl, .inr (Loop.deliver_deliveries _ task _)⟩)
    · have hne' : Handle.complete task ≠ .complete i := by simpa using hne
      exact ((Loop.drop_sameBooks i hr hne').trans (Loop.announce_sameBooks _ i task t e)).trans
        (Loop.deliver_sameBooks _ _ hne)
    · exact hann.due.trans ((Loop.due?_eq hj).trans hd)
    · exact hann.pending.trans hp
    · rw [hann.handed, Loop.handedAtEnd, hc]
      exact hh
    · exact hann.deliveries.trans hs
  | callback l place task j t e c hr hj hd hc =>
    obtain ⟨hp, hh, hs, ho⟩ := Scene.InOrder.queued (h.books task) hr
    have hann := Loop.announce_sameBooks (l.drop place) task task t e
    have hbooks := Loop.hand_books (hann.due.trans ((Loop.due?_eq hj).trans hd)) hc
      (hann.pending.trans hp) (hann.handed.trans hh) (hann.deliveries.trans hs)
      (hann.outcome.trans ho)
    refine h.rest task (fun i hne => ((Loop.drop_sameBooks i hr (by simpa using hne)).trans
      (Loop.announce_sameBooks _ i task t e)).trans (Loop.hand_sameBooks _ _ hne)) hbooks (by simp)
      (.inr ⟨rfl, ?_, ?_⟩)
    · have := hann.deliveries.trans hs
      unfold Loop.deliveries at this ⊢
      simp [this, Event.delivered?]
    · simp [Loop.handed, Event.handed?]
  | leave l task j t e c hj hd hc =>
    have hdue : l.due? task = some (t, e) := (Loop.due?_eq hj).trans hd
    obtain ⟨hp, hh, hs, ho⟩ := h.called hdue
    have hdeliver (l' : Loop) (hl : ∀ i, Loop.SameBooks i l l') :
        Scene.InOrder ⟨l'.deliver task (Loop.deliveryOf t e), .idle⟩ := by
      refine h.rest task (fun i hne => (hl i).trans (Loop.deliver_sameBooks _ _ hne))
        (Loop.deliver_books ((hl task).due.trans hdue) ((hl task).pending.trans hp) ?_
          ((hl task).deliveries.trans hs)) (fun i hi => (Focus.inside.inj hi).symm)
        (.inl ⟨rfl, .inr (Loop.deliver_deliveries _ task _)⟩)
      rw [(hl task).handed, hh, Loop.handedAtEnd, hc]
      rfl
    refine Loop.afterCallback_cases (P := fun l' => Scene.InOrder ⟨l', .idle⟩) ?_ ?_ ?_
    · rintro rfl
      refine ⟨h.books, by simp, by simp, ?_⟩
      intro i t' e' hd' hh' hs'
      rcases h.left i t' e' hd' hh' hs' with hi | ha
      · obtain rfl := Focus.inside.inj hi
        obtain ⟨rfl, -⟩ := Prod.mk.inj (Option.some.inj (hdue.symm.trans hd'))
        exact .inr hc
      · exact .inr ha
    · exact hdeliver l fun i => .refl i l
    · exact hdeliver _ fun i => Loop.record_sameBooks l i trivial
  | relay l place waiter task hr =>
    exact h.same (fun i => (Loop.drop_sameBooks i hr (by simp)).trans
      ((Loop.relay_stirred _ waiter task).sameBooks i)) (by simp) (by simp)
  | skip l place hd hr hst =>
    refine h.same (fun i => Loop.drop_sameBooks i hr ?_) (by simp) (by simp)
    rintro rfl
    have hp := Loop.pending_drop hr i
    rw [if_pos rfl] at hp
    have hdue : l.due? i = none := hst
    obtain ⟨-, h0, -⟩ | ⟨_, _, hd, -⟩ | ⟨_, _, _, hd, -⟩ | ⟨_, _, hd, -⟩ := h.books i
    · have h0' : l.pending i = 0 := h0
      omega
    all_goals simp [hdue] at hd
  | act l f a hf =>
    refine h.same (fun i => Loop.act_sameBooks l i a) ?_ (fun _ => .rfl)
    intro task flow hfo
    cases f <;> simp_all [Focus.IsFree]

end Storefront
