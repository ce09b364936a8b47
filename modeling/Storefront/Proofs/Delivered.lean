import Storefront.Proofs.Awaiting
import Storefront.Proofs.Runs
import Storefront.Proofs.Wakeups

/-! No result is lost. Once the completion of a task has been dealt with, its result is there, whether
or not its callback failed, and everyone who waits for it has it or is called back to get it. -/
namespace Storefront

/-- A task takes its next step, or that step or the news that leads to it is in the queue. -/
def Scene.Calls (s : Scene) (waiter task : Nat) : Prop :=
  s.focus.task? = some waiter ∨ .resume waiter ∈ s.loop.ready ∨ .relay waiter task ∈ s.loop.ready

/-- A task that can go on when nobody takes a step has its next step in the queue. -/
theorem Scene.Awake.calls {s : Scene} (ha : s.Awake) {waiter task : Nat} {j : Job}
    {f : Flow Delivery} (hj : s.loop.jobs[waiter]? = some j) (hf : j.next? = some f) :
    s.Calls waiter task := by
  by_cases hb : s.focus.task? = some waiter
  · exact .inl hb
  · exact .inr (.inl (ha.queued waiter j f hj hf hb))

/-- Whoever listens to a task that has delivered has the result, or was cancelled, or is called. -/
theorem Scene.Listens.hears {s : Scene} {waiter task : Nat} {d : Delivery}
    (hl : s.Listens waiter task) (ha : s.Awake) (ho : s.loop.outcome? task = some d) :
    s.stand? waiter = some (.ended (.finished d)) ∨ s.stand? waiter = some (.ended .interrupted) ∨
      s.Calls waiter task := by
  by_cases hb : s.focus.task? = some waiter
  · exact .inr (.inr (.inl hb))
  have hgoing (f : Flow Delivery) (hσ : s.stand? waiter = some (.going f))
      (hw : ∀ w : Wait, w.flow = f → w = .task task .finish) : s.Calls waiter task := by
    obtain ⟨j, hj, hp⟩ := Scene.job_of_stand? hσ hb
    cases hphase : j.phase with
    | fresh g => exact ha.calls hj (by rw [Job.next?, hphase])
    | woken w b => exact ha.calls hj (by rw [Job.next?, hphase])
    | ended e =>
      rw [hphase] at hp
      cases hp
    | parked w =>
      rw [hphase] at hp
      rw [hw w (Stand.going.inj hp)] at hphase
      exact .inr (.inr (ha.told waiter task j _ d hj hphase ho))
  cases hl with
  | yet h =>
    refine .inr (.inr (hgoing _ h ?_))
    intro w hw
    cases w with
    | gate name stubborn next => cases hw
    | task id next =>
      obtain ⟨rfl, rfl⟩ := Flow.join.inj hw
      rfl
  | heard d' _ h =>
    refine .inr (.inr (hgoing _ h ?_))
    intro w hw
    cases w <;> cases hw
  | stopped h =>
    refine .inr (.inr (hgoing _ h ?_))
    intro w hw
    cases w <;> cases hw
  | ended e h he =>
    rcases he with rfl | ⟨d', rfl, ho'⟩
    · exact .inr (.inl h)
    · rw [Option.some.inj (ho'.symm.trans ho)] at h
      exact .inl h

/-- A task whose completion has been dealt with has delivered, unless its callback aborted. -/
theorem Scene.InOrder.delivered {s : Scene} (h : s.InOrder) {task : Nat} {t : Ticket} {e : Ending}
    (hd : s.loop.due? task = some (t, e)) (hc : t.callback ≠ some .abort)
    (hq : .complete task ∉ s.loop.ready) (hi : s.focus ≠ .inside task) :
    s.loop.outcome? task = some (Loop.deliveryOf t e) := by
  have h0 : s.loop.pending task = 0 := List.count_eq_zero.mpr hq
  have hsame {t' : Ticket} {e' : Ending} (hd' : s.loop.due? task = some (t', e')) :
      t' = t ∧ e' = e := Prod.mk.inj (Option.some.inj (hd'.symm.trans hd))
  obtain ⟨hd', -⟩ | ⟨_, _, -, h1, -⟩ | ⟨t', e', c, hd', hc', -, hh, hs, -⟩ |
    ⟨t', e', hd', -, -, -, ho⟩ := h.books task
  · exact absurd (hd'.symm.trans hd) (by simp)
  · omega
  · rcases h.left task t' e' hd' (by simp [hh]) hs with hin | ha
    · exact absurd hin hi
    · exact absurd ((hsame hd').1 ▸ ha) hc
  · obtain ⟨rfl, rfl⟩ := hsame hd'
    exact ho

/-- A step delivers nothing for a task whose callback aborts. -/
theorem Scene.Notes.delivers_none {s : Scene} {es : List Event} (h : s.Notes es) {task : Nat}
    (habort : ∀ t e, s.loop.due? task = some (t, e) → t.callback = some .abort) :
    es.filterMap (Event.delivered? task) = [] := by
  cases h with
  | nothing => rfl
  | other e hp hl => cases e <;> first | rfl | cases hp
  | line id line next hf => rfl
  | closing id t e last hq hd hlast =>
    have hlines : ((Loop.endingLine? t e).toList.map (Event.log id)).filterMap
        (Event.delivered? task) = [] := by
      cases Loop.endingLine? t e <;> rfl
    rw [List.filterMap_append, hlines, List.nil_append]
    rcases hlast with ⟨hc, rfl⟩ | ⟨-, rfl⟩
    · by_cases he : id = task
      · subst he
        exact absurd ((habort t e hd).symm.trans hc) (by simp)
      · simp [Event.delivered?, he]
    · rfl
  | leaving id t e c hf hd hc hends =>
    by_cases he : id = task
    · subst he
      exact absurd (Option.some.inj (hc.symm.trans (habort t e hd))) hends
    · split <;> simp [Event.delivered?, he]

/-- Nothing has been delivered for a task whose callback aborts. -/
def Loop.Withholds (l : Loop) : Prop :=
  ∀ task t e, l.due? task = some (t, e) → t.callback = some .abort → l.deliveries task = []

theorem Step.withholds {s s' : Scene} (hs : Step s s') (hin : s.InOrder) (h : s.loop.Withholds) :
    s'.loop.Withholds := by
  intro task t e hd hc
  obtain ⟨es, hes, hnotes⟩ := hs.notes
  have hticket (t₀ : Ticket) (e₀ : Ending) (hd₀ : s.loop.due? task = some (t₀, e₀)) :
      t₀.callback = some .abort := by
    obtain ⟨ht₀, hlt⟩ := Loop.ticket?_of_due? hd₀
    have ht := (Loop.ticket?_of_due? hd).1
    rw [(hs.turns hlt).ticket, ht₀] at ht
    rw [Option.some.inj ht, hc]
  have hbefore : s.loop.deliveries task = [] := by
    cases hd₀ : s.loop.due? task with
    | some x => exact h task x.1 x.2 hd₀ (hticket x.1 x.2 hd₀)
    | none =>
      by_contra hne
      obtain ⟨_, _, hd', -⟩ := (hin.books task).delivered (.inl hne)
      exact absurd (hd'.symm.trans hd₀) (by simp)
  rw [Loop.deliveries, hes, List.filterMap_append, hnotes.delivers_none hticket, List.append_nil]
  exact hbefore

theorem Reachable.withholds {s : Scene} (hr : Reachable s) : s.loop.Withholds := by
  refine (hr.invariant (P := fun s => s.InOrder ∧ s.loop.Withholds) ?_ ?_).2
  · intro c owned server keeper
    exact ⟨.initial c owned server keeper, fun _ _ _ h => by cases h⟩
  · intro s s' hs h
    exact ⟨hs.inOrder h.1, hs.withholds h.1 h.2⟩

/-- Who waits for a task without an outcome has no result. -/
theorem Scene.Listens.not_finished {s : Scene} {waiter task : Nat} (hl : s.Listens waiter task)
    (ho : s.loop.outcome? task = none) (d : Delivery) :
    s.stand? waiter ≠ some (.ended (.finished d)) := by
  intro h
  cases hl with
  | yet h' => cases h'.symm.trans h
  | heard _ _ h' => cases h'.symm.trans h
  | stopped h' => cases h'.symm.trans h
  | ended e h' he =>
    cases h'.symm.trans h
    rcases he with he | ⟨d', he, ho'⟩
    · cases he
    · exact absurd (ho'.symm.trans ho) (by simp)

/-- The place of someone who waits for a task from the start on. -/
theorem Reachable.listens {l : Loop} {f : Focus} (hl : Reachable ⟨l, f⟩) (hf : f.IsFree) {task : Nat}
    {s : Scene} (hs : Steps ⟨(l.startWaiter task).2, f⟩ s) : s.Listens l.jobs.length task := by
  have hlt : l.jobs.length < (l.startWaiter task).2.jobs.length := by simp [Loop.startWaiter]
  exact (Steps.listens hs (hl.act hf (.await task)).inOrder hlt (.start hf task)).2.2

/-- A callback that aborts keeps the result of its task from everyone for good. -/
theorem Reachable.no_outcome {s : Scene} (hr : Reachable s) {task : Nat} {t : Ticket} {e : Ending}
    (hd : s.loop.due? task = some (t, e)) (hc : t.callback = some .abort) :
    s.loop.outcome? task = none := by
  by_contra hne
  obtain ⟨_, _, -, -, -, hdone, -⟩ := (hr.inOrder.books task).delivered (.inr hne)
  exact absurd (hr.withholds task t e hd hc) (by simp [hdone])

/-- Whatever a task ends with, and whether or not its callback raises an error: once its completion
has been dealt with, its result is there for good, and everyone who waits for it and is not cancelled
has it or is called back; when nothing is left to do, they all have it. A callback that raises what
is no error keeps the result from all of them, however the run goes on. -/
theorem ended_task_delivers {s : Scene} (hr : Reachable s) {task : Nat} {t : Ticket} {e : Ending}
    (hd : s.loop.due? task = some (t, e)) (hq : .complete task ∉ s.loop.ready)
    (hi : s.focus ≠ .inside task) :
    (t.callback ≠ some .abort →
      s.loop.outcome? task = some (Loop.deliveryOf t e) ∧
      (∀ s', Steps s s' → s'.loop.outcome? task = some (Loop.deliveryOf t e)) ∧
      ∀ l f, Reachable ⟨l, f⟩ → f.IsFree → Steps ⟨(l.startWaiter task).2, f⟩ s →
        s.loop.isCancelled l.jobs.length = false →
        (s.stand? l.jobs.length = some (.ended (.finished (Loop.deliveryOf t e))) ∨
          s.Calls l.jobs.length task) ∧
        (s.focus = .idle → s.loop.ready = [] →
          s.stand? l.jobs.length = some (.ended (.finished (Loop.deliveryOf t e))))) ∧
    (t.callback = some .abort →
      ∀ s', Steps s s' → s'.loop.outcome? task = none ∧
        ∀ l f, Reachable ⟨l, f⟩ → f.IsFree → Steps ⟨(l.startWaiter task).2, f⟩ s' →
          ∀ d, s'.stand? l.jobs.length ≠ some (.ended (.finished d))) := by
  have hin := hr.inOrder
  constructor
  · intro hc
    have ho := hin.delivered hd hc hq hi
    refine ⟨ho, fun s' hs => (Steps.delivered hs hin ho).1, ?_⟩
    intro l f hl hf hs hn
    have hn' : s.stand? l.jobs.length ≠ some (.ended .interrupted) := fun h =>
      absurd (Scene.isCancelled_of_stand? h) (by simp [hn])
    have hhears := (hl.listens hf hs).hears hr.awake ho
    constructor
    · rcases hhears with h | h | h
      · exact .inl h
      · exact absurd h hn'
      · exact .inr h
    · intro hidle hempty
      rcases hhears with h | h | h | h | h
      · exact h
      · exact absurd h hn'
      · simp [hidle, Focus.task?] at h
      · simp [hempty] at h
      · simp [hempty] at h
  · intro hc s' hs
    have hσ := Steps.ended hs (Loop.ticket?_of_due? hd).2 (hin.stand?_of_due? hd)
    have htick := Loop.ticket?_of_due? hd
    have hd' := Scene.due?_of_stand? hσ ((Steps.ticket? hs htick.2).trans htick.1)
    have ho := (hr.trans hs).no_outcome hd' hc
    exact ⟨ho, fun l f hl hf hs' => (hl.listens hf hs').not_finished ho⟩

def Loop.faultyWork : Loop :=
  ((Loop.ofWork { ending := .escaped (.inl ⟨.runtime, "boom"⟩) } (some .fail)).startWaiter 0).2

/-- Work that ends with a result, with someone who waits for it. -/
def Loop.awaitedWork (callback : Option Callback) : Loop :=
  ((Loop.ofWork { ending := .finished (.items []) } callback).startWaiter 0).2

/-- Whoever waited for work that failed has its failure. -/
theorem ended_task_delivers_after_failing_callback :
    let t : Ticket := ⟨"request", .items, some .fail⟩
    let e : Ending := .escaped (.inl ⟨.runtime, "boom"⟩)
    Loop.faultyWork.settle.due? 0 = some (t, e) ∧
      Loop.faultyWork.settle.outcome? 0 = some (Loop.deliveryOf t e) ∧
      (⟨Loop.faultyWork.settle, .idle⟩ : Scene).stand? 1 =
        some (.ended (.finished (Loop.deliveryOf t e))) := by
  intro t e
  have hl : Reachable ⟨.ofWork { ending := e } (some .fail), .idle⟩ := Reachable.ofWork _ _
  have hr : Reachable ⟨Loop.faultyWork.settle, .idle⟩ :=
    (hl.act trivial (.await 0) : Reachable ⟨Loop.faultyWork, .idle⟩).settle
  have hs := Loop.faultyWork.settle_steps.steps
  have hd : Loop.faultyWork.settle.due? 0 = some (t, e) := by cbv
  have hready : Loop.faultyWork.settle.ready = [] := by cbv
  have hq : .complete 0 ∉ Loop.faultyWork.settle.ready := by
    rw [hready]
    exact List.not_mem_nil
  have hgoes : Loop.faultyWork.settle.isCancelled 1 = false := by cbv
  obtain ⟨ho, -, hwaits⟩ := (ended_task_delivers hr hd hq (by simp)).1 (by simp [t])
  exact ⟨hd, ho, (hwaits _ .idle hl trivial hs hgoes).2 rfl hready⟩

/-- Work that ends with a result, after whoever waited for it was cancelled. -/
def Loop.abandonedWork : Loop := ((Loop.awaitedWork none).interruptJob 1).2.settle

def Loop.abortedWork : Loop := (Loop.awaitedWork (some .abort)).settle

/-- Whoever is cancelled while it waits does not get the result, though it is delivered. -/
theorem cancelled_waiter_gets_no_result :
    Reachable ⟨Loop.abandonedWork, .idle⟩ ∧ Loop.abandonedWork.outcome? 0 = some (.items []) ∧
      (⟨Loop.abandonedWork, .idle⟩ : Scene).stand? 1 = some (.ended .interrupted) := by
  have hcut : Reachable ⟨((Loop.awaitedWork none).interruptJob 1).2, .idle⟩ :=
    ((Reachable.ofWork _ none).act trivial (.await 0)).act trivial (.interrupt 1)
  exact ⟨hcut.settle, by cbv, by cbv⟩

/-- Where a callback aborts, the result is handed to it and delivered to nobody, and whoever waits
goes on waiting when nothing is left to do. -/
theorem aborting_callback_withholds_result :
    Reachable ⟨Loop.abortedWork, .idle⟩ ∧
      Loop.abortedWork.due? 0 = some (⟨"request", .items, some .abort⟩, .finished (.items [])) ∧
      Loop.abortedWork.handed 0 = [.items []] ∧ Loop.abortedWork.ready = [] ∧
      Loop.abortedWork.outcome? 0 = none ∧ Loop.abortedWork.Waits 1 := by
  have hstart : Reachable ⟨Loop.awaitedWork (some .abort), .idle⟩ :=
    (Reachable.ofWork _ (some .abort)).act trivial (.await 0)
  have hphase : Loop.abortedWork.jobs[1]?.map (·.phase) = some (.parked (.task 0 .finish)) := by cbv
  obtain ⟨j, hj, hp⟩ := Option.map_eq_some_iff.mp hphase
  exact ⟨hstart.settle, by cbv, by cbv, by cbv, by cbv, j, hj, _, hp⟩

end Storefront
