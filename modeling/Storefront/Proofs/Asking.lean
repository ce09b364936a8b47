import Storefront.Proofs.Jobs

/-! What becomes of a task in steps that it does not take. Others can settle its result, call it back,
or ask it to end early; nothing else happens to it, and it is asked only where somebody cancels it. -/
namespace Storefront

/-- A task after it was asked to end early. -/
def Job.asked (j : Job) : Job :=
  match j.phase with
  | .ended _ => j
  | .parked w => { j with phase := .woken w true }
  | _ => { j with cancelRequested := true }

/-- What can become of a task in a step of others. -/
inductive Job.Meets (asked : Prop) (j : Job) : Job → Prop where
  | same : Meets asked j j
  | settled (d : Delivery) : Meets asked j { j with outcome := some d }
  | called (w : Wait) (h : j.phase = .parked w) : Meets asked j { j with phase := .woken w false }
  | asked (h : asked) (he : j.hasEnded = false) : Meets asked j j.asked

namespace Loop

/-- The same of a task in a loop. -/
def Meets (asked : Prop) (i : Nat) (l l' : Loop) : Prop :=
  ∀ j, l.jobs[i]? = some j → ∃ j', l'.jobs[i]? = some j' ∧ j.Meets asked j'

variable {asked : Prop} {i : Nat}

theorem Meets.of_eq {l l' : Loop} (h : l'.jobs[i]? = l.jobs[i]?) : Meets asked i l l' :=
  fun j hj => ⟨j, h.trans hj, .same⟩

theorem Meets.of_jobs {l l' : Loop} (h : l'.jobs = l.jobs) : Meets asked i l l' :=
  .of_eq (congrArg (·[i]?) h)

/-- What comes before makes no difference where it changes no task. -/
theorem Meets.after {l l₁ l' : Loop} (h : l₁.jobs[i]? = l.jobs[i]?) (hm : Meets asked i l₁ l') :
    Meets asked i l l' := fun j hj => hm j (h.trans hj)

theorem update_meets (l : Loop) {task : Nat} (f : Job → Job) (h : task ≠ i) :
    Meets asked i l (l.update task f) := .of_eq (getElem?_update_ne l f h)

theorem spawn_meets (l : Loop) (flow : Flow Delivery) (t : Option Ticket) :
    Meets asked i l (l.spawn flow t).2 := by
  intro j hj
  refine ⟨j, ?_, .same⟩
  rw [spawn_jobs, List.getElem?_append_left (List.getElem?_eq_some_iff.mp hj).1, hj]

theorem finish_meets (l : Loop) {task : Nat} (e : Ending) (h : task ≠ i) :
    Meets asked i l (l.finish task e) := by
  refine .of_eq ?_
  rw [finish_jobs]
  exact getElem?_update_ne l _ h

theorem deliver_meets (l : Loop) (task : Nat) (d : Delivery) :
    Meets asked i l (l.deliver task d) := by
  intro j hj
  change ∃ j', (l.update task _).jobs[i]? = some j' ∧ _
  by_cases h : task = i
  · subst h
    rw [getElem?_update_self, hj]
    exact ⟨_, rfl, .settled d⟩
  · rw [getElem?_update_ne l _ h, hj]
    exact ⟨j, rfl, .same⟩

theorem wake_job (l : Loop) (task : Nat) (b : Bool) {j : Job} (hj : l.jobs[i]? = some j) :
    ∃ j', (l.wake task b).jobs[i]? = some j' ∧
      (j' = j ∨ task = i ∧ ∃ w, j.phase = .parked w ∧ j' = { j with phase := .woken w b }) := by
  unfold wake
  split
  · rename_i w cr t o hw
    change ∃ j', (l.setPhase task _).jobs[i]? = some j' ∧ _
    rw [setPhase, getElem?_update]
    by_cases h : task = i
    · subst h
      obtain rfl := Option.some.inj (hw.symm.trans hj)
      rw [if_pos rfl, hj]
      exact ⟨_, rfl, .inr ⟨rfl, w, rfl, rfl⟩⟩
    · rw [if_neg h]
      exact ⟨j, hj, .inl rfl⟩
  · exact ⟨j, hj, .inl rfl⟩

theorem wake_meets (l : Loop) (task : Nat) : Meets asked i l (l.wake task false) := by
  intro j hj
  obtain ⟨j', hj', rfl | ⟨-, w, hw, rfl⟩⟩ := l.wake_job task false hj
  · exact ⟨j', hj', .same⟩
  · exact ⟨_, hj', .called w hw⟩

theorem relay_meets (l : Loop) (waiter task : Nat) : Meets asked i l (l.relay waiter task) := by
  unfold relay
  split
  · exact wake_meets l waiter
  · exact .of_eq rfl

/-- A task that is called back once is not called back again. -/
theorem wakes_meets (sleepers : List Nat) (l : Loop) :
    Meets asked i l (sleepers.foldl (fun l id => l.wake id false) l) := by
  intro j hj
  suffices h : ∃ j', (sleepers.foldl (fun l id => l.wake id false) l).jobs[i]? = some j' ∧
      (j' = j ∨ ∃ w, j.phase = .parked w ∧ j' = { j with phase := .woken w false }) by
    obtain ⟨j', hj', rfl | ⟨w, hw, rfl⟩⟩ := h
    · exact ⟨j', hj', .same⟩
    · exact ⟨_, hj', .called w hw⟩
  induction sleepers generalizing l j with
  | nil => exact ⟨j, hj, .inl rfl⟩
  | cons task rest ih =>
    obtain ⟨j₁, hj₁, rfl | ⟨-, w, hw, rfl⟩⟩ := l.wake_job task false hj
    · exact ih _ _ hj₁
    -- once called back it is not parked any more, so the rest leaves it alone
    · obtain ⟨j', hj', rfl | ⟨v, hv, -⟩⟩ := ih _ _ hj₁
      · exact ⟨_, hj', .inr ⟨w, hw, rfl⟩⟩
      · cases hv

theorem release_meets (l : Loop) (gate : String) : Meets asked i l (l.release gate) := by
  unfold release
  exact fun j hj => wakes_meets _ _ j hj

theorem interruptJob_job {l : Loop} (task : Nat) {j : Job} (hj : l.jobs[i]? = some j) :
    (l.interruptJob task).2.jobs[i]? = some (if task = i then j.asked else j) := by
  by_cases h : task = i
  · subst h
    rw [if_pos rfl]
    unfold interruptJob Job.asked
    rw [hj]
    dsimp only
    cases hp : j.phase with
    | ended e => exact hj
    | parked w =>
      have hwoken : (l.setPhase task (.woken w true)).jobs[task]? =
          some { j with phase := .woken w true } := by
        rw [setPhase, getElem?_update_self, hj]
        rfl
      obtain ⟨phase, cr, t, o⟩ := j
      obtain rfl : phase = .parked w := hp
      unfold wake
      rw [hj]
      exact hwoken
    | fresh f => simp [getElem?_update_self, hj, hp]
    | woken w b => simp [getElem?_update_self, hj, hp]
  · rw [if_neg h]
    unfold interruptJob
    split
    · exact hj
    · split
      · exact hj
      · obtain ⟨j', hj', rfl | ⟨he, -⟩⟩ := l.wake_job task true hj
        · exact hj'
        · exact absurd he h
      · exact (getElem?_update_ne l _ h).trans hj

/-- Only a task that has ended cannot be asked any more. -/
theorem interruptJob_accepts {l : Loop} {j : Job} (hj : l.jobs[i]? = some j) :
    (l.interruptJob i).1 = !j.hasEnded := by
  unfold interruptJob Job.hasEnded
  rw [hj]
  dsimp only
  cases j.phase <;> rfl

theorem interruptJob_meets (l : Loop) (task : Nat)
    (h : task = i → (l.interruptJob i).1 = true → asked) :
    Meets asked i l (l.interruptJob task).2 := by
  intro j hj
  refine ⟨_, interruptJob_job task hj, ?_⟩
  split
  · rename_i he
    have hacc := interruptJob_accepts hj
    cases hend : j.hasEnded with
    | false => exact .asked (h he (by rw [hacc, hend]; rfl)) hend
    | true =>
      have hsame : j.asked = j := by
        unfold Job.hasEnded at hend
        unfold Job.asked
        split at hend
        · rename_i e hp
          rw [hp]
        · cases hend
      rw [hsame]
      exact .same
  · exact .same

/-- What cancelling a task does to it. -/
theorem cancel_meets (l : Loop) (task : Nat) (h : task = i → (l.cancel i).1 = true → asked) :
    Meets asked i l (l.cancel task).2 := by
  unfold cancel at h ⊢
  split
  · exact .of_eq rfl
  · rename_i ho
    refine interruptJob_meets l task ?_
    rintro rfl ht
    exact h rfl (by rw [if_neg ho]; exact ht)

end Loop

namespace Scene

/-- A step that asks a task to end early, with success: somebody cancels it, or whoever waits for it
is cancelled and cancels it. -/
inductive Cancels (task : Nat) : Scene → Scene → Prop where
  | call (l : Loop) (f : Focus) (hf : f.IsFree) (h : (l.cancel task).1 = true) :
    Cancels task ⟨l, f⟩ ⟨l.act (.cancel task), f⟩
  | interrupt (l : Loop) (f : Focus) (hf : f.IsFree) (h : (l.interruptJob task).1 = true) :
    Cancels task ⟨l, f⟩ ⟨l.act (.interrupt task), f⟩
  | wait (l : Loop) (place waiter : Nat) (j : Job) (f : Flow Delivery)
      (hr : l.ready[place]? = some (.resume waiter)) (hj : l.jobs[waiter]? = some j)
      (hf : j.next? = some f) (ha : j.abandoned? = some task)
      (h : (((l.drop place).update waiter fun j => { j with cancelRequested := false }).cancel task).1
        = true) :
    Cancels task ⟨l, .idle⟩ ⟨(l.drop place).pickUp waiter j, .running waiter f⟩

end Scene

namespace Loop

variable {asked : Prop} {i : Nat}

theorem act_meets (l : Loop) (f : Focus) (hf : f.IsFree) (a : Act) :
    Meets (Scene.Cancels i ⟨l, f⟩ ⟨l.act a, f⟩) i l (l.act a) := by
  cases a with
  | cancel task =>
    refine cancel_meets l task ?_
    rintro rfl h
    exact .call l f hf h
  | interrupt task =>
    refine interruptJob_meets l task ?_
    rintro rfl h
    exact .interrupt l f hf h
  | release gate => exact release_meets l gate
  | start s => exact spawn_meets l _ _
  | await task => exact spawn_meets l _ _
  | assign c => exact .of_eq rfl
  | note task seen => exact .of_eq rfl
  | openSession => exact .of_eq rfl
  | beginClose => exact .of_eq rfl
  | finishClose => exact .of_eq rfl
  | prepareReply p => exact .of_eq rfl

theorem pickUp_meets (l : Loop) {task : Nat} (j : Job) (h : task ≠ i)
    (ha : j.abandoned? = some i →
      ((l.update task fun j => { j with cancelRequested := false }).cancel i).1 = true → asked) :
    Meets asked i l (l.pickUp task j) := by
  have hmark : (l.update task fun j => { j with cancelRequested := false }).jobs[i]? = l.jobs[i]? :=
    getElem?_update_ne l _ h
  unfold pickUp
  dsimp only
  split
  · rename_i id hid
    refine Meets.after hmark (cancel_meets _ id ?_)
    rintro rfl
    exact ha hid
  · exact .of_eq hmark

end Loop

/-- A task that takes no step is met by what others do, or it goes on. -/
theorem Step.meets {s s' : Scene} (hs : Step s s') {i : Nat} {j : Job}
    (hj : s.loop.jobs[i]? = some j) (hb : s.focus.task? ≠ some i) :
    (s'.focus.task? ≠ some i ∧ ∃ j', s'.loop.jobs[i]? = some j' ∧ j.Meets (s.Cancels i s') j') ∨
      ∃ place f, j.next? = some f ∧ s' = ⟨(s.loop.drop place).pickUp i j, .running i f⟩ := by
  have hrest (hb' : s'.focus.task? ≠ some i) (hm : s.loop.Meets (s.Cancels i s') i s'.loop) :
      (s'.focus.task? ≠ some i ∧ ∃ j', s'.loop.jobs[i]? = some j' ∧ j.Meets (s.Cancels i s') j') ∨
        ∃ place f, j.next? = some f ∧ s' = ⟨(s.loop.drop place).pickUp i j, .running i f⟩ :=
    .inl ⟨hb', hm j hj⟩
  cases hs with
  | log l task line next => exact hrest hb (.of_eq rfl)
  | client l task next => exact hrest hb (.of_eq rfl)
  | session l task next => exact hrest hb (.of_eq rfl)
  | send l task place r next => exact hrest hb (.of_eq rfl)
  | hear l task place r next => exact hrest hb (.of_eq rfl)
  | call l task o next => exact hrest hb (Loop.spawn_meets l _ _)
  | join l task id next d hd => exact hrest hb (.of_eq rfl)
  | gate l task name stubborn next ho => exact hrest hb (.of_eq rfl)
  | park l task w hw =>
    exact hrest (by simp [Focus.task?]) (Loop.update_meets l _ fun he => hb (congrArg some he))
  | ending l task f e he =>
    exact hrest (by simp [Focus.task?]) (Loop.finish_meets l e fun he => hb (congrArg some he))
  | resume l place task k f hr hk hf =>
    by_cases he : task = i
    · subst he
      obtain rfl := Option.some.inj (hj.symm.trans hk)
      exact .inr ⟨place, f, hf, rfl⟩
    · refine hrest (fun h => he (Option.some.inj h)) ?_
      refine (Loop.pickUp_meets (l.drop place) k he fun ha hc => ?_).after rfl
      exact .wait l place task k f hr hk hf ha hc
  | complete l place task k t e hr hk hd hc =>
    exact hrest hb ((Loop.deliver_meets _ task _).after
      (congrArg (·[i]?) (Loop.announce_jobs (l.drop place) task t e)))
  | callback l place task k t e c hr hk hd hc =>
    exact hrest (by simp [Focus.task?]) (.of_jobs (Loop.announce_jobs (l.drop place) task t e))
  | leave l task k t e c hk hd hc =>
    refine hrest (by simp [Focus.task?]) ?_
    exact Loop.afterCallback_cases (P := fun l' => Loop.Meets _ i l l') (fun _ => .of_eq rfl)
      (Loop.deliver_meets l task _) ((Loop.deliver_meets _ task _).after rfl)
  | relay l place waiter task hr => exact hrest hb ((Loop.relay_meets (l.drop place) waiter task).after rfl)
  | skip l place h hr hst => exact hrest hb (.of_eq rfl)
  | act l f a hf => exact hrest hb (Loop.act_meets l f hf a)

end Storefront
