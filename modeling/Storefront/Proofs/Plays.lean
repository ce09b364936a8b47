import Storefront.Proofs.Ledger
import Storefront.Proofs.Runs

/-! Runs that are played. A list of moves says which step comes next each time, so a run can be
computed and two runs can be compared move by move. Every step is some move. -/
namespace Storefront

/-- What comes next. -/
inductive Move where
  /-- What is under way goes on: the step of a task, or a callback. -/
  | go
  /-- The handle at a place of the queue is taken. -/
  | take (place : Nat)
  | act (a : Act)
  /-- A caller asks for an operation. One that is refused starts nothing. -/
  | operation (op : Operation) (callback : Option Callback)
  /-- A caller makes a request. -/
  | request (call : Call) (callback : Option Callback)

namespace Loop

/-- What follows when a task goes on. -/
def go (l : Loop) (task : Nat) : Flow Delivery → Scene
  | .finish d => ⟨l.finish task (.finished d), .idle⟩
  | .escape cause => ⟨l.finish task (.escaped cause), .idle⟩
  | .interrupt => ⟨l.finish task .interrupted, .idle⟩
  | .log line next => ⟨l.record (.log task line), .running task next⟩
  | .client next => ⟨l, .running task (next l.client)⟩
  | .session next =>
    ⟨{ l with sessions := l.sessions.touch }, .running task (next l.sessions.touch.view)⟩
  | .send place r next => ⟨l.sent task place r, .running task ((l.server.take r).1.answered next)⟩
  | .hear place r next => ⟨l.hear place r, .running task next⟩
  | .call o next =>
    ⟨l.called task o, .running task (.join l.jobs.length fun d => next d.asTransport)⟩
  | .join id next =>
    match l.outcome? id with
    | some d => ⟨l, .running task (next d)⟩
    | none => ⟨l.park task (.task id next), .idle⟩
  | .gate name stubborn next =>
    if l.isOpen name then ⟨l, .running task next⟩
    else ⟨l.park task (.gate name stubborn next), .idle⟩

/-- What follows when the callback of a task ends. -/
def leave (l : Loop) (task : Nat) : Scene :=
  match l.due? task with
  | some (t, e) =>
    match t.callback with
    | some c => ⟨l.afterCallback task t c (deliveryOf t e), .idle⟩
    | none => ⟨l, .inside task⟩
  | none => ⟨l, .inside task⟩

/-- What follows when a handle is taken that was in the queue before. -/
def takeUp (l : Loop) : Handle → Scene
  | .resume task =>
    match l.jobs[task]? with
    | none => ⟨l, .idle⟩
    | some j =>
      match j.next? with
      | some f => ⟨l.pickUp task j, .running task f⟩
      | none => ⟨l, .idle⟩
  | .complete task =>
    match l.due? task with
    | none => ⟨l, .idle⟩
    | some (t, e) =>
      match t.callback with
      | none => ⟨(l.announce task t e).deliver task (deliveryOf t e), .idle⟩
      | some _ => ⟨(l.announce task t e).record (.callback task (deliveryOf t e)), .inside task⟩
  | .relay waiter task => ⟨l.relay waiter task, .idle⟩

end Loop

namespace Scene

def goOn (s : Scene) : Scene :=
  match s.focus with
  | .idle => s
  | .running task f => s.loop.go task f
  | .inside task => s.loop.leave task

def takeAt (s : Scene) (place : Nat) : Scene :=
  match s.focus with
  | .idle =>
    match s.loop.ready[place]? with
    | some h => (s.loop.drop place).takeUp h
    | none => s
  | _ => s

/-- What follows when callers or the world outside do something. -/
def actOut (s : Scene) (a : Act) : Scene :=
  match s.focus with
  | .running _ _ => s
  | f => ⟨s.loop.act a, f⟩

/-- What follows when a caller starts something that may be refused. -/
def open? (s : Scene) : Except CallError Start → Scene
  | .ok st => s.actOut (.start st)
  | .error _ => s

/-- The scene after a move. A move that is not possible changes nothing. -/
def play (s : Scene) : Move → Scene
  | .go => s.goOn
  | .take place => s.takeAt place
  | .act a => s.actOut a
  | .operation op callback => s.open? (s.loop.client.startOperation op callback)
  | .request call callback => s.open? (s.loop.client.startCall call callback)

def plays (s : Scene) (ms : List Move) : Scene := ms.foldl play s

end Scene

namespace Loop

theorem go_step (l : Loop) (task : Nat) (f : Flow Delivery) :
    Step ⟨l, .running task f⟩ (l.go task f) := by
  cases f with
  | finish d => exact .ending l task _ _ rfl
  | escape cause => exact .ending l task _ _ rfl
  | interrupt => exact .ending l task _ _ rfl
  | log line next => exact .log l task line next
  | client next => exact .client l task next
  | session next => exact .session l task next
  | send place r next => exact .send l task place r next
  | hear place r next => exact .hear l task place r next
  | call o next => exact .call l task o next
  | join id next =>
    simp only [go]
    cases ho : l.outcome? id with
    | some d => exact .join l task id next d ho
    | none => exact .park l task (.task id next) ho
  | gate name stubborn next =>
    simp only [go]
    cases ho : l.isOpen name with
    | true => exact .gate l task name stubborn next ho
    | false => exact .park l task (.gate name stubborn next) ho

theorem leave_step (l : Loop) (task : Nat) :
    l.leave task = ⟨l, .inside task⟩ ∨ Step ⟨l, .inside task⟩ (l.leave task) := by
  unfold leave
  split
  · rename_i t e hd
    obtain ⟨j, hj, hd⟩ := Option.bind_eq_some_iff.mp hd
    split
    · rename_i c hc
      exact .inr (.leave l task j t e c hj hd hc)
    · exact .inl rfl
  · exact .inl rfl

theorem takeUp_step {l : Loop} {place : Nat} {h : Handle} (hr : l.ready[place]? = some h) :
    Step ⟨l, .idle⟩ ((l.drop place).takeUp h) := by
  cases h with
  | resume task =>
    unfold takeUp
    dsimp only
    split
    · rename_i hj
      have hj' : l.jobs[task]? = none := hj
      exact .skip l place _ hr (by simp [Stale, hj'])
    · rename_i j hj
      have hj' : l.jobs[task]? = some j := hj
      split
      · rename_i f hf
        exact .resume l place task j f hr hj' hf
      · rename_i hf
        exact .skip l place _ hr (by simp [Stale, hj', hf])
  | complete task =>
    unfold takeUp
    dsimp only
    split
    · rename_i hd
      exact .skip l place _ hr hd
    · rename_i t e hd
      obtain ⟨j, hj, hjd⟩ := Option.bind_eq_some_iff.mp hd
      split
      · rename_i hc
        exact .complete l place task j t e hr hj hjd hc
      · rename_i c hc
        exact .callback l place task j t e c hr hj hjd hc
  | relay waiter task => exact .relay l place waiter task hr

end Loop

namespace Scene

theorem actOut_step (s : Scene) (a : Act) : s.actOut a = s ∨ Step s (s.actOut a) := by
  obtain ⟨l, f⟩ := s
  cases f with
  | running task flow => exact .inl rfl
  | idle => exact .inr (.act l .idle a trivial)
  | inside task => exact .inr (.act l (.inside task) a trivial)

/-- Where code of the caller may run, what was accepted is started. -/
theorem open?_of_free (s : Scene) (h : s.focus.IsFree) (st : Start) :
    s.open? (.ok st) = ⟨(s.loop.start st).2, s.focus⟩ := by
  obtain ⟨l, focus⟩ := s
  cases focus with
  | idle => rfl
  | inside task => rfl
  | running task f => exact h.elim

theorem open?_step (s : Scene) (st : Except CallError Start) :
    s.open? st = s ∨ Step s (s.open? st) := by
  cases st with
  | ok st => exact s.actOut_step (.start st)
  | error e => exact .inl rfl

/-- A move is a step, or it is not possible. -/
theorem play_step (s : Scene) (m : Move) : s.play m = s ∨ Step s (s.play m) := by
  cases m with
  | go =>
    obtain ⟨l, f⟩ := s
    cases f with
    | idle => exact .inl rfl
    | running task flow => exact .inr (l.go_step task flow)
    | inside task => exact l.leave_step task
  | take place =>
    obtain ⟨l, f⟩ := s
    cases f with
    | idle =>
      change (match l.ready[place]? with
        | some h => (l.drop place).takeUp h
        | none => ⟨l, .idle⟩) = _ ∨ Step _ (match l.ready[place]? with
        | some h => (l.drop place).takeUp h
        | none => ⟨l, .idle⟩)
      cases hr : l.ready[place]? with
      | some h => exact .inr (Loop.takeUp_step hr)
      | none => exact .inl rfl
    | running task flow => exact .inl rfl
    | inside task => exact .inl rfl
  | act a => exact s.actOut_step a
  | operation op callback => exact s.open?_step _
  | request call callback => exact s.open?_step _

theorem plays_steps (s : Scene) (ms : List Move) : Steps s (s.plays ms) := by
  induction ms generalizing s with
  | nil => exact .refl
  | cons m ms ih =>
    change Steps s ((s.play m).plays ms)
    rcases s.play_step m with h | h
    · exact h.symm ▸ ih s
    · exact Relation.ReflTransGen.head h (ih (s.play m))

end Scene

/-- A task that takes a step has one way to go on. -/
theorem Step.of_running {l : Loop} {task : Nat} {f : Flow Delivery} {s' : Scene}
    (hs : Step ⟨l, .running task f⟩ s') : s' = l.go task f := by
  cases hs with
  | log _ _ line next => rfl
  | client _ _ next => rfl
  | session _ _ next => rfl
  | send _ _ place r next => rfl
  | hear _ _ place r next => rfl
  | call _ _ o next => rfl
  | join _ _ id next d h => simp [Loop.go, h]
  | gate _ _ name stubborn next h => simp [Loop.go, h]
  | park _ _ w h =>
    cases w with
    | gate name stubborn next =>
      have h' : l.isOpen name = false := h
      simp [Loop.go, Wait.flow, h']
    | task id next =>
      have h' : l.outcome? id = none := h
      simp [Loop.go, Wait.flow, h']
  | ending _ _ _ e h =>
    cases f with
    | finish d =>
      obtain rfl := Option.some.inj h
      rfl
    | escape cause =>
      obtain rfl := Option.some.inj h
      rfl
    | interrupt =>
      obtain rfl := Option.some.inj h
      rfl
    | _ => cases h
  | act _ _ a hf => exact hf.elim

theorem Loop.takeUp_of_stale {l : Loop} {place : Nat} {h : Handle} (hs : l.Stale h) :
    (l.drop place).takeUp h = ⟨l.drop place, .idle⟩ := by
  cases h with
  | resume task =>
    have hs' : (l.drop place).jobs[task]?.bind (·.next?) = none := hs
    unfold takeUp
    dsimp only
    split
    · rfl
    · rename_i j hj
      rw [hj] at hs'
      split
      · rename_i f hf
        cases hf.symm.trans hs'
      · rfl
  | complete task =>
    have hs' : (l.drop place).due? task = none := hs
    simp [takeUp, hs']
  | relay waiter task => exact hs.elim

/-- Every step is a move. -/
theorem Step.played {s s' : Scene} (hs : Step s s') : ∃ m, s.play m = s' := by
  obtain ⟨l, f⟩ := s
  cases f with
  | running task f => exact ⟨.go, hs.of_running.symm⟩
  | idle =>
    cases hs with
    | resume _ place task j f hr hj hf =>
      exact ⟨.take place, by simp [Scene.play, Scene.takeAt, Loop.takeUp, hr, hj, hf]⟩
    | complete _ place task j t e hr hj hd hc =>
      have hd' : (l.drop place).due? task = some (t, e) := by simp [Loop.due?, hj, hd]
      exact ⟨.take place, by simp [Scene.play, Scene.takeAt, Loop.takeUp, hr, hd', hc]⟩
    | callback _ place task j t e c hr hj hd hc =>
      have hd' : (l.drop place).due? task = some (t, e) := by simp [Loop.due?, hj, hd]
      exact ⟨.take place, by simp [Scene.play, Scene.takeAt, Loop.takeUp, hr, hd', hc]⟩
    | relay _ place waiter task hr =>
      exact ⟨.take place, by simp [Scene.play, Scene.takeAt, Loop.takeUp, hr]⟩
    | skip _ place h hr hs =>
      exact ⟨.take place, by simp [Scene.play, Scene.takeAt, hr, Loop.takeUp_of_stale hs]⟩
    | act _ _ a hf => exact ⟨.act a, rfl⟩
  | inside task =>
    cases hs with
    | leave _ _ j t e c hj hd hc =>
      have hd' : l.due? task = some (t, e) := by simp [Loop.due?, hj, hd]
      exact ⟨.go, by simp [Scene.play, Scene.goOn, Loop.leave, hd', hc]⟩
    | act _ _ a hf => exact ⟨.act a, rfl⟩

/-- Every run can be played. -/
theorem Steps.played {s s' : Scene} (hs : Steps s s') : ∃ ms, s.plays ms = s' := by
  induction hs with
  | refl => exact ⟨[], rfl⟩
  | tail _ hs ih =>
    obtain ⟨ms, rfl⟩ := ih
    obtain ⟨m, rfl⟩ := hs.played
    exact ⟨ms ++ [m], by rw [Scene.plays, List.foldl_append]; rfl⟩

end Storefront
