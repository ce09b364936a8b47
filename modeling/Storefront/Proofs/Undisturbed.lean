import Storefront.Proofs.Plays
import Storefront.Proofs.Propagation

/-! Tasks that nobody disturbs. What a task finds around it, its client and the session there,
changes only where somebody changes the configuration; a task goes on differently than its flow says
only where it was asked to end early. -/
namespace Storefront

/-- What a task finds around it: the client, and the session that it would take. -/
structure Surroundings where
  client : Client
  view : SessionView

/-- What a shop answers to each request, whenever it does so. -/
abbrev Shop := Request → Answer

namespace Loop

def surroundings (l : Loop) : Surroundings := ⟨l.client, l.sessions.touch.view⟩

/-- Two states of a loop between which the client stayed, and the sessions stayed or one was opened.
-/
structure Retains (l l' : Loop) : Prop where
  client : l'.client = l.client
  sessions : l'.sessions = l.sessions ∨ l'.sessions = l.sessions.touch

theorem Retains.refl (l : Loop) : l.Retains l := ⟨rfl, .inl rfl⟩

theorem Stirred.retains {l l' : Loop} (h : l.Stirred l') : l.Retains l' :=
  ⟨h.client, .inl h.sessions⟩

theorem finish_retains (l : Loop) (task : Nat) (e : Ending) : l.Retains (l.finish task e) :=
  ⟨l.finish_client task e, .inl (l.finish_sessions task e)⟩

theorem announce_retains (l : Loop) (task : Nat) (t : Ticket) (e : Ending) :
    l.Retains (l.announce task t e) :=
  ⟨l.announce_client task t e, .inl (l.announce_sessions task t e)⟩

theorem afterCallback_retains (l : Loop) (task : Nat) (t : Ticket) (c : Callback) (d : Delivery) :
    l.Retains (l.afterCallback task t c d) :=
  afterCallback_cases (P := l.Retains) (fun _ => .refl l) ⟨rfl, .inl rfl⟩ ⟨rfl, .inl rfl⟩

theorem touch_retains (l : Loop) : l.Retains { l with sessions := l.sessions.touch } :=
  ⟨rfl, .inr rfl⟩

end Loop

theorem SessionPool.touch_touch (p : SessionPool) : p.touch.touch = p.touch := by
  unfold touch
  cases h : p.current with
  | some i => simp [h]
  | none => simp

/-- Somebody changes the configuration: the client is another one, or its session is closed. -/
def Act.Configures : Act → Prop
  | .assign _ => True
  | .beginClose => True
  | .finishClose => True
  | _ => False

def Move.Configures : Move → Prop
  | .act a => a.Configures
  | _ => False

namespace Loop

theorem Retains.surroundings {l l' : Loop} (h : l.Retains l') :
    l'.surroundings = l.surroundings := by
  obtain ⟨hc, hs | hs⟩ := h
  · simp only [Loop.surroundings, hc, hs]
  · simp only [Loop.surroundings, hc, hs, SessionPool.touch_touch]

theorem act_retains (l : Loop) {a : Act} (h : ¬ a.Configures) : l.Retains (l.act a) := by
  cases a with
  | cancel task => exact (l.cancel_stirred task).retains
  | interrupt task => exact (l.interruptJob_stirred task).retains
  | release gate => exact (l.release_stirred gate).retains
  | openSession => exact l.touch_retains
  | assign c => exact absurd trivial h
  | beginClose => exact absurd trivial h
  | finishClose => exact absurd trivial h
  | start st => exact ⟨rfl, .inl rfl⟩
  | await task => exact ⟨rfl, .inl rfl⟩
  | note task seen => exact ⟨rfl, .inl rfl⟩
  | prepareReply p => exact ⟨rfl, .inl rfl⟩

theorem go_retains (l : Loop) (task : Nat) (f : Flow Delivery) : l.Retains (l.go task f).loop := by
  cases f with
  | finish d => exact l.finish_retains task _
  | escape cause => exact l.finish_retains task _
  | interrupt => exact l.finish_retains task _
  | session next => exact l.touch_retains
  | join id next =>
    simp only [go]
    split <;> exact ⟨rfl, .inl rfl⟩
  | gate name stubborn next =>
    simp only [go]
    split <;> exact ⟨rfl, .inl rfl⟩
  | _ => exact ⟨rfl, .inl rfl⟩

theorem leave_retains (l : Loop) (task : Nat) : l.Retains (l.leave task).loop := by
  unfold leave
  split
  · split
    · exact l.afterCallback_retains task _ _ _
    · exact .refl l
  · exact .refl l

theorem takeUp_retains (l : Loop) (h : Handle) : l.Retains (l.takeUp h).loop := by
  cases h with
  | resume task =>
    unfold takeUp
    dsimp only
    split
    · exact .refl l
    · split
      · exact (l.pickUp_stirred task _).retains
      · exact .refl l
  | complete task =>
    unfold takeUp
    dsimp only
    split
    · exact .refl l
    · rename_i t e _
      have ha := l.announce_retains task t e
      split
      · exact ⟨ha.client, ha.sessions⟩
      · exact ⟨ha.client, ha.sessions⟩
  | relay waiter task => exact (l.relay_stirred waiter task).retains

end Loop

namespace Scene

theorem actOut_retains (s : Scene) {a : Act} (h : ¬ a.Configures) :
    s.loop.Retains (s.actOut a).loop := by
  unfold actOut
  split
  · exact .refl s.loop
  · exact s.loop.act_retains h

/-- Client and sessions change only where somebody changes the configuration, but that a session is
opened for use. -/
theorem play_retains (s : Scene) {m : Move} (h : ¬ m.Configures) :
    s.loop.Retains (s.play m).loop := by
  have hopen (st : Except CallError Start) : s.loop.Retains (s.open? st).loop := by
    cases st with
    | ok st => exact s.actOut_retains (a := .start st) id
    | error e => exact .refl s.loop
  cases m with
  | go =>
    change s.loop.Retains s.goOn.loop
    unfold goOn
    split
    · exact .refl s.loop
    · exact s.loop.go_retains _ _
    · exact s.loop.leave_retains _
  | take place =>
    change s.loop.Retains (s.takeAt place).loop
    unfold takeAt
    split
    · split
      · exact ⟨((s.loop.drop place).takeUp_retains _).client,
          ((s.loop.drop place).takeUp_retains _).sessions⟩
      · exact .refl s.loop
    · exact .refl s.loop
  | act a => exact s.actOut_retains h
  | operation op callback => exact hopen _
  | request call callback => exact hopen _

/-- A step in which nobody changes the configuration. -/
def Unchanging (s s' : Scene) : Prop := Step s s' ∧ ∃ m, ¬ Move.Configures m ∧ s.play m = s'

theorem Unchanging.surroundings {s s' : Scene} (h : s.Unchanging s') :
    s'.loop.surroundings = s.loop.surroundings := by
  obtain ⟨-, m, hm, rfl⟩ := h
  exact (s.play_retains hm).surroundings

end Scene

/-- A run in which nobody changes the configuration. -/
def UnchangedSteps : Scene → Scene → Prop := Relation.ReflTransGen Scene.Unchanging

theorem UnchangedSteps.steps {s s' : Scene} (h : UnchangedSteps s s') : Steps s s' :=
  Relation.ReflTransGen.mono (fun _ _ h => h.1) _ _ h

theorem UnchangedSteps.surroundings {s s' : Scene} (h : UnchangedSteps s s') :
    s'.loop.surroundings = s.loop.surroundings := by
  induction h with
  | refl => rfl
  | tail _ hs ih => exact hs.surroundings.trans ih

/-! Tasks that were not asked to end early -/

structure Job.Unasked (j : Job) : Prop where
  unmarked : j.cancelRequested = false
  called : ∀ w, j.phase ≠ .woken w true

namespace Job.Unasked

variable {j : Job}

theorem abandoned? (h : j.Unasked) : j.abandoned? = none := by
  unfold Job.abandoned?
  split
  · rename_i id next b hp
    cases b with
    | false => simp [h.unmarked]
    | true => exact absurd hp (h.called _)
  · rfl

theorem meets {asked : Prop} {j' : Job} (h : j.Unasked) (hm : j.Meets asked j') (hn : ¬ asked) :
    j'.Unasked := by
  cases hm with
  | same => exact h
  | settled d => exact ⟨h.unmarked, h.called⟩
  | called w hw => exact ⟨h.unmarked, by simp⟩
  | asked ha _ => exact absurd ha hn

end Job.Unasked

/-- A task of a loop that was not asked to end early. -/
def Loop.Unasked (l : Loop) (i : Nat) : Prop := ∀ j, l.jobs[i]? = some j → j.Unasked

namespace Loop.Unasked

variable {l l' : Loop} {i : Nat}

theorem of_eq (h : l.Unasked i) (he : l'.jobs[i]? = l.jobs[i]?) : l'.Unasked i :=
  fun j hj => h j (he.symm.trans hj)

/-- A task that comes to rest or to its end was not asked by that. -/
theorem setPhase (h : l.Unasked i) {p : Phase} (hp : ∀ w, p ≠ .woken w true) :
    (l.setPhase i p).Unasked i := by
  intro j hj
  rw [Loop.setPhase, Loop.getElem?_update_self] at hj
  obtain ⟨j₀, hj₀, rfl⟩ := Option.map_eq_some_iff.mp hj
  exact ⟨(h j₀ hj₀).unmarked, hp⟩

end Loop.Unasked

/-- A step in which nobody cancels a task leaves it unasked. -/
theorem Step.unasked {s s' : Scene} (hs : Step s s') {i : Nat} (hi : i < s.loop.jobs.length)
    (hn : ¬ s.Cancels i s') (h : s.loop.Unasked i) : s'.loop.Unasked i := by
  by_cases hb : s.focus.task? = some i
  · cases hs with
    | log l task line next => exact h
    | client l task next => exact h
    | session l task next => exact h
    | send l task place r next => exact h
    | hear l task place r next => exact h
    | call l task o next => exact h.of_eq (List.getElem?_append_left hi)
    | join l task id next d hd => exact h
    | gate l task name stubborn next ho => exact h
    | park l task w hw =>
      obtain rfl := Option.some.inj hb
      exact h.setPhase (by simp)
    | ending l task f e he =>
      obtain rfl := Option.some.inj hb
      exact (h.setPhase (p := .ended e) (by simp)).of_eq (congrArg (·[task]?) (l.finish_jobs task e))
    | act l f a hf => exact absurd hb (by simp [hf.task?])
    | _ => cases hb
  · have hj : s.loop.jobs[i]? = some s.loop.jobs[i] := List.getElem?_eq_getElem hi
    have hjob := h _ hj
    rcases hs.meets hj hb with ⟨-, j', hj', hm⟩ | ⟨place, f, -, rfl⟩
    · intro k hk
      rw [← Option.some.inj (hj'.symm.trans hk)]
      exact hjob.meets hm hn
    · intro k hk
      change ((s.loop.drop place).pickUp i _).jobs[i]? = some k at hk
      unfold Loop.pickUp at hk
      dsimp only at hk
      rw [hjob.abandoned?, Loop.getElem?_update_self, Loop.drop_jobs, hj] at hk
      rw [← Option.some.inj hk]
      exact ⟨rfl, hjob.called⟩

theorem Scene.Opens.unasked {s : Scene} {i : Nat} {st : Start} (h : s.Opens i st) :
    s.loop.Unasked i := by
  intro j hj
  rw [← Option.some.inj (h.job.symm.trans hj)]
  exact ⟨rfl, by simp⟩

/-! The turns of such a task -/

/-- A turn of a task that goes on as its flow says, with what it finds around it. -/
inductive Stride (w : Surroundings) (shop : Shop) (l : Loop) : Stand → List Deed → Stand → Prop where
  | rest (σ : Stand) : Stride w shop l σ [] σ
  | log (line : Log.Line) (next : Flow Delivery) :
    Stride w shop l (.going (.log line next)) [] (.going next)
  | client (next : Client → Flow Delivery) :
    Stride w shop l (.going (.client next)) [] (.going (next w.client))
  | session (next : SessionView → Flow Delivery) :
    Stride w shop l (.going (.session next)) [] (.going (next w.view))
  | send (place : Nat) (r : Request) (next : Answer → Flow Delivery) (p : Reply)
      (h : p.answer = shop r) :
    Stride w shop l (.going (.send place r next)) [.request r (l.cookies? place r)]
      (.going (p.answered next))
  | hear (place : Nat) (r : Response) (next : Flow Delivery) :
    Stride w shop l (.going (.hear place r next)) [] (.going next)
  | call (o : Outgoing) (next : TransportResult → Flow Delivery) :
    Stride w shop l (.going (.call o next)) [.call l.jobs.length o]
      (.going (.join l.jobs.length fun d => next d.asTransport))
  | join (id : Nat) (next : Delivery → Flow Delivery) (d : Delivery) (h : l.outcome? id = some d) :
    Stride w shop l (.going (.join id next)) [] (.going (next d))
  | gate (name : String) (stubborn : Bool) (next : Flow Delivery) :
    Stride w shop l (.going (.gate name stubborn next)) [] (.going next)
  | ending (f : Flow Delivery) (e : Ending) (h : f.ending? = some e) :
    Stride w shop l (.going f) [] (.ended e)

/-- Whoever sends a request at this moment is answered as the shop answers. -/
def Scene.AnswersAs (s : Scene) (shop : Shop) : Prop :=
  ∀ task place r next, s.focus = .running task (.send place r next) →
    (s.loop.server.take r).1.answer = shop r

theorem Job.Unasked.stride {w : Surroundings} {shop : Shop} {l : Loop} {j : Job} {f : Flow Delivery}
    (h : j.Unasked) (hf : j.next? = some f) : Stride w shop l j.phase.stand [] (.going f) := by
  unfold Job.next? at hf
  rw [h.unmarked] at hf
  split at hf
  · rename_i flow hp
    rw [hp, ← Option.some.inj hf]
    exact .rest _
  · rename_i v b hp
    obtain rfl : b = false := by
      cases b with
      | false => rfl
      | true => exact absurd hp (h.called v)
    rw [hp, ← Option.some.inj hf]
    cases v with
    | gate name stubborn next =>
      cases stubborn with
      | true => exact .gate name true next
      | false => exact .gate name false next
    | task id next => exact .rest _
  · cases hf

/-- A task whose turn it is goes on as its flow says. -/
theorem Loop.go_stride {w : Surroundings} {shop : Shop} {l : Loop} {i : Nat} {f : Flow Delivery}
    (hi : i < l.jobs.length) (hw : l.surroundings = w)
    (ha : (⟨l, .running i f⟩ : Scene).AnswersAs shop) :
    ∃ ds σ, (l.go i f).stand? i = some σ ∧ (l.go i f).loop.deeds i = l.deeds i ++ ds ∧
      Stride w shop l (.going f) ds σ := by
  subst hw
  have hquiet {l' : Loop} (h : l'.deeds i = l.deeds i) : l'.deeds i = l.deeds i ++ [] := by
    rw [h, List.append_nil]
  have hends (e : Ending) (he : f.ending? = some e) : ∃ ds σ,
      (⟨l.finish i e, .idle⟩ : Scene).stand? i = some σ ∧ (l.finish i e).deeds i = l.deeds i ++ ds ∧
        Stride l.surroundings shop l (.going f) ds σ :=
    ⟨[], .ended e, (l.finish_stand? i e hi).trans (if_pos rfl),
      hquiet (Loop.deeds_of_trace (l.finish_trace i e) i), .ending f e he⟩
  have hparks (w : Wait) (hf : w.flow = f) : ∃ ds σ,
      (⟨l.park i w, .idle⟩ : Scene).stand? i = some σ ∧ (l.park i w).deeds i = l.deeds i ++ ds ∧
        Stride l.surroundings shop l (.going f) ds σ :=
    ⟨[], .going w.flow, (l.setPhase_stand? (.parked w) hi).trans (if_pos rfl),
      hquiet (Loop.deeds_of_trace rfl i), hf ▸ .rest _⟩
  cases f with
  | finish d => exact hends _ rfl
  | escape cause => exact hends _ rfl
  | interrupt => exact hends _ rfl
  | log line next =>
    exact ⟨[], _, if_pos rfl, hquiet (l.record_deeds_quiet i (by trivial)), .log line next⟩
  | client next => exact ⟨[], _, if_pos rfl, hquiet rfl, .client next⟩
  | session next => exact ⟨[], _, if_pos rfl, hquiet (Loop.deeds_of_trace rfl i), .session next⟩
  | send place r next =>
    refine ⟨[.request r _], _, if_pos rfl, ?_, .send place r next _ (ha i place r next rfl)⟩
    change (l.sent i place r).deeds i = _
    rw [Loop.sent, Loop.record_deeds, Event.deed?, if_pos rfl]
    rfl
  | hear place r next =>
    exact ⟨[], _, if_pos rfl, hquiet (Loop.deeds_of_trace rfl i), .hear place r next⟩
  | call o next =>
    refine ⟨[.call l.jobs.length o], _, if_pos rfl, ?_, .call o next⟩
    change (l.called i o).deeds i = _
    rw [Loop.called, Loop.record_deeds, Event.deed?, if_pos rfl]
    rfl
  | join id next =>
    simp only [Loop.go]
    cases ho : l.outcome? id with
    | some d => exact ⟨[], _, if_pos rfl, hquiet rfl, .join id next d ho⟩
    | none => exact hparks (.task id next) rfl
  | gate name stubborn next =>
    simp only [Loop.go]
    split
    · exact ⟨[], _, if_pos rfl, hquiet rfl, .gate name stubborn next⟩
    · exact hparks (.gate name stubborn next) rfl

/-- What a step of the loop is to a task that was not asked to end early. -/
theorem Step.stride {s s' : Scene} (hs : Step s s') {i : Nat} (hi : i < s.loop.jobs.length)
    {w : Surroundings} {shop : Shop} (hw : s.loop.surroundings = w) (ha : s.AnswersAs shop)
    (hu : s.loop.Unasked i) {σ : Stand} (hσ : s.stand? i = some σ) :
    ∃ ds σ', s'.stand? i = some σ' ∧ s'.loop.deeds i = s.loop.deeds i ++ ds ∧
      Stride w shop s.loop σ ds σ' := by
  by_cases hb : s.focus.task? = some i
  · obtain ⟨l, focus⟩ := s
    cases focus with
    | running task f =>
      obtain rfl := Option.some.inj hb
      obtain rfl := Option.some.inj ((if_pos rfl).symm.trans hσ)
      rw [hs.of_running]
      exact Loop.go_stride hi hw ha
    | idle => cases hb
    | inside task => cases hb
  · obtain ⟨j, hj, rfl⟩ := Scene.job_of_stand? hσ hb
    have hdeeds : s'.loop.deeds i = s.loop.deeds i ++ [] := by rw [hs.deeds hb, List.append_nil]
    rcases hs.meets hj hb with ⟨hb', j', hj', hm⟩ | ⟨place, f, hf, rfl⟩
    · refine ⟨[], _, Scene.stand?_of_job hj' hb', hdeeds, ?_⟩
      rw [hm.stand]
      exact .rest _
    · exact ⟨[], .going f, if_pos rfl, hdeeds, (hu j hj).stride hf⟩

end Storefront
