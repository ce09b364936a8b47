import Storefront.Proofs.Jobs

/-! Runs as one task sees them. Whatever the loop does in a step, a task either stays where it is or
takes one turn of its own flow, and what it asks of others is what that turn asks. -/
namespace Storefront

/-- What a task still has to do, or how it has ended. -/
inductive Stand where
  | going (flow : Flow Delivery)
  | ended (e : Ending)

/-- What a task asks of others. -/
inductive Deed where
  | call (started : Nat) (o : Outgoing)
  /-- A request, with the cookies that the session has added. -/
  | request (r : Request) (cookies : Option String)

def Phase.stand : Phase → Stand
  | .fresh flow => .going flow
  | .parked w => .going w.flow
  | .woken w _ => .going w.flow
  | .ended e => .ended e

def Event.deed? (task : Nat) : Event → Option Deed
  | .call id k o => if id = task then some (.call k o) else none
  | .request id r cookies => if id = task then some (.request r cookies) else none
  | _ => none

/-- An event that shows no deed of any task. -/
def Event.IsQuiet : Event → Prop
  | .call _ _ _ => False
  | .request _ _ _ => False
  | _ => True

namespace Loop

/-- Where a task that is not taking a step stands. -/
def stand? (l : Loop) (task : Nat) : Option Stand := l.jobs[task]?.map (·.phase.stand)

/-- What a task has asked of others, in order. -/
def deeds (l : Loop) (task : Nat) : List Deed := l.trace.filterMap (Event.deed? task)

def ticket? (l : Loop) (task : Nat) : Option Ticket := l.jobs[task]?.bind (·.ticket)

end Loop

def Scene.stand? (s : Scene) (task : Nat) : Option Stand :=
  match s.focus with
  | .running id flow => if id = task then some (.going flow) else s.loop.stand? task
  | _ => s.loop.stand? task

/-- Where no task takes a step, all stand where the loop left them. -/
theorem Scene.stand?_of_free {f : Focus} (hf : f.IsFree) (l : Loop) (task : Nat) :
    (⟨l, f⟩ : Scene).stand? task = l.stand? task := by
  cases f with
  | running id flow => exact absurd hf (by simp [Focus.IsFree])
  | idle => rfl
  | inside id => rfl

theorem Scene.job_of_stand? {s : Scene} {i : Nat} {σ : Stand} (h : s.stand? i = some σ)
    (hb : s.focus.task? ≠ some i) : ∃ j, s.loop.jobs[i]? = some j ∧ j.phase.stand = σ := by
  have hl : s.loop.stand? i = some σ := by
    unfold Scene.stand? at h
    cases hf : s.focus with
    | running id flow =>
      rw [hf] at h hb
      have hne : id ≠ i := fun he => hb (by rw [he]; rfl)
      simpa only [if_neg hne] using h
    | idle => simpa only [hf] using h
    | inside id => simpa only [hf] using h
  exact Option.map_eq_some_iff.mp hl

theorem Phase.eq_of_stand {p : Phase} {e : Ending} (h : p.stand = .ended e) : p = .ended e := by
  cases p with
  | ended e' => rw [Stand.ended.inj h]
  | fresh flow => cases h
  | parked w => cases h
  | woken w b => cases h

/-- A task that has ended takes no step. -/
theorem Scene.task?_of_ended {s : Scene} {i : Nat} {e : Ending} (h : s.stand? i = some (.ended e)) :
    s.focus.task? ≠ some i := by
  intro hf
  cases hfocus : s.focus with
  | running id flow =>
    rw [hfocus] at hf
    simp [Scene.stand?, hfocus, Option.some.inj hf] at h
  | idle => simp [hfocus, Focus.task?] at hf
  | inside id => simp [hfocus, Focus.task?] at hf

/-- A task that has ended was cancelled exactly when it ended by that. -/
theorem Scene.isCancelled_iff {s : Scene} {i : Nat} {e : Ending}
    (h : s.stand? i = some (.ended e)) : s.loop.isCancelled i = true ↔ e = .interrupted := by
  obtain ⟨j, hj, hp⟩ := Scene.job_of_stand? h (Scene.task?_of_ended h)
  have hphase := Phase.eq_of_stand hp
  cases e <;> simp [Loop.isCancelled, hj, Job.isCancelled, hphase]

theorem Scene.isCancelled_of_stand? {s : Scene} {i : Nat}
    (h : s.stand? i = some (.ended .interrupted)) : s.loop.isCancelled i = true :=
  (Scene.isCancelled_iff h).mpr rfl

/-- A turn of a task, with what it asks of others. A task that was cancelled goes on as one that
is interrupted. -/
inductive Turn (l : Loop) : Stand → List Deed → Stand → Prop where
  | rest (σ : Stand) : Turn l σ [] σ
  | log (line : Log.Line) (next : Flow Delivery) : Turn l (.going (.log line next)) [] (.going next)
  | client (next : Client → Flow Delivery) :
    Turn l (.going (.client next)) [] (.going (next l.client))
  | session (next : SessionView → Flow Delivery) (v : SessionView) :
    Turn l (.going (.session next)) [] (.going (next v))
  | send (place : Nat) (r : Request) (next : Answer → Flow Delivery) (p : Reply) :
    Turn l (.going (.send place r next)) [.request r (l.cookies? place r)]
      (.going (p.answered next))
  | hear (place : Nat) (r : Response) (next : Flow Delivery) :
    Turn l (.going (.hear place r next)) [] (.going next)
  | call (o : Outgoing) (next : TransportResult → Flow Delivery) :
    Turn l (.going (.call o next)) [.call l.jobs.length o]
      (.going (.join l.jobs.length fun d => next d.asTransport))
  | join (id : Nat) (next : Delivery → Flow Delivery) (d : Delivery) (h : l.outcome? id = some d) :
    Turn l (.going (.join id next)) [] (.going (next d))
  | gate (name : String) (stubborn : Bool) (next : Flow Delivery) :
    Turn l (.going (.gate name stubborn next)) [] (.going next)
  | interrupt (f : Flow Delivery) : Turn l (.going f) [] (.going .interrupt)
  | ending (f : Flow Delivery) (e : Ending) (h : f.ending? = some e) : Turn l (.going f) [] (.ended e)

/-- Two states between which tasks stay where they are; there may be new ones. -/
structure Loop.Calm (l l' : Loop) : Prop where
  stand : ∀ i < l.jobs.length, l'.stand? i = l.stand? i
  ticket : ∀ i < l.jobs.length, l'.ticket? i = l.ticket? i
  length : l.jobs.length ≤ l'.jobs.length

namespace Loop.Calm

theorem refl (l : Loop) : l.Calm l := ⟨fun _ _ => rfl, fun _ _ => rfl, Nat.le_refl _⟩

theorem of_jobs {l l' : Loop} (h : l'.jobs = l.jobs) : l.Calm l' := by
  refine ⟨?_, ?_, ?_⟩
  · intro i _
    simp only [stand?, h]
  · intro i _
    simp only [ticket?, h]
  · exact Nat.le_of_eq (congrArg List.length h).symm

theorem trans {a b c : Loop} (h : a.Calm b) (h' : b.Calm c) : a.Calm c where
  stand i hi := (h'.stand i (Nat.lt_of_lt_of_le hi h.length)).trans (h.stand i hi)
  ticket i hi := (h'.ticket i (Nat.lt_of_lt_of_le hi h.length)).trans (h.ticket i hi)
  length := Nat.le_trans h.length h'.length

end Loop.Calm

namespace Loop

theorem Stirred.calm {l l' : Loop} (h : l.Stirred l') : l.Calm l' where
  stand i hi := by
    have hj : l.jobs[i]? = some l.jobs[i] := List.getElem?_eq_getElem hi
    obtain ⟨j', hj', hs⟩ := h.job i _ hj
    unfold stand?
    rw [hj, hj']
    rcases hs.phase with hp | ⟨w, b, hp, hp'⟩
    · simp only [Option.map_some, hp]
    · simp only [Option.map_some, hp, hp', Phase.stand]
  ticket i hi := by
    have hj : l.jobs[i]? = some l.jobs[i] := List.getElem?_eq_getElem hi
    obtain ⟨j', hj', hs⟩ := h.job i _ hj
    unfold ticket?
    rw [hj, hj']
    exact hs.ticket
  length := Nat.le_of_eq h.length.symm

theorem spawn_calm (l : Loop) (flow : Flow Delivery) (t : Option Ticket) :
    l.Calm (l.spawn flow t).2 where
  stand i hi := by simp only [stand?, spawn_jobs, List.getElem?_append_left hi]
  ticket i hi := by simp only [ticket?, spawn_jobs, List.getElem?_append_left hi]
  length := by simp

theorem spawn_stand? (l : Loop) (flow : Flow Delivery) (t : Option Ticket) :
    (l.spawn flow t).2.stand? l.jobs.length = some (.going flow) := by
  simp [stand?, Phase.stand]

theorem act_calm (l : Loop) (a : Act) : l.Calm (l.act a) := by
  cases a with
  | cancel i => exact (cancel_stirred l i).calm
  | interrupt i => exact (interruptJob_stirred l i).calm
  | start s => exact spawn_calm l _ _
  | await i => exact spawn_calm l _ _
  | release gate => exact (release_stirred l gate).calm
  | note i seen => exact .of_jobs rfl
  | assign c => exact .of_jobs rfl
  | openSession => exact .of_jobs rfl
  | beginClose => exact .of_jobs rfl
  | finishClose => exact .of_jobs rfl
  | prepareReply p => exact .of_jobs rfl

theorem deliver_calm (l : Loop) (task : Nat) (d : Delivery) : l.Calm (l.deliver task d) where
  stand i _ := by
    simp only [stand?, deliver, record_jobs, getElem?_update]
    split
    · cases l.jobs[i]? <;> rfl
    · rfl
  ticket i _ := by
    simp only [ticket?, deliver, record_jobs, getElem?_update]
    split
    · cases l.jobs[i]? <;> rfl
    · rfl
  length := by simp [deliver]

theorem afterCallback_calm (l : Loop) (task : Nat) (t : Ticket) (c : Callback) (d : Delivery) :
    l.Calm (l.afterCallback task t c d) := by
  have hlog : l.Calm (l.record (.log task (callbackLine t))) := .of_jobs rfl
  exact afterCallback_cases (P := fun l' => l.Calm l') (fun _ => .refl l) (deliver_calm l task d)
    (hlog.trans (deliver_calm _ task d))

theorem record_deeds (l : Loop) (i : Nat) (e : Event) :
    (l.record e).deeds i = l.deeds i ++ (e.deed? i).toList := by
  unfold deeds
  rw [record_trace, List.filterMap_append]
  cases h : e.deed? i with
  | none => simp [h]
  | some d => simp [h]

theorem record_deeds_quiet (l : Loop) (i : Nat) {e : Event} (he : e.IsQuiet) :
    (l.record e).deeds i = l.deeds i := by
  rw [record_deeds]
  cases e <;> simp_all [Event.IsQuiet, Event.deed?]

theorem deeds_of_trace {l l' : Loop} (h : l'.trace = l.trace) (i : Nat) :
    l'.deeds i = l.deeds i := by
  simp only [deeds, h]

theorem announce_deeds (l : Loop) (i task : Nat) (t : Ticket) (e : Ending) :
    (l.announce task t e).deeds i = l.deeds i := by
  unfold announce
  split
  · exact record_deeds_quiet l i (by trivial)
  · rfl

theorem deliver_deeds (l : Loop) (i task : Nat) (d : Delivery) :
    (l.deliver task d).deeds i = l.deeds i :=
  record_deeds_quiet (l.update task fun j => { j with outcome := some d }) i
    (e := .delivery task d) (by trivial)

theorem afterCallback_deeds (l : Loop) (i task : Nat) (t : Ticket) (c : Callback) (d : Delivery) :
    (l.afterCallback task t c d).deeds i = l.deeds i := by
  have hlog : (l.record (.log task (callbackLine t))).deeds i = l.deeds i :=
    record_deeds_quiet l i (by trivial)
  exact afterCallback_cases (P := fun l' => l'.deeds i = l.deeds i) (fun _ => rfl)
    (deliver_deeds l i task d) ((deliver_deeds _ i task d).trans hlog)

theorem act_deeds (l : Loop) (i : Nat) (a : Act) : (l.act a).deeds i = l.deeds i := by
  cases a with
  | cancel task => exact deeds_of_trace (cancel_stirred l task).trace i
  | interrupt task => exact deeds_of_trace (interruptJob_stirred l task).trace i
  | release gate => exact deeds_of_trace (release_stirred l gate).trace i
  | note task seen => exact record_deeds_quiet l i (by trivial)
  | start s => rfl
  | await task => rfl
  | assign c => rfl
  | openSession => rfl
  | beginClose => rfl
  | finishClose => rfl
  | prepareReply p => rfl

end Loop

/-- A task that was started for a request has not taken a step. -/
def Scene.Starts (s : Scene) (task : Nat) (o : Outgoing) : Prop :=
  s.stand? task = some (.going (.transport <$> Exchange.flow o)) ∧
    s.loop.ticket? task = some (Loop.requestTicket o none) ∧ task < s.loop.jobs.length

/-- What a step of the loop is to a task: a turn of its own, with the deeds of that turn. A request
that it makes is a task that starts. -/
structure Scene.Turns (task : Nat) (s s' : Scene) : Prop where
  turn : ∀ σ, s.stand? task = some σ → ∃ ds σ', s'.stand? task = some σ' ∧
    s'.loop.deeds task = s.loop.deeds task ++ ds ∧ Turn s.loop σ ds σ' ∧
    ∀ k o, .call k o ∈ ds → s'.Starts k o
  held : s.focus.task? ≠ some task → s'.stand? task = s.stand? task ∨
    ∃ j f, s.loop.jobs[task]? = some j ∧ j.next? = some f ∧ s'.stand? task = some (.going f)
  ticket : s'.loop.ticket? task = s.loop.ticket? task
  length : task < s'.loop.jobs.length

namespace Scene.Turns

theorem still {s s' : Scene} {i : Nat} (hi : i < s.loop.jobs.length) (hc : s.loop.Calm s'.loop)
    (hd : s'.loop.deeds i = s.loop.deeds i) (hs : s.stand? i = s.loop.stand? i)
    (hs' : s'.stand? i = s'.loop.stand? i) : Turns i s s' where
  turn σ hσ := by
    refine ⟨[], σ, ?_, by rw [hd, List.append_nil], .rest σ, by simp⟩
    rw [hs', hc.stand i hi, ← hs, hσ]
  held _ := .inl (by rw [hs', hc.stand i hi, ← hs])
  ticket := hc.ticket i hi
  length := Nat.lt_of_lt_of_le hi hc.length

/-- A task that goes on takes its turn, and the others stay where they are. -/
theorem run {l l' : Loop} {f f' : Flow Delivery} {ds : List Deed} {task i : Nat}
    (hi : i < l.jobs.length) (hc : l.Calm l')
    (hd : l'.deeds i = l.deeds i ++ if task = i then ds else [])
    (m : Turn l (.going f) ds (.going f'))
    (hk : task = i → ∀ k o, .call k o ∈ ds → Starts ⟨l', .running task f'⟩ k o) :
    Turns i ⟨l, .running task f⟩ ⟨l', .running task f'⟩ where
  turn σ hσ := by
    by_cases he : task = i
    · simp only [stand?, if_pos he] at hσ ⊢
      obtain rfl := Option.some.inj hσ
      exact ⟨ds, _, rfl, by rw [hd, if_pos he], m, hk he⟩
    · simp only [stand?, if_neg he] at hσ ⊢
      exact ⟨[], σ, by rw [hc.stand i hi, hσ], by rw [hd, if_neg he], .rest σ, by simp⟩
  held hb := by
    have hne : task ≠ i := fun he => hb (congrArg some he)
    exact .inl (by simp only [stand?, if_neg hne, hc.stand i hi])
  ticket := hc.ticket i hi
  length := Nat.lt_of_lt_of_le hi hc.length

/-- A task that comes to rest or to its end takes a last turn. -/
theorem stop {l l' : Loop} {f : Flow Delivery} {σ' : Stand} {task i : Nat}
    (hi : i < l.jobs.length) (ht : ∀ k, l'.ticket? k = l.ticket? k)
    (hl : l'.jobs.length = l.jobs.length) (hne : task ≠ i → l'.stand? i = l.stand? i)
    (hself : task = i → l'.stand? i = some σ') (hd : l'.deeds i = l.deeds i)
    (m : Turn l (.going f) [] σ') : Turns i ⟨l, .running task f⟩ ⟨l', .idle⟩ where
  turn σ hσ := by
    by_cases he : task = i
    · simp only [stand?, if_pos he] at hσ
      obtain rfl := Option.some.inj hσ
      exact ⟨[], σ', hself he, by rw [hd, List.append_nil], m, by simp⟩
    · simp only [stand?, if_neg he] at hσ
      exact ⟨[], σ, (hne he).trans hσ, by rw [hd, List.append_nil], .rest σ, by simp⟩
  held hb := by
    have he : task ≠ i := fun he => hb (congrArg some he)
    exact .inl (by simp only [stand?, if_neg he, hne he])
  ticket := ht i
  length := by
    change i < l'.jobs.length
    omega

end Scene.Turns

namespace Loop

theorem setPhase_stand? (l : Loop) {task i : Nat} (p : Phase) (hi : i < l.jobs.length) :
    (l.setPhase task p).stand? i = if task = i then some p.stand else l.stand? i := by
  unfold stand?
  rw [setPhase, getElem?_update]
  split
  · rw [List.getElem?_eq_getElem hi]
    rfl
  · rfl

theorem setPhase_ticket? (l : Loop) (task i : Nat) (p : Phase) :
    (l.setPhase task p).ticket? i = l.ticket? i := by
  unfold ticket?
  rw [setPhase, getElem?_update]
  split
  · cases l.jobs[i]? <;> rfl
  · rfl

end Loop

/-- A task is interrupted at its next step, or it goes on where it stands, or behind the gate at which
it stands. -/
theorem Job.next?_cases {j : Job} {f : Flow Delivery} (h : j.next? = some f) :
    (∃ g, j.phase.stand = .going g) ∧ f = .interrupt ∨ j.phase.stand = .going f ∨
      ∃ name stubborn, j.phase.stand = .going (.gate name stubborn f) := by
  unfold Job.next? at h
  split at h
  · rename_i flow hp
    obtain rfl := Option.some.inj h
    rw [hp]
    split
    · exact .inl ⟨⟨flow, rfl⟩, rfl⟩
    · exact .inr (.inl rfl)
  · rename_i w b hp
    obtain rfl := Option.some.inj h
    rw [hp]
    generalize (b || j.cancelRequested) = cut
    cases w with
    | gate name stubborn next =>
      cases stubborn with
      | true => exact .inr (.inr ⟨name, true, rfl⟩)
      | false =>
        cases cut with
        | true => exact .inl ⟨⟨_, rfl⟩, rfl⟩
        | false => exact .inr (.inr ⟨name, false, rfl⟩)
    | task id next =>
      cases cut with
      | true => exact .inl ⟨⟨_, rfl⟩, rfl⟩
      | false => exact .inr (.inl rfl)
  · cases h

theorem Job.next_turn {l : Loop} {j : Job} {f : Flow Delivery} (h : j.next? = some f) :
    Turn l j.phase.stand [] (.going f) := by
  rcases Job.next?_cases h with ⟨⟨g, hg⟩, rfl⟩ | hg | ⟨name, stubborn, hg⟩
  · exact hg ▸ .interrupt g
  · exact hg ▸ .rest _
  · exact hg ▸ .gate name stubborn f

namespace Loop

theorem finish_stand? (l : Loop) (task : Nat) {i : Nat} (e : Ending) (hi : i < l.jobs.length) :
    (l.finish task e).stand? i = if task = i then some (.ended e) else l.stand? i := by
  have hcalm : (l.setPhase task (.ended e)).Calm (l.finish task e) := .of_jobs (l.finish_jobs task e)
  have hlen : (l.setPhase task (.ended e)).jobs.length = l.jobs.length := update_length l task _
  rw [hcalm.stand i (hlen ▸ hi)]
  exact l.setPhase_stand? (.ended e) hi

end Loop

/-- What each step of the loop is to a task. -/
theorem Step.turns {s s' : Scene} (hs : Step s s') {i : Nat} (hi : i < s.loop.jobs.length) :
    Scene.Turns i s s' := by
  cases hs with
  | log l task line next =>
    refine .run hi (.of_jobs rfl) ?_ (.log line next) (by simp)
    rw [Loop.record_deeds_quiet l i (by trivial)]
    split <;> simp
  | client l task next =>
    refine .run hi (.refl l) ?_ (.client next) (by simp)
    split <;> simp
  | session l task next =>
    refine .run hi (.of_jobs rfl) ?_ (.session next _) (by simp)
    change l.deeds i = l.deeds i ++ _
    split <;> simp
  | send l task place r next =>
    refine .run hi (.of_jobs rfl) ?_ (.send place r next (l.server.take r).1) (by simp)
    rw [Loop.sent, Loop.record_deeds, Event.deed?]
    change l.deeds i ++ _ = l.deeds i ++ _
    split <;> simp
  | hear l task place r next =>
    refine .run hi (.of_jobs rfl) ?_ (.hear place r next) (by simp)
    change l.deeds i = l.deeds i ++ _
    split <;> simp
  | call l task o next =>
    refine .run hi ((Loop.spawn_calm l _ _).trans (.of_jobs rfl)) ?_ (.call o next) ?_
    · rw [Loop.called, Loop.record_deeds, Event.deed?]
      change l.deeds i ++ _ = l.deeds i ++ _
      split <;> simp
    · intro he k o' hk
      obtain ⟨rfl, rfl⟩ := Deed.call.inj (List.mem_singleton.mp hk)
      have hne : task ≠ l.jobs.length := by
        rw [he]
        exact Nat.ne_of_lt hi
      refine ⟨?_, ?_, ?_⟩
      · exact (if_neg hne).trans (l.spawn_stand? _ _)
      · simp [Loop.ticket?, Loop.called, Loop.startRequest]
      · simp [Loop.called, Loop.startRequest]
  | join l task id next d hd =>
    refine .run hi (.refl l) ?_ (.join id next d hd) (by simp)
    split <;> simp
  | gate l task name stubborn next ho =>
    refine .run hi (.refl l) ?_ (.gate name stubborn next) (by simp)
    split <;> simp
  | park l task w hw =>
    have hstand : (l.park task w).stand? i = if task = i then some (.going w.flow) else l.stand? i :=
      l.setPhase_stand? (.parked w) hi
    refine .stop hi (fun k => l.setPhase_ticket? task k _) (Loop.update_length l task _) ?_ ?_
      (Loop.deeds_of_trace rfl i) (.rest _)
    · intro hne
      rw [hstand, if_neg hne]
    · intro he
      rw [hstand, if_pos he]
  | ending l task f e he =>
    have hjobs := l.finish_jobs task e
    have hlen : (l.setPhase task (.ended e)).jobs.length = l.jobs.length := Loop.update_length l task _
    have hstand := l.finish_stand? task e hi
    refine .stop hi ?_ (hjobs ▸ hlen) ?_ ?_ (Loop.deeds_of_trace (l.finish_trace task e) i)
      (.ending f e he)
    · intro k
      unfold Loop.ticket?
      rw [hjobs]
      exact l.setPhase_ticket? task k _
    · intro hne
      rw [hstand, if_neg hne]
    · intro hself
      rw [hstand, if_pos hself]
  | resume l place task j f hr hj hf =>
    have hstir : (l.drop place).Stirred ((l.drop place).pickUp task j) := Loop.pickUp_stirred _ task j
    have hcalm : l.Calm ((l.drop place).pickUp task j) :=
      (Loop.Calm.of_jobs rfl : l.Calm (l.drop place)).trans hstir.calm
    have hdeeds : ((l.drop place).pickUp task j).deeds i = l.deeds i :=
      Loop.deeds_of_trace hstir.trace i
    have hrest (he : task ≠ i) :
        (⟨(l.drop place).pickUp task j, .running task f⟩ : Scene).stand? i = l.stand? i := by
      change (if task = i then _ else _) = _
      rw [if_neg he, hcalm.stand i hi]
    refine ⟨?_, ?_, hcalm.ticket i hi, Nat.lt_of_lt_of_le hi hcalm.length⟩
    · intro σ hσ
      by_cases he : task = i
      · subst he
        have hσ' : j.phase.stand = σ := by
          change l.jobs[task]?.map _ = some σ at hσ
          rw [hj] at hσ
          exact Option.some.inj hσ
        refine ⟨[], .going f, if_pos rfl, by rw [hdeeds, List.append_nil], ?_, by simp⟩
        exact hσ' ▸ Job.next_turn hf
      · exact ⟨[], σ, (hrest he).trans hσ, by rw [hdeeds, List.append_nil], .rest σ, by simp⟩
    · intro _
      by_cases he : task = i
      · subst he
        exact .inr ⟨j, f, hj, hf, if_pos rfl⟩
      · exact .inl (hrest he)
  | complete l place task j t e hr hj hd hc =>
    have hann : l.Calm ((l.drop place).announce task t e) :=
      .of_jobs (Loop.announce_jobs (l.drop place) task t e)
    refine .still hi (hann.trans (Loop.deliver_calm _ task _)) ?_ rfl rfl
    · exact (Loop.deliver_deeds _ i task _).trans (Loop.announce_deeds _ i task t e)
  | callback l place task j t e c hr hj hd hc =>
    refine .still hi (.of_jobs (Loop.announce_jobs (l.drop place) task t e)) ?_ rfl rfl
    rw [Loop.record_deeds_quiet _ i (by trivial)]
    exact Loop.announce_deeds _ i task t e
  | leave l task j t e c hj hd hc =>
    exact .still hi (Loop.afterCallback_calm l task t c _) (Loop.afterCallback_deeds l i task t c _)
      rfl rfl
  | relay l place waiter task hr =>
    have hstir := Loop.relay_stirred (l.drop place) waiter task
    refine .still hi ?_ (Loop.deeds_of_trace hstir.trace i) rfl rfl
    exact (Loop.Calm.of_jobs rfl : l.Calm (l.drop place)).trans hstir.calm
  | skip l place h hr hst => exact .still hi (.of_jobs rfl) (Loop.deeds_of_trace rfl i) rfl rfl
  | act l f a hf =>
    exact .still hi (Loop.act_calm l a) (Loop.act_deeds l i a) (Scene.stand?_of_free hf l i)
      (Scene.stand?_of_free hf _ i)

/-- Only the task that takes a step does anything. -/
theorem Step.deeds {s s' : Scene} (hs : Step s s') {i : Nat} (hi : s.focus.task? ≠ some i) :
    s'.loop.deeds i = s.loop.deeds i := by
  cases hs with
  | log l task line next => exact Loop.record_deeds_quiet l i (by trivial)
  | client l task next => rfl
  | session l task next => rfl
  | send l task place r next =>
    have hne : task ≠ i := fun h => hi (congrArg some h)
    change (l.sent task place r).deeds i = l.deeds i
    rw [Loop.sent, Loop.record_deeds, Event.deed?, if_neg hne]
    exact List.append_nil _
  | hear l task place r next => rfl
  | call l task o next =>
    have hne : task ≠ i := fun h => hi (congrArg some h)
    change (l.called task o).deeds i = l.deeds i
    rw [Loop.called, Loop.record_deeds, Event.deed?, if_neg hne]
    exact List.append_nil _
  | join l task id next d hd => rfl
  | gate l task name stubborn next ho => rfl
  | park l task w hw => rfl
  | ending l task f e he =>
    exact Loop.deeds_of_trace (l.finish_trace task e) i
  | resume l place task j f hr hj hf =>
    exact Loop.deeds_of_trace (Loop.pickUp_stirred (l.drop place) task j).trace i
  | complete l place task j t e hr hj hd hc =>
    exact (Loop.deliver_deeds _ i task _).trans (Loop.announce_deeds _ i task t e)
  | callback l place task j t e c hr hj hd hc =>
    exact (Loop.record_deeds_quiet _ i (by trivial)).trans
      (Loop.announce_deeds (l.drop place) i task t e)
  | leave l task j t e c hj hd hc => exact Loop.afterCallback_deeds l i task t c _
  | relay l place waiter task hr =>
    exact Loop.deeds_of_trace (Loop.relay_stirred (l.drop place) waiter task).trace i
  | skip l place h hr hst => rfl
  | act l f a hf => exact Loop.act_deeds l i a

theorem Step.running {s s' : Scene} (hs : Step s s') {i : Nat} (hi : s'.focus.task? = some i) :
    s.focus.task? = some i ∨ i < s.loop.jobs.length := by
  cases hs with
  | resume l place task j f hr hj hf =>
    obtain rfl := Option.some.inj hi
    exact .inr (List.getElem?_eq_some_iff.mp hj).1
  | _ => first | exact .inl hi | cases hi

theorem Step.length {s s' : Scene} (hs : Step s s') :
    s.loop.jobs.length ≤ s'.loop.jobs.length := by
  by_cases h0 : s.loop.jobs.length = 0
  · omega
  · have hlt : s.loop.jobs.length - 1 < s.loop.jobs.length := by omega
    have := (hs.turns hlt).length
    omega

theorem Steps.length {s s' : Scene} (hr : Steps s s') :
    s.loop.jobs.length ≤ s'.loop.jobs.length := by
  induction hr with
  | refl => exact Nat.le_refl _
  | tail _ hs ih => exact Nat.le_trans ih hs.length

/-- A step leaves a task where it has ended. -/
theorem Step.ended {s s' : Scene} (hs : Step s s') {i : Nat} {e : Ending}
    (hi : i < s.loop.jobs.length) (hσ : s.stand? i = some (.ended e)) :
    s'.stand? i = some (.ended e) := by
  obtain ⟨ds, σ', hσ', -, hm, -⟩ := (hs.turns hi).turn _ hσ
  cases hm with
  | rest => exact hσ'

theorem Steps.ended {s s' : Scene} (hs : Steps s s') {i : Nat} {e : Ending}
    (hi : i < s.loop.jobs.length) (hσ : s.stand? i = some (.ended e)) :
    s'.stand? i = some (.ended e) := by
  induction hs with
  | refl => exact hσ
  | tail hr hs ih => exact hs.ended (Nat.lt_of_lt_of_le hi (Steps.length hr)) ih

theorem Steps.ticket? {s s' : Scene} (hr : Steps s s') {i : Nat} (hi : i < s.loop.jobs.length) :
    s'.loop.ticket? i = s.loop.ticket? i := by
  induction hr with
  | refl => rfl
  | tail hr hs ih => exact (hs.turns (Nat.lt_of_lt_of_le hi (Steps.length hr))).ticket.trans ih

end Storefront
