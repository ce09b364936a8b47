import Storefront.Proofs.Requests
import Storefront.Proofs.Sparing

/-! How a cancellation passes from an operation to its requests. An operation that was cancelled starts
no further request, and the one that it waits for is cancelled when the operation is told. -/
namespace Storefront

/-- A flow that waits for no tasks but those that it starts itself. -/
def Flow.Apart {α : Type} : Flow α → Prop
  | .finish _ => True
  | .escape _ => True
  | .interrupt => True
  | .log _ next => next.Apart
  | .client next => ∀ c, (next c).Apart
  | .session next => ∀ v, (next v).Apart
  | .send _ _ next => ∀ a, (next a).Apart
  | .hear _ _ next => next.Apart
  | .call _ next => ∀ r, (next r).Apart
  | .join _ _ => False
  | .gate _ _ next => next.Apart

theorem Flow.Heeds.apart {α : Type} {P : Outgoing → Prop} {ends : α → Prop} {f : Flow α}
    (h : f.Heeds (.sort P) (fun _ => ends) ()) : f.Apart := by
  induction f with
  | finish a => trivial
  | escape cause => trivial
  | interrupt => trivial
  | log line next ih => exact ih h
  | client next ih => exact fun c => ih c (h c trivial)
  | session next ih => exact fun v => ih v (h v)
  | send place r next ih => exact h.elim
  | hear place r next ih => exact h.elim
  | call o next ih => exact fun r => ih r (h.2 r trivial)
  | join id next ih => exact h.elim
  | gate name stubborn next ih => exact h.elim

/-- The task whose result a task waits for. -/
def Job.awaited? (j : Job) : Option Nat :=
  match j.phase with
  | .parked (.task id _) => some id
  | .woken (.task id _) _ => some id
  | _ => none

def Loop.awaited? (l : Loop) (task : Nat) : Option Nat := l.jobs[task]?.bind (·.awaited?)

/-- A task that waits for nothing but what it has asked itself. -/
inductive Scene.Apart (s : Scene) (i : Nat) : Prop where
  | going (f : Flow Delivery) (hσ : s.stand? i = some (.going f)) (hf : f.Apart)
  | asking (k : Nat) (o : Outgoing) (next : TransportResult → Flow Delivery)
      (hσ : s.stand? i = some (.going (.join k fun d => next d.asTransport)))
      (hk : .call k o ∈ s.loop.deeds i) (hf : ∀ r, (next r).Apart)
  | ended (e : Ending) (hσ : s.stand? i = some (.ended e))

theorem Step.apart {s s' : Scene} (hs : Step s s') {i : Nat} (hi : i < s.loop.jobs.length)
    (h : s.Apart i) : s'.Apart i := by
  have hturn := (hs.turns hi).turn
  cases h with
  | going f hσ hf =>
    obtain ⟨ds, σ', hσ', hd, hm, -⟩ := hturn _ hσ
    cases hm with
    | rest => exact .going f hσ' hf
    | log line next => exact .going next hσ' hf
    | client next => exact .going _ hσ' (hf s.loop.client)
    | session next v => exact .going _ hσ' (hf v)
    | send place r next p =>
      refine .going _ hσ' ?_
      unfold Reply.answered
      split
      · exact hf p.answer
      · exact hf p.answer
    | hear place r next => exact .going next hσ' hf
    | call o next => exact .asking s.loop.jobs.length o next hσ' (by simp [hd]) hf
    | join id next d ho => exact hf.elim
    | gate name stubborn next => exact .going next hσ' hf
    | interrupt => exact .going .interrupt hσ' trivial
    | ending _ e he => exact .ended e hσ'
  | asking k o next hσ hk hf =>
    obtain ⟨ds, σ', hσ', hd, hm, -⟩ := hturn _ hσ
    cases hm with
    | rest => exact .asking k o next hσ' (by simp [hd, hk]) hf
    | join _ _ d ho => exact .going _ hσ' (hf d.asTransport)
    | interrupt => exact .going .interrupt hσ' trivial
    | ending _ e he => cases he
  | ended e hσ =>
    obtain ⟨ds, σ', hσ', -, hm, -⟩ := hturn _ hσ
    cases hm with
    | rest => exact .ended e hσ'

theorem Steps.apart {s s' : Scene} (hr : Steps s s') {i : Nat} (hi : i < s.loop.jobs.length)
    (h : s.Apart i) : s'.Apart i := by
  induction hr with
  | refl => exact h
  | tail hr hs ih => exact hs.apart (Nat.lt_of_lt_of_le hi (Steps.length hr)) ih

theorem Job.stand_of_awaited? {j : Job} {k : Nat} (h : j.awaited? = some k) :
    ∃ next, j.phase.stand = .going (.join k next) := by
  unfold Job.awaited? at h
  split at h
  · rename_i id next hp
    obtain rfl := Option.some.inj h
    rw [hp]
    exact ⟨next, rfl⟩
  · rename_i id next b hp
    obtain rfl := Option.some.inj h
    rw [hp]
    exact ⟨next, rfl⟩
  · cases h

/-- What such a task waits for is a request of its own. -/
theorem Scene.Apart.awaited {s : Scene} {i k : Nat} (h : s.Apart i) (hb : s.focus.task? ≠ some i)
    (ha : s.loop.awaited? i = some k) : ∃ o, .call k o ∈ s.loop.deeds i := by
  obtain ⟨j, hj, hja⟩ := Option.bind_eq_some_iff.mp ha
  obtain ⟨next, hstand⟩ := Job.stand_of_awaited? hja
  have hσ := Scene.stand?_of_job hj hb
  rw [hstand] at hσ
  cases h with
  | going f hσ' hf =>
    obtain rfl := Stand.going.inj (Option.some.inj (hσ.symm.trans hσ'))
    exact hf.elim
  | asking k' o next' hσ' hk hf =>
    obtain ⟨rfl, -⟩ := Flow.join.inj (Stand.going.inj (Option.some.inj (hσ.symm.trans hσ')))
    exact ⟨o, hk⟩
  | ended e hσ' => cases hσ.symm.trans hσ'

/-! Tasks that have not begun -/

/-- A task that has not taken its first step. -/
def Scene.Unbegun (s : Scene) (i : Nat) : Prop :=
  s.focus.task? ≠ some i ∧ ∃ j f, s.loop.jobs[i]? = some j ∧ j.phase = .fresh f

theorem Job.Meets.fresh {asked : Prop} {j j' : Job} (h : j.Meets asked j') {f : Flow Delivery}
    (hp : j'.phase = .fresh f) : j.phase = .fresh f := by
  cases h with
  | same => exact hp
  | settled d => exact hp
  | called w hw => cases hp
  | asked _ he =>
    unfold Job.asked at hp
    cases hj : j.phase with
    | fresh g => simpa [hj] using hp
    | parked w => simp [hj] at hp
    | woken w b => simp [hj] at hp
    | ended e => simp [Job.hasEnded, hj] at he

/-- A task that comes to rest has begun. -/
theorem Step.begun {s s' : Scene} (hs : Step s s') {i : Nat} (hf : s.focus.task? = some i) :
    ¬ s'.Unbegun i := by
  rintro ⟨hb, j, f, hj, hp⟩
  cases hs with
  | park l task w hw =>
    obtain rfl := Option.some.inj hf
    change (l.setPhase task (.parked w)).jobs[task]? = some j at hj
    rw [Loop.setPhase, Loop.getElem?_update_self] at hj
    obtain ⟨j₀, -, rfl⟩ := Option.map_eq_some_iff.mp hj
    cases hp
  | ending l task g e he =>
    obtain rfl := Option.some.inj hf
    change (l.finish task e).jobs[task]? = some j at hj
    rw [Loop.finish_jobs, Loop.setPhase, Loop.getElem?_update_self] at hj
    obtain ⟨j₀, -, rfl⟩ := Option.map_eq_some_iff.mp hj
    cases hp
  | act l g a hfree => exact absurd hf (by simp [hfree.task?])
  | log => exact hb hf
  | client => exact hb hf
  | session => exact hb hf
  | send => exact hb hf
  | hear => exact hb hf
  | call => exact hb hf
  | join => exact hb hf
  | gate => exact hb hf
  | _ => cases hf

theorem Step.unbegun {s s' : Scene} (hs : Step s s') {i : Nat} (hi : i < s.loop.jobs.length)
    (h : s'.Unbegun i) : s.Unbegun i := by
  by_cases hb : s.focus.task? = some i
  · exact absurd h (hs.begun hb)
  · obtain ⟨hb', j', f, hj', hp⟩ := h
    have hj : s.loop.jobs[i]? = some s.loop.jobs[i] := List.getElem?_eq_getElem hi
    rcases hs.meets hj hb with ⟨-, j'', hj'', hm⟩ | ⟨place, g, -, rfl⟩
    · obtain rfl := Option.some.inj (hj'.symm.trans hj'')
      exact ⟨hb, _, f, hj, hm.fresh hp⟩
    · exact absurd rfl hb'

/-- A task that has not begun has asked for nothing. -/
theorem Reachable.unbegun_deeds {s : Scene} (hr : Reachable s) {i : Nat} (h : s.Unbegun i) :
    s.loop.deeds i = [] := by
  obtain ⟨c, owned, server, keeper, hrun⟩ := hr
  induction hrun with
  | refl => rfl
  | @tail s₁ s₂ hrun hs ih =>
    have hr₁ : Reachable s₁ := ⟨c, owned, server, keeper, hrun⟩
    by_cases hi : i < s₁.loop.jobs.length
    · have h₁ := hs.unbegun hi h
      rw [hs.deeds h₁.1]
      exact ih h₁
    · have hb : s₁.focus.task? ≠ some i := fun he => hi (hr₁.fosters.running i he)
      rw [hs.deeds hb]
      exact hr₁.fosters.unborn i (Nat.le_of_not_lt hi)

/-! The moment at which a task is told -/

/-- A step in which a task goes on only to end early. -/
inductive Scene.Tells (task : Nat) : Scene → Scene → Prop where
  | resume (l : Loop) (place : Nat) (j : Job) (hr : l.ready[place]? = some (.resume task))
      (hj : l.jobs[task]? = some j) (hn : j.next? = some .interrupt) :
    Tells task ⟨l, .idle⟩ ⟨(l.drop place).pickUp task j, .running task .interrupt⟩

theorem Scene.Tells.step {s s' : Scene} {i : Nat} (h : s.Tells i s') : Step s s' := by
  cases h with
  | resume l place j hr hj hn => exact .resume l place i j .interrupt hr hj hn

/-- Who goes on only to end early gives up what it waits for. -/
theorem Job.abandoned?_of_awaited? {j : Job} {k : Nat} (hn : j.next? = some .interrupt)
    (ha : j.awaited? = some k) : j.abandoned? = some k := by
  unfold Job.awaited? at ha
  split at ha
  · rename_i id next hp
    simp [Job.next?, hp] at hn
  · rename_i id next b hp
    obtain rfl := Option.some.inj ha
    unfold Job.abandoned?
    rw [hp]
    unfold Job.next? at hn
    rw [hp] at hn
    cases hb : b || j.cancelRequested with
    | true => exact if_pos hb
    | false => simp [hb, Wait.resumed] at hn
  · cases ha

/-- A task that has not ended can be cancelled. -/
theorem Loop.cancel_accepts {l : Loop} {k : Nat} {j : Job} (hj : l.jobs[k]? = some j)
    (ho : j.outcome = none) (he : j.hasEnded = false) : (l.cancel k).1 = true := by
  have hout : l.outcome? k = none := by
    unfold outcome?
    rw [hj]
    exact ho
  have hacc := interruptJob_accepts hj
  unfold cancel
  simp [hout, hacc, he]

/-- A task that is told cancels the task that it waits for, unless that one has ended. -/
theorem Scene.Tells.cancels {s s' : Scene} {i k : Nat} (h : s.Tells i s') (hin : s.InOrder)
    (ha : s.loop.awaited? i = some k) (hk : k < s.loop.jobs.length)
    (hn : ∀ e, s.stand? k ≠ some (.ended e)) : s.Cancels k s' := by
  cases h with
  | resume l place j hr hj hint =>
    have hja : j.awaited? = some k := by
      unfold Loop.awaited? at ha
      rw [hj] at ha
      exact ha
    have hjk : l.jobs[k]? = some l.jobs[k] := List.getElem?_eq_getElem hk
    have hend : l.jobs[k].hasEnded = false := by
      unfold Job.hasEnded
      split
      · rename_i e hp
        refine absurd ?_ (hn e)
        exact (Scene.stand?_of_job (s := ⟨l, .idle⟩) hjk (by simp [Focus.task?])).trans (by rw [hp]; rfl)
      · rfl
    have hout : l.jobs[k].outcome = none := by
      rw [Option.eq_none_iff_forall_ne_some]
      intro d hd
      have ho : l.outcome? k = some d := by
        unfold Loop.outcome?
        rw [hjk]
        exact hd
      obtain ⟨t, e, hdue, -⟩ := (hin.books k).delivered (.inr (by simp [ho]))
      exact hn e (hin.stand?_of_due? hdue)
    refine .wait l place i j .interrupt hr hj hint (Job.abandoned?_of_awaited? hint hja) ?_
    by_cases he : i = k
    · subst he
      refine Loop.cancel_accepts (j := { l.jobs[i] with cancelRequested := false }) ?_ hout hend
      rw [Loop.getElem?_update_self, Loop.drop_jobs, hjk]
      rfl
    · refine Loop.cancel_accepts (j := l.jobs[k]) ?_ hout hend
      rw [Loop.getElem?_update_ne _ _ he, Loop.drop_jobs, hjk]

/-! What becomes of the requests -/

/-- What has become of a request that a task has made: the task waits for it or has its result, or it
has ended, or it has to. -/
inductive Scene.Minded (s : Scene) (i k : Nat) : Prop where
  | settled (d : Delivery) (ho : s.loop.outcome? k = some d)
  | awaited (next : Delivery → Flow Delivery) (hσ : s.stand? i = some (.going (.join k next)))
  | ended (e : Ending) (hσ : s.stand? k = some (.ended e))
  | doomed (h : s.Doomed k)

theorem Job.Meets.stand {asked : Prop} {j j' : Job} (h : j.Meets asked j') :
    j'.phase.stand = j.phase.stand := by
  cases h with
  | same => rfl
  | settled d => rfl
  | called w hw => rw [hw]; rfl
  | asked _ _ =>
    unfold Job.asked
    cases hp : j.phase <;> simp [hp, Phase.stand]

/-- A task that stands before a result goes on with it, or comes to rest. -/
theorem Step.of_join {s s' : Scene} (hs : Step s s') {l : Loop} {i k : Nat}
    {next : Delivery → Flow Delivery} (h : s = ⟨l, .running i (.join k next)⟩) :
    (∃ d, l.outcome? k = some d ∧ s' = ⟨l, .running i (next d)⟩) ∨
      s' = ⟨l.park i (.task k next), .idle⟩ := by
  cases hs with
  | join l' task id next' d ho =>
    cases h
    exact .inl ⟨d, ho, rfl⟩
  | park l' task w hw =>
    cases w with
    | gate name stubborn next' => cases h
    | task id next' =>
      cases h
      exact .inr rfl
  | ending l' task f e he =>
    cases h
    cases he
  | act l' f a hf =>
    cases h
    exact hf.elim
  | _ => cases h

theorem Scene.focus_of_stand? {s : Scene} {i : Nat} {f : Flow Delivery}
    (hσ : s.stand? i = some (.going f)) (hb : s.focus.task? = some i) :
    s = ⟨s.loop, .running i f⟩ := by
  obtain ⟨l, focus⟩ := s
  cases focus with
  | running task flow =>
    obtain rfl := Option.some.inj hb
    rw [Stand.going.inj (Option.some.inj ((if_pos rfl).symm.trans hσ))]
  | idle => cases hb
  | inside task => cases hb

/-- A task that begins to run was resumed. -/
theorem Step.resumed {s s' : Scene} (hs : Step s s') {i : Nat} (hb : s.focus.task? ≠ some i)
    (hb' : s'.focus.task? = some i) : ∃ place j f, s.focus = .idle ∧
      s.loop.ready[place]? = some (.resume i) ∧ s.loop.jobs[i]? = some j ∧ j.next? = some f ∧
      s' = ⟨(s.loop.drop place).pickUp i j, .running i f⟩ := by
  cases hs with
  | resume l place task j f hr hj hf =>
    obtain rfl := Option.some.inj hb'
    exact ⟨place, j, f, rfl, hr, hj, hf, rfl⟩
  | _ => first | exact absurd hb' hb | cases hb'

/-- A task that has begun to wait for a result goes on waiting, or gives it up. -/
theorem Job.next?_of_join {j : Job} {f : Flow Delivery} {k : Nat} {next : Delivery → Flow Delivery}
    (hp : j.phase.stand = .going (.join k next)) (hbegun : ∀ g, j.phase ≠ .fresh g)
    (hf : j.next? = some f) : f = .join k next ∨ f = .interrupt ∧ j.awaited? = some k := by
  cases hphase : j.phase with
  | fresh g => exact absurd hphase (hbegun g)
  | parked w => simp [next?, hphase] at hf
  | ended e => simp [next?, hphase] at hf
  | woken w b =>
    rw [hphase] at hp
    have hflow := Stand.going.inj hp
    cases w with
    | gate name stubborn next' => cases hflow
    | task id next' =>
      obtain ⟨rfl, rfl⟩ := Flow.join.inj hflow
      have hnext : (Wait.task id next').resumed (b || j.cancelRequested) = f := by
        simpa [next?, hphase] using hf
      cases hb : b || j.cancelRequested with
      | true =>
        rw [hb] at hnext
        exact .inr ⟨hnext.symm, by simp [awaited?, hphase]⟩
      | false =>
        rw [hb] at hnext
        exact .inl hnext.symm

/-- A task that waits for a request goes on waiting, or has its result, or is told and cancels it. -/
theorem Step.minded_of_awaited {s s' : Scene} (hs : Step s s') (hr : Reachable s) {i k : Nat}
    {o : Outgoing} {next : Delivery → Flow Delivery} (hi : i < s.loop.jobs.length)
    (hk : .call k o ∈ s.loop.deeds i) (hc : ∀ σ, s.stand? k = some σ → σ.Complies True)
    (hσ : s.stand? i = some (.going (.join k next))) : s'.Minded i k := by
  have hlt : k < s.loop.jobs.length := (hr.fosters.child i k o hk).1.length
  by_cases hb : s.focus.task? = some i
  · rcases hs.of_join (Scene.focus_of_stand? hσ hb) with ⟨d, ho, -⟩ | rfl
    · exact .settled d (hs.delivered hr.inOrder ho).1
    · exact .awaited next ((s.loop.setPhase_stand? (.parked (.task k next)) hi).trans (if_pos rfl))
  obtain ⟨j, hj, hp⟩ := Scene.job_of_stand? hσ hb
  by_cases hb' : s'.focus.task? = some i
  · obtain ⟨l, focus⟩ := s
    obtain ⟨place, j', f, rfl, hready, hj', hf, rfl⟩ := hs.resumed hb hb'
    obtain rfl := Option.some.inj (hj.symm.trans hj')
    have hbegun (g : Flow Delivery) : j.phase ≠ .fresh g := by
      intro hg
      rw [hr.unbegun_deeds ⟨hb, j, g, hj, hg⟩] at hk
      cases hk
    rcases Job.next?_of_join hp hbegun hf with rfl | ⟨rfl, hawait⟩
    · exact .awaited next (if_pos rfl)
    · have htells : Scene.Tells i ⟨l, .idle⟩ ⟨(l.drop place).pickUp i j, .running i .interrupt⟩ :=
        .resume l place j hready hj hf
      have hawait' : l.awaited? i = some k := by
        unfold Loop.awaited?
        rw [hj]
        exact hawait
      by_cases hend : ∃ e, Scene.stand? ⟨l, .idle⟩ k = some (.ended e)
      · obtain ⟨e, he⟩ := hend
        exact .ended e (hs.ended hlt he)
      · refine .doomed ((htells.cancels hr.inOrder hawait' hlt ?_).doomed hc)
        exact fun e he => hend ⟨e, he⟩
  · rcases hs.meets hj hb with ⟨-, j', hj', hm⟩ | ⟨place, f, -, rfl⟩
    · refine .awaited next ?_
      rw [Scene.stand?_of_job hj' hb', hm.stand, hp]
    · exact absurd rfl hb'

theorem Step.minded {s s' : Scene} (hs : Step s s') (hr : Reachable s) {i k : Nat} {o : Outgoing}
    (hi : i < s.loop.jobs.length) (hk : .call k o ∈ s.loop.deeds i)
    (hc : ∀ σ, s.stand? k = some σ → σ.Complies True) (h : s.Minded i k) : s'.Minded i k := by
  have hlt : k < s.loop.jobs.length := (hr.fosters.child i k o hk).1.length
  cases h with
  | settled d ho => exact .settled d (hs.delivered hr.inOrder ho).1
  | awaited next hσ => exact hs.minded_of_awaited hr hi hk hc hσ
  | ended e hσ => exact .ended e (hs.ended hlt hσ)
  | doomed h => exact .doomed (hs.doomed hlt h)

/-- A request that a task has made does what it is told. -/
theorem Reachable.call_complies {s : Scene} (hr : Reachable s) {i k : Nat} {o : Outgoing}
    (hk : .call k o ∈ s.loop.deeds i) : ∀ σ, s.stand? k = some σ → σ.Complies True := by
  obtain ⟨s₀, -, hs, hopens⟩ := hr.born hk
  exact Steps.complies hs hopens.length (hopens.complies (.own o))

/-- Every request that a task has made since it was started is minded. -/
theorem Steps.minded {s₀ s : Scene} (hs : Steps s₀ s) (hr : Reachable s₀) {i : Nat} {st : Start}
    (ho : s₀.Opens i st) {k : Nat} {o : Outgoing} (hk : .call k o ∈ s.loop.deeds i) :
    s.Minded i k := by
  induction hs with
  | refl =>
    rw [ho.deeds] at hk
    cases hk
  | @tail s₁ s₂ hrun hs ih =>
    have hr₁ : Reachable s₁ := hr.trans hrun
    have hi : i < s₁.loop.jobs.length := Nat.lt_of_lt_of_le ho.length (Steps.length hrun)
    obtain ⟨σ, hσ⟩ := Scene.exists_stand? hi
    obtain ⟨ds, σ', hσ', hd, hm, -⟩ := (hs.turns hi).turn σ hσ
    rw [hd] at hk
    rcases List.mem_append.mp hk with hk | hk
    · exact hs.minded hr₁ hi hk (hr₁.call_complies hk) (ih hk)
    · cases hm with
      | call o' next =>
        obtain ⟨rfl, -⟩ := Deed.call.inj (List.mem_singleton.mp hk)
        exact .awaited _ hσ'
      | _ => simp at hk

/-- When nothing is left to do, the requests of a task that had to end early have delivered. -/
theorem Scene.Minded.delivers {s : Scene} {i k : Nat} (h : s.Minded i k) (hr : Reachable s)
    (hi : s.Doomed i) {o : Outgoing} (hk : .call k o ∈ s.loop.deeds i) (hidle : s.focus = .idle)
    (hempty : s.loop.ready = []) : ∃ d, s.loop.outcome? k = some d := by
  have hticket := (hr.fosters.child i k o hk).2
  cases h with
  | settled d ho => exact ⟨d, ho⟩
  | awaited next hσ => cases hσ.symm.trans (hi.ended hr hidle hempty)
  | ended e hσ => exact ⟨_, hr.delivers hσ hticket (by simp [Loop.requestTicket]) hidle hempty⟩
  | doomed h => exact h.delivers hr hticket (by simp [Loop.requestTicket]) hidle hempty

/-- A task that has to end early asks for nothing more. -/
theorem Step.doomed_deeds {s s' : Scene} (hs : Step s s') {i : Nat} (hi : i < s.loop.jobs.length)
    (h : s.Doomed i) : s'.loop.deeds i = s.loop.deeds i := by
  have hquiet {σ : Stand} (hσ : s.stand? i = some σ)
      (hn : ∀ ds σ', Turn s.loop σ ds σ' → ds = []) : s'.loop.deeds i = s.loop.deeds i := by
    obtain ⟨ds, σ', -, hd, hm, -⟩ := (hs.turns hi).turn σ hσ
    rw [hd, hn ds σ' hm, List.append_nil]
  cases h with
  | called j hj hb hn => exact hs.deeds hb
  | stopping hf =>
    have hσ : s.stand? i = some (.going .interrupt) := by
      unfold Scene.stand?
      rw [hf]
      exact if_pos rfl
    exact hquiet hσ fun ds σ' m => by cases m <;> rfl
  | stopped hσ => exact hquiet hσ fun ds σ' m => by cases m; rfl

theorem Steps.doomed_deeds {s s' : Scene} (hr : Steps s s') {i : Nat}
    (hi : i < s.loop.jobs.length) (h : s.Doomed i) : s'.loop.deeds i = s.loop.deeds i := by
  induction hr with
  | refl => rfl
  | tail hr hs ih =>
    exact (hs.doomed_deeds (Nat.lt_of_lt_of_le hi (Steps.length hr)) (Steps.doomed hr hi h)).trans ih

/-- Nobody takes a step in which a task is cancelled but one who waits for it. -/
theorem Scene.Cancels.deeds {s s' : Scene} {i : Nat} (h : s.Cancels i s') :
    s'.loop.deeds i = s.loop.deeds i := by
  refine h.step.deeds ?_
  cases h with
  | call l f hf h => simp [hf.task?]
  | interrupt l f hf h => simp [hf.task?]
  | wait l place waiter j f hr hj hf ha h => simp [Focus.task?]

/-- How far the cancellation of an operation goes, in every run. Once it was accepted the operation
starts no further request and sends nothing; one that had not begun never does. When the operation is
told, the request that it waits for is cancelled unless that has ended, and then delivers that it was
cancelled. Where nothing is left to do, no request of the operation is under way any more. -/
theorem cancellation_reaches_requests {s₀ s₁ s₂ s : Scene} {c : Client} {op : Operation}
    {callback : Option Callback} {st : Start} {i : Nat} (hr : Reachable s₀) (ho : s₀.Opens i st)
    (hst : c.startOperation op callback = .ok st) (h₁ : Steps s₀ s₁) (hcancel : s₁.Cancels i s₂)
    (h₂ : Steps s₂ s) :
    s.loop.deeds i = s₁.loop.deeds i ∧
    (s₁.Unbegun i → s.loop.calls i = [] ∧ s.loop.sentFor i = []) ∧
    (∀ s₃ s₄ k, Steps s₂ s₃ → s₃.Tells i s₄ → Steps s₄ s → s₃.loop.awaited? i = some k →
      ∃ o, (k, o) ∈ s.loop.calls i ∧ ((∀ e, s₃.stand? k ≠ some (.ended e)) →
        s₃.Cancels k s₄ ∧ ∀ d, s.loop.outcome? k = some d →
          d.TellsCancelled (Loop.requestTicket o none) ∧ s.loop.isCancelled k = true)) ∧
    (s.focus = .idle → s.loop.ready = [] →
      ∀ k o, (k, o) ∈ s.loop.calls i → ∃ d, s.loop.outcome? k = some d) := by
  have hoffered : st.Offered := .operation c op callback st hst
  have h₀₂ : Steps s₀ s₂ := h₁.tail hcancel.step
  have hlt : i < s₂.loop.jobs.length := Nat.lt_of_lt_of_le ho.length (Steps.length h₀₂)
  have hdoomed : s₂.Doomed i := hcancel.doomed (Steps.complies h₁ ho.length (ho.complies hoffered))
  have hdeeds {s' : Scene} (hs : Steps s₂ s') : s'.loop.deeds i = s₁.loop.deeds i :=
    (Steps.doomed_deeds hs hlt hdoomed).trans hcancel.deeds
  have hs : Steps s₀ s := h₀₂.trans h₂
  refine ⟨hdeeds h₂, ?_, ?_, ?_⟩
  · intro hnew
    have hnone : s.loop.deeds i = [] := (hdeeds h₂).trans ((hr.trans h₁).unbegun_deeds hnew)
    constructor
    · rw [Loop.calls, hnone]
      rfl
    · rw [Loop.sentFor, hnone]
      rfl
  · intro s₃ s₄ k h₃ htells h₄ hawait
    have h₀₃ : Steps s₀ s₃ := h₀₂.trans h₃
    have hr₃ : Reachable s₃ := hr.trans h₀₃
    have hapart : s₀.Apart i := by
      obtain ⟨url, -, hflow, -⟩ := Operation.flow_ok (Client.startOperation_ok hst)
      exact .going st.flow ho.stand? (hflow ▸ (op.body_conduct url).apart)
    have hb : s₃.focus.task? ≠ some i := by
      cases htells
      simp [Focus.task?]
    obtain ⟨o, hk⟩ := (Steps.apart h₀₃ ho.length hapart).awaited hb hawait
    have hcall : .call k o ∈ s.loop.deeds i := by
      rw [hdeeds h₂, ← hdeeds h₃]
      exact hk
    refine ⟨o, Loop.mem_calls.mpr hcall, fun hn => ?_⟩
    have hlk : k < s₃.loop.jobs.length := (hr₃.fosters.child i k o hk).1.length
    have hcut : s₃.Cancels k s₄ := htells.cancels hr₃.inOrder hawait hlk hn
    refine ⟨hcut, fun d hd => ?_⟩
    have hdoomed' : s.Doomed k := Steps.doomed h₄
      (Nat.lt_of_lt_of_le hlk hcut.step.length) (hcut.doomed (hr₃.call_complies hk))
    obtain ⟨hcancelled, t, ht, rfl⟩ := hdoomed'.delivered (hr.trans hs).inOrder hd
    obtain rfl := Option.some.inj (((hr.trans hs).fosters.child i k o hcall).2.symm.trans ht)
    exact ⟨Ticket.failed_tellsCancelled _, hcancelled⟩
  · intro hidle hempty k o hk
    have hcall := Loop.mem_calls.mp hk
    exact (Steps.minded hs hr ho hcall).delivers (hr.trans hs) (Steps.doomed h₂ hlt hdoomed) hcall
      hidle hempty

/-- A shop that answers a login only when its gate is open. -/
def Loop.slowLogin : Loop :=
  .ofClient (.named "alice") true
    [{ Reply.ofDocument 200 (.obj [("customer_access_token",
        .obj [("access_token", .str "minted"), ("customer_id", .int 7)])]) with gate := some "door" }]

/-- The login there, when it waits for the answer and was just cancelled. -/
def Loop.cancelledLogin : Loop := (Loop.slowLogin.start .adaLogin).2.settle.act (.cancel 0)

/-- The end of the login there. -/
def Scene.cancelledLogin : Scene := ⟨Loop.cancelledLogin.tick.settle, .idle⟩

/-- A tick in which a task goes on. -/
theorem Loop.tick_of_resume {l : Loop} {task : Nat} {rest : List Handle} {j : Job}
    {f : Flow Delivery} (hr : l.ready = .resume task :: rest) (hj : l.jobs[task]? = some j)
    (hf : j.next? = some f) : l.tick = Loop.advance task f ((l.drop 0).pickUp task j) := by
  have hj' : (l.drop 0).jobs[task]? = some j := hj
  unfold tick
  rw [hr]
  dsimp only
  rw [drop_zero hr, handle, resume, hj']
  dsimp only
  rw [hf]

theorem cancellation_reaches_requests_of_slow_login : ∃ o d,
    (1, o) ∈ Scene.cancelledLogin.loop.calls 0 ∧ (Scene.cancelledLogin.loop.calls 0).length = 1 ∧
    Scene.cancelledLogin.loop.outcome? 1 = some d ∧
    d.TellsCancelled (Loop.requestTicket o none) := by
  have hop : Loop.slowLogin.client.startOperation (.login .ada) none = .ok .adaLogin := by rfl
  have hshop : Reachable ⟨.slowLogin, .idle⟩ := .initial _ _ _
  have hr : Reachable ⟨(Loop.slowLogin.start .adaLogin).2, .idle⟩ :=
    hshop.act trivial (.start .adaLogin)
  have ho : Scene.Opens ⟨(Loop.slowLogin.start .adaLogin).2, .idle⟩ 0 .adaLogin :=
    Scene.Opens.start hshop trivial .adaLogin
  have h₁ : Steps ⟨(Loop.slowLogin.start .adaLogin).2, .idle⟩
      ⟨(Loop.slowLogin.start .adaLogin).2.settle, .idle⟩ := (Loop.settle_steps _).steps
  have hcancel : Scene.Cancels 0 ⟨(Loop.slowLogin.start .adaLogin).2.settle, .idle⟩
      ⟨Loop.cancelledLogin, .idle⟩ := .call _ .idle trivial (by decide +kernel)
  obtain ⟨j, hj, he, hj'⟩ := Loop.cancel_accepted (l := (Loop.slowLogin.start .adaLogin).2.settle)
    (i := 0) (by decide +kernel)
  have hn : j.asked.next? = some .interrupt := by
    refine Job.asked_next? he (Steps.complies h₁ ho.length (ho.complies (.operation _ _ _ _ hop)) _ ?_)
    exact Scene.stand?_of_job hj (by simp [Focus.task?])
  have htells : Scene.Tells 0 ⟨Loop.cancelledLogin, .idle⟩
      ⟨(Loop.cancelledLogin.drop 0).pickUp 0 j.asked, .running 0 .interrupt⟩ :=
    .resume _ 0 j.asked (by decide +kernel) hj' hn
  have h₄ : Steps ⟨(Loop.cancelledLogin.drop 0).pickUp 0 j.asked, .running 0 .interrupt⟩
      .cancelledLogin := by
    have hnext : Loop.cancelledLogin.ready = [.resume 0] := by decide +kernel
    unfold Scene.cancelledLogin
    rw [Loop.tick_of_resume hnext hj' hn]
    exact (Loop.advance_steps 0 .interrupt _).steps.trans (Loop.settle_steps _).steps
  obtain ⟨-, -, htold, hrest⟩ := cancellation_reaches_requests hr ho hop h₁ hcancel
    (Relation.ReflTransGen.head htells.step h₄)
  obtain ⟨o, hcall, hcut⟩ := htold _ _ 1 .refl htells h₄ (by decide +kernel)
  have hready : Scene.cancelledLogin.loop.ready = [] := by
    rw [← List.isEmpty_iff]
    decide +kernel
  obtain ⟨d, hd⟩ := hrest rfl hready 1 o hcall
  refine ⟨o, d, hcall, by decide +kernel, hd, ((hcut fun e hend => ?_).2 d hd).1⟩
  -- the request there still waits at its gate
  have hgoing : (Loop.cancelledLogin.jobs[1]?.map (·.hasEnded)) = some false := by decide +kernel
  obtain ⟨j₁, hj₁, hp⟩ := Scene.job_of_stand? hend (by simp [Focus.task?])
  change Loop.cancelledLogin.jobs[1]? = some j₁ at hj₁
  rw [hj₁] at hgoing
  simp [Job.hasEnded, Phase.eq_of_stand hp] at hgoing

end Storefront
