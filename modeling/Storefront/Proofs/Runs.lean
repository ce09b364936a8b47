import Storefront.Proofs.Jobs

/-! What the loop does by itself is a run: taking the handles of the queue one after the other is
made of steps, and none of them changes the client. -/
namespace Storefront

namespace StillSteps

variable {c : Client}

theorem refl (s : Scene) : StillSteps c s s := Relation.ReflTransGen.refl

/-- A run that begins with a step. -/
theorem cons {s s' s'' : Scene} (h : Step s s') (hc : s'.loop.client = c)
    (hs : StillSteps c s' s'') : StillSteps c s s'' := Relation.ReflTransGen.head ⟨h, hc⟩ hs

theorem one {s s' : Scene} (h : Step s s') (hc : s'.loop.client = c) : StillSteps c s s' :=
  .cons h hc (.refl s')

theorem client {s s' : Scene} (h : StillSteps c s s') (hc : s.loop.client = c) :
    s'.loop.client = c := by
  cases h with
  | refl => exact hc
  | tail _ hs => exact hs.2

theorem append {s s' s'' : Scene} (h : StillSteps c s s') (hs : StillSteps c s' s'') :
    StillSteps c s s'' := Relation.ReflTransGen.trans h hs

end StillSteps

namespace Loop

theorem advance_send (task place : Nat) (r : Request) (next : Answer → Flow Delivery) (l : Loop) :
    advance task (.send place r next) l =
      advance task ((l.server.take r).1.answered next) (l.sent task place r) := by
  rw [advance, Reply.answered]
  dsimp only
  cases (l.server.take r).1.gate with
  | none => rfl
  | some gate => rw [advance]; rfl

/-- A task that runs until it waits or ends takes steps. -/
theorem advance_steps (task : Nat) (f : Flow Delivery) (l : Loop) :
    StillSteps l.client ⟨l, .running task f⟩ ⟨advance task f l, .idle⟩ := by
  induction f generalizing l with
  | finish d => exact .one (.ending l task (.finish d) (.finished d) rfl) (finish_client l task _)
  | escape cause =>
    exact .one (.ending l task (.escape cause) (.escaped cause) rfl) (finish_client l task _)
  | interrupt => exact .one (.ending l task .interrupt .interrupted rfl) (finish_client l task _)
  | log line next ih =>
    rw [advance]
    exact .cons (.log l task line next) rfl (ih (l.record (.log task line)))
  | client next ih =>
    rw [advance]
    exact .cons (.client l task next) rfl (ih l.client l)
  | session next ih =>
    rw [advance]
    exact .cons (.session l task next) rfl (ih _ { l with sessions := l.sessions.touch })
  | send place r next ih =>
    rw [advance_send]
    refine .cons (.send l task place r next) rfl ?_
    rw [Reply.answered]
    cases (l.server.take r).1.gate with
    | none => exact ih _ (l.sent task place r)
    | some gate =>
      dsimp only
      rw [advance]
      by_cases ho : (l.sent task place r).isOpen gate = true
      · rw [if_pos ho]
        exact .cons (.gate _ task gate false _ ho) rfl (ih _ (l.sent task place r))
      · rw [if_neg ho]
        exact .one (.park (l.sent task place r) task (.gate gate false _) (by simpa [Holds] using ho)) rfl
  | hear place r next ih =>
    rw [advance]
    exact .cons (.hear l task place r next) rfl (ih (l.hear place r))
  | call o next ih =>
    rw [advance]
    refine .cons (.call l task o next) rfl ?_
    refine .one (.park (l.called task o) task (.task l.jobs.length _) ?_) rfl
    simp [Holds, outcome?, called, startRequest]
  | join id next ih =>
    rw [advance]
    cases ho : l.outcome? id with
    | none => exact .one (.park l task (.task id next) ho) rfl
    | some d => exact .cons (.join l task id next d ho) rfl (ih d l)
  | gate name stubborn next ih =>
    rw [advance]
    by_cases ho : l.isOpen name = true
    · rw [if_pos ho]
      exact .cons (.gate l task name stubborn next ho) rfl (ih l)
    · rw [if_neg ho]
      exact .one (.park l task (.gate name stubborn next) (by simpa [Holds] using ho)) rfl

theorem drop_zero {l : Loop} {h : Handle} {rest : List Handle} (hr : l.ready = h :: rest) :
    ({ l with ready := rest } : Loop) = l.drop 0 := by
  simp [drop, hr]

theorem afterCallback_client (l : Loop) (task : Nat) (t : Ticket) (c : Callback) (d : Delivery) :
    (l.afterCallback task t c d).client = l.client :=
  afterCallback_cases (P := fun l' => l'.client = l.client) (fun _ => rfl) rfl rfl

/-- A callback may look at its task, but it cannot change it. -/
theorem runCallback_steps (l : Loop) (task : Nat) (c : Callback) {j : Job} {e : Ending}
    (hj : l.jobs[task]? = some j) (he : j.phase = .ended e) :
    StillSteps l.client ⟨l, .inside task⟩ ⟨l.runCallback task c, .inside task⟩ ∧
      (l.runCallback task c).jobs = l.jobs ∧ (l.runCallback task c).client = l.client := by
  cases c with
  | probe =>
    have hc := cancel_of_ended hj he
    unfold runCallback
    rw [hc]
    exact ⟨.one (.act l (.inside task) (.note task _) trivial) rfl, rfl, rfl⟩
  | accept => exact ⟨.refl _, rfl, rfl⟩
  | fail => exact ⟨.refl _, rfl, rfl⟩
  | refuse => exact ⟨.refl _, rfl, rfl⟩
  | abort => exact ⟨.refl _, rfl, rfl⟩

private theorem complete_steps {l : Loop} {task : Nat} {rest : List Handle}
    (hr : l.ready = .complete task :: rest) :
    StillSteps l.client ⟨l, .idle⟩ ⟨(l.drop 0).complete task, .idle⟩ := by
  have h0 : l.ready[0]? = some (.complete task) := by rw [hr]; rfl
  unfold complete
  split
  · rename_i hd
    exact .one (.skip l 0 _ h0 hd) rfl
  · rename_i t e hd
    obtain ⟨j, hj, hjd⟩ := Option.bind_eq_some_iff.mp hd
    have hann := announce_client (l.drop 0) task t e
    dsimp only
    split
    · rename_i hc
      exact .one (.complete l 0 task j t e h0 hj hjd hc) hann
    · rename_i c hc
      have hjobs : ((l.drop 0).announce task t e).jobs = l.jobs := announce_jobs (l.drop 0) task t e
      have hj' : ((l.drop 0).announce task t e).jobs[task]? = some j := by
        rw [hjobs]
        exact hj
      obtain ⟨hsteps, hjobs', hclient⟩ := runCallback_steps
        (((l.drop 0).announce task t e).record (.callback task (deliveryOf t e))) task c hj'
        (Job.ended_of_due? hjd).2
      have hclient' : ((((l.drop 0).announce task t e).record (.callback task (deliveryOf t e))
          ).runCallback task c).client = l.client := hclient.trans hann
      refine .cons (.callback l 0 task j t e c h0 hj hjd hc) hann ?_
      refine .append (hann ▸ hsteps) (.one (.leave _ task j t e c ?_ hjd hc) ?_)
      · rw [hjobs']
        exact hj'
      · exact (afterCallback_client _ task t c _).trans hclient'

/-- The first handle of the queue is taken in steps. -/
theorem tick_steps (l : Loop) : StillSteps l.client ⟨l, .idle⟩ ⟨l.tick, .idle⟩ := by
  unfold tick
  split
  · exact .refl _
  · rename_i h rest hr
    have h0 : l.ready[0]? = some h := by rw [hr]; rfl
    rw [drop_zero hr]
    cases h with
    | resume task =>
      change StillSteps l.client _ ⟨(l.drop 0).resume task, .idle⟩
      unfold resume
      split
      · rename_i hj
        have hj' : l.jobs[task]? = none := hj
        exact .one (.skip l 0 _ h0 (by simp [Stale, hj'])) rfl
      · rename_i j hj
        have hj' : l.jobs[task]? = some j := hj
        split
        · rename_i f hf
          have hc : ((l.drop 0).pickUp task j).client = l.client :=
            (pickUp_stirred (l.drop 0) task j).client
          exact .cons (.resume l 0 task j f h0 hj' hf) hc (hc ▸ advance_steps task f _)
        · rename_i hf
          exact .one (.skip l 0 _ h0 (by simp [Stale, hj', hf])) rfl
    | complete task => exact complete_steps hr
    | relay waiter task => exact .one (.relay l 0 waiter task h0) (relay_stirred _ waiter task).client

theorem tick_client (l : Loop) : l.tick.client = l.client := (tick_steps l).client rfl

/-- What the loop does until its queue is empty is a run. -/
theorem settle_steps (l : Loop) : StillSteps l.client ⟨l, .idle⟩ ⟨l.settle, .idle⟩ := by
  unfold settle
  generalize 256 * (l.jobs.length + l.ready.length + 1) = n
  induction n generalizing l with
  | zero => exact .refl _
  | succ n ih =>
    rw [settleWithin]
    split
    · exact .refl _
    · exact .append (tick_steps l) (tick_client l ▸ ih l.tick)

end Loop

namespace Reachable

theorem initial (c : Client) (owned : Bool) (server : Server)
    (keeper : CookieKeeper := fun _ _ => none) : Reachable (.initial c owned server keeper) :=
  ⟨c, owned, server, keeper, .refl⟩

theorem settle {l : Loop} (h : Reachable ⟨l, .idle⟩) : Reachable ⟨l.settle, .idle⟩ :=
  h.trans l.settle_steps.steps

end Reachable

/-- A loop on which some work was started and nothing else. -/
def Loop.ofWork (w : Work) (callback : Option Callback) : Loop :=
  ((Loop.ofClient {} true []).start (w.start callback)).2

theorem Reachable.ofWork (w : Work) (callback : Option Callback) :
    Reachable ⟨.ofWork w callback, .idle⟩ :=
  (Reachable.initial {} true []).act trivial (.start (w.start callback))

end Storefront
