import Storefront.Proofs.LikeStarts
import Storefront.Proofs.Plays

/-! Loops of which two runs cannot be told apart. Their tasks stand at alike places, the same tasks
wait and are called back, and the lines they have logged are alike. -/
namespace Storefront

/-- The line that was logged, if an event is one. -/
def Event.line? : Event → Option Log.Line
  | .log _ line => some line
  | _ => none

/-- The lines that were logged. -/
def Loop.lines (l : Loop) : List Log.Line := l.trace.filterMap Event.line?

section

variable (ν : Variation)

inductive Ending.Alike : Ending → Ending → Prop
  | finished {d d' : Delivery} (h : d.Alike ν d') : Ending.Alike (.finished d) (.finished d')
  | escaped (cause : Fault ⊕ Failure) : Ending.Alike (.escaped cause) (.escaped cause)
  | interrupted : Ending.Alike .interrupted .interrupted

inductive Wait.Alike : Wait → Wait → Prop
  | gate (name : String) (stubborn : Bool) {next next' : Flow Delivery}
    (h : Flow.Alike ν (Delivery.Alike ν) next next') :
    Wait.Alike (.gate name stubborn next) (.gate name stubborn next')
  | task (id : Nat) {next next' : Delivery → Flow Delivery}
    (h : ∀ d d', d.Alike ν d' → Flow.Alike ν (Delivery.Alike ν) (next d) (next' d')) :
    Wait.Alike (.task id next) (.task id next')

inductive Phase.Alike : Phase → Phase → Prop
  | fresh {f f' : Flow Delivery} (h : Flow.Alike ν (Delivery.Alike ν) f f') :
    Phase.Alike (.fresh f) (.fresh f')
  | parked {w w' : Wait} (h : w.Alike ν w') : Phase.Alike (.parked w) (.parked w')
  | woken {w w' : Wait} (h : w.Alike ν w') (interrupted : Bool) :
    Phase.Alike (.woken w interrupted) (.woken w' interrupted)
  | ended {e e' : Ending} (h : e.Alike ν e') : Phase.Alike (.ended e) (.ended e')

structure Job.Alike (j j' : Job) : Prop where
  phase : j.phase.Alike ν j'.phase
  cancelRequested : j.cancelRequested = j'.cancelRequested
  ticket : Option.Rel (Ticket.Alike ν) j.ticket j'.ticket
  outcome : Option.Rel (Delivery.Alike ν) j.outcome j'.outcome

structure Loop.Alike (l l' : Loop) : Prop where
  client : l.client.Alike ν l'.client
  sessions : l.sessions = l'.sessions
  server : List.Forall₂ (Reply.Alike ν) l.server l'.server
  openGates : l.openGates = l'.openGates
  jobs : List.Forall₂ (Job.Alike ν) l.jobs l'.jobs
  waiting : l.waiting = l'.waiting
  ready : l.ready = l'.ready
  lines : List.Forall₂ (Log.Line.Alike ν) l.lines l'.lines

end

variable {ν : Variation}

theorem Wait.Alike.resumed {w w' : Wait} (h : w.Alike ν w') (interrupted : Bool) :
    Flow.Alike ν (Delivery.Alike ν) (w.resumed interrupted) (w'.resumed interrupted) := by
  cases h with
  | gate name stubborn h =>
    cases stubborn with
    | true => exact h
    | false =>
      unfold Wait.resumed
      cases interrupted with
      | true => exact .interrupt
      | false => exact h
  | task id h =>
    unfold Wait.resumed
    cases interrupted with
    | true => exact .interrupt
    | false => exact .join id h

namespace Job.Alike

variable {j j' : Job}

theorem next? (h : j.Alike ν j') :
    Option.Rel (Flow.Alike ν (Delivery.Alike ν)) j.next? j'.next? := by
  have hp := h.phase
  unfold Job.next?
  rw [h.cancelRequested]
  generalize j.phase = p at hp ⊢
  generalize j'.phase = p' at hp ⊢
  cases hp with
  | fresh hf =>
    refine .some ?_
    split
    · exact .interrupt
    · exact hf
  | parked _ => exact .none
  | woken hw interrupted => exact .some (hw.resumed _)
  | ended _ => exact .none

theorem abandoned? (h : j.Alike ν j') : j.abandoned? = j'.abandoned? := by
  have hp := h.phase
  unfold Job.abandoned?
  rw [h.cancelRequested]
  generalize j.phase = p at hp ⊢
  generalize j'.phase = p' at hp ⊢
  cases hp with
  | woken hw interrupted =>
    cases hw with
    | gate _ _ _ => rfl
    | task _ _ => rfl
  | _ => rfl

theorem waitsFor (h : j.Alike ν j') (task : Nat) : j.waitsFor task = j'.waitsFor task := by
  have hp := h.phase
  unfold Job.waitsFor
  generalize j.phase = p at hp ⊢
  generalize j'.phase = p' at hp ⊢
  cases hp with
  | parked hw =>
    cases hw with
    | gate _ _ _ => rfl
    | task _ _ => rfl
  | _ => rfl

theorem waitsAt (h : j.Alike ν j') (gate : String) : j.waitsAt gate = j'.waitsAt gate := by
  have hp := h.phase
  unfold Job.waitsAt
  generalize j.phase = p at hp ⊢
  generalize j'.phase = p' at hp ⊢
  cases hp with
  | parked hw =>
    cases hw with
    | gate _ _ _ => rfl
    | task _ _ => rfl
  | _ => rfl

/-- A result and how it came about, of alike tasks. -/
theorem due? (h : j.Alike ν j') : Option.Rel (fun x x' => x.1.Alike ν x'.1 ∧ x.2.Alike ν x'.2)
    j.due? j'.due? := by
  have hp := h.phase
  have ht := h.ticket
  unfold Job.due?
  generalize j.phase = p at hp ⊢
  generalize j'.phase = p' at hp ⊢
  generalize j.ticket = t at ht ⊢
  generalize j'.ticket = t' at ht ⊢
  cases ht with
  | none => exact .none
  | some ht =>
    cases hp with
    | ended he => exact .some ⟨ht, he⟩
    | _ => exact .none

end Job.Alike

namespace Loop.Alike

variable {l l' : Loop}

theorem job? (h : l.Alike ν l') (task : Nat) :
    Option.Rel (Job.Alike ν) l.jobs[task]? l'.jobs[task]? := by
  have hj := h.jobs
  generalize l.jobs = js at hj ⊢
  generalize l'.jobs = js' at hj ⊢
  induction hj generalizing task with
  | nil => exact .none
  | cons hjob _ ih =>
    cases task with
    | zero => exact .some hjob
    | succ task => exact ih task

/-- What is asked of a job is told alike. -/
theorem ask (h : l.Alike ν l') (task : Nat) {p : Job → Bool}
    (hp : ∀ j j', j.Alike ν j' → p j = p j') :
    (l.jobs[task]?.map p).getD false = (l'.jobs[task]?.map p).getD false := by
  have hj := h.job? task
  generalize l.jobs[task]? = x at hj ⊢
  generalize l'.jobs[task]? = x' at hj ⊢
  cases hj with
  | none => rfl
  | some hj => exact hp _ _ hj

theorem outcome? (h : l.Alike ν l') (task : Nat) :
    Option.Rel (Delivery.Alike ν) (l.outcome? task) (l'.outcome? task) := by
  have hj := h.job? task
  unfold Loop.outcome?
  generalize l.jobs[task]? = x at hj ⊢
  generalize l'.jobs[task]? = x' at hj ⊢
  cases hj with
  | none => exact .none
  | some hj => exact hj.outcome

theorem due? (h : l.Alike ν l') (task : Nat) :
    Option.Rel (fun x x' => x.1.Alike ν x'.1 ∧ x.2.Alike ν x'.2) (l.due? task) (l'.due? task) := by
  have hj := h.job? task
  unfold Loop.due?
  generalize l.jobs[task]? = x at hj ⊢
  generalize l'.jobs[task]? = x' at hj ⊢
  cases hj with
  | none => exact .none
  | some hj => exact hj.due?

theorem withJobs (h : l.Alike ν l') {jobs jobs' : List Job}
    (hj : List.Forall₂ (Job.Alike ν) jobs jobs') :
    ({ l with jobs } : Loop).Alike ν { l' with jobs := jobs' } :=
  ⟨h.client, h.sessions, h.server, h.openGates, hj, h.waiting, h.ready, h.lines⟩

theorem withWaiting (h : l.Alike ν l') (waiting : List Nat) :
    ({ l with waiting } : Loop).Alike ν { l' with waiting } :=
  ⟨h.client, h.sessions, h.server, h.openGates, h.jobs, rfl, h.ready, h.lines⟩

theorem withReady (h : l.Alike ν l') (ready : List Handle) :
    ({ l with ready } : Loop).Alike ν { l' with ready } :=
  ⟨h.client, h.sessions, h.server, h.openGates, h.jobs, h.waiting, rfl, h.lines⟩

theorem withGates (h : l.Alike ν l') (openGates : List String) :
    ({ l with openGates } : Loop).Alike ν { l' with openGates } :=
  ⟨h.client, h.sessions, h.server, rfl, h.jobs, h.waiting, h.ready, h.lines⟩

theorem length (h : l.Alike ν l') : l.jobs.length = l'.jobs.length := h.jobs.length_eq

theorem update (h : l.Alike ν l') (task : Nat) {f f' : Job → Job}
    (hf : ∀ j j', j.Alike ν j' → (f j).Alike ν (f' j')) :
    (l.update task f).Alike ν (l'.update task f') := by
  refine h.withJobs ?_
  have hj := h.jobs
  generalize l.jobs = js at hj ⊢
  generalize l'.jobs = js' at hj ⊢
  induction hj generalizing task with
  | nil => simp
  | cons hjob hjobs ih =>
    cases task with
    | zero => exact .cons (hf _ _ hjob) hjobs
    | succ task => exact .cons hjob (ih task)

theorem setPhase (h : l.Alike ν l') (task : Nat) {p p' : Phase} (hp : p.Alike ν p') :
    (l.setPhase task p).Alike ν (l'.setPhase task p') :=
  h.update task fun _ _ hj => { hj with phase := hp }

theorem push (h : l.Alike ν l') (x : Handle) : (l.push x).Alike ν (l'.push x) := by
  unfold Loop.push
  rw [h.ready]
  exact h.withReady _

theorem record (h : l.Alike ν l') {e e' : Event}
    (he : Option.Rel (Log.Line.Alike ν) e.line? e'.line?) : (l.record e).Alike ν (l'.record e') := by
  refine { h with lines := ?_ }
  change List.Forall₂ _ ((l.trace ++ [e]).filterMap _) ((l'.trace ++ [e']).filterMap _)
  rw [List.filterMap_append, List.filterMap_append]
  refine List.rel_append h.lines ?_
  rw [List.filterMap_cons, List.filterMap_cons]
  generalize e.line? = x at he ⊢
  generalize e'.line? = x' at he ⊢
  cases he with
  | none => exact .nil
  | some hline => exact .cons hline .nil

theorem drop (h : l.Alike ν l') (place : Nat) : (l.drop place).Alike ν (l'.drop place) := by
  unfold Loop.drop
  rw [h.ready]
  exact h.withReady _

theorem spawn (h : l.Alike ν l') {f f' : Flow Delivery}
    (hf : Flow.Alike ν (Delivery.Alike ν) f f') {t t' : Option Ticket}
    (ht : Option.Rel (Ticket.Alike ν) t t') : (l.spawn f t).2.Alike ν (l'.spawn f' t').2 := by
  have hjob : Job.Alike ν { phase := .fresh f, ticket := t } { phase := .fresh f', ticket := t' } :=
    ⟨.fresh hf, rfl, ht, .none⟩
  unfold Loop.spawn
  dsimp only
  rw [← h.length]
  exact (h.withJobs (List.rel_append h.jobs (.cons hjob .nil))).push _

theorem park (h : l.Alike ν l') (task : Nat) {w w' : Wait} (hw : w.Alike ν w') :
    (l.park task w).Alike ν (l'.park task w') := by
  have hset := h.setPhase task (.parked hw)
  unfold Loop.park
  dsimp only
  rw [hset.waiting]
  exact hset.withWaiting _

theorem wake (h : l.Alike ν l') (task : Nat) (interrupted : Bool) :
    (l.wake task interrupted).Alike ν (l'.wake task interrupted) := by
  have hj := h.job? task
  unfold Loop.wake
  generalize l.jobs[task]? = x at hj ⊢
  generalize l'.jobs[task]? = x' at hj ⊢
  cases hj with
  | none => exact h
  | @some j j' hj =>
    obtain ⟨p, c, t, o⟩ := j
    obtain ⟨p', c', t', o'⟩ := j'
    have hp : p.Alike ν p' := hj.phase
    cases hp with
    | parked hw =>
      have hset := h.setPhase task (.woken hw interrupted)
      dsimp only
      rw [hset.waiting]
      exact (hset.withWaiting _).push _
    | _ => exact h

theorem finish (h : l.Alike ν l') (task : Nat) {e e' : Ending} (he : e.Alike ν e') :
    (l.finish task e).Alike ν (l'.finish task e') := by
  have hticket : ((l.jobs[task]?).bind (·.ticket)).isSome = ((l'.jobs[task]?).bind (·.ticket)).isSome := by
    have hj := h.job? task
    generalize l.jobs[task]? = x at hj ⊢
    generalize l'.jobs[task]? = x' at hj ⊢
    cases hj with
    | none => rfl
    | @some j j' hj =>
      have ht := hj.ticket
      dsimp only [Option.bind_some]
      generalize j.ticket = t at ht ⊢
      generalize j'.ticket = t' at ht ⊢
      cases ht <;> rfl
  unfold Loop.finish
  dsimp only
  rw [hticket]
  split
  · exact (h.setPhase task (.ended he)).push _
  · exact h.setPhase task (.ended he)

theorem interruptJob (h : l.Alike ν l') (task : Nat) :
    (l.interruptJob task).2.Alike ν (l'.interruptJob task).2 := by
  have hj := h.job? task
  have hasked : (l.update task fun j => { j with cancelRequested := true }).Alike ν
      (l'.update task fun j => { j with cancelRequested := true }) :=
    h.update task fun _ _ hj => { hj with cancelRequested := rfl }
  unfold Loop.interruptJob
  generalize l.jobs[task]? = x at hj ⊢
  generalize l'.jobs[task]? = x' at hj ⊢
  cases hj with
  | none => exact h
  | @some j j' hj =>
    have hp := hj.phase
    dsimp only
    generalize j.phase = p at hp ⊢
    generalize j'.phase = p' at hp ⊢
    cases hp with
    | fresh _ => exact hasked
    | parked _ => exact h.wake task true
    | woken _ _ => exact hasked
    | ended _ => exact h

theorem cancel (h : l.Alike ν l') (task : Nat) :
    (l.cancel task).2.Alike ν (l'.cancel task).2 := by
  have ho := h.outcome? task
  unfold Loop.cancel
  generalize l.outcome? task = x at ho ⊢
  generalize l'.outcome? task = x' at ho ⊢
  cases ho with
  | none => exact h.interruptJob task
  | some _ => exact h

theorem pickUp (h : l.Alike ν l') (task : Nat) {j j' : Job} (hj : j.Alike ν j') :
    (l.pickUp task j).Alike ν (l'.pickUp task j') := by
  have hpicked : (l.update task fun j => { j with cancelRequested := false }).Alike ν
      (l'.update task fun j => { j with cancelRequested := false }) :=
    h.update task fun _ _ hj => { hj with cancelRequested := rfl }
  unfold Loop.pickUp
  dsimp only
  rw [hj.abandoned?]
  split
  · exact hpicked.cancel _
  · exact hpicked

theorem relay (h : l.Alike ν l') (waiter task : Nat) :
    (l.relay waiter task).Alike ν (l'.relay waiter task) := by
  unfold Loop.relay
  rw [h.ask waiter fun _ _ hj => hj.waitsFor task]
  split
  · exact h.wake waiter false
  · exact h

theorem release (h : l.Alike ν l') (gate : String) :
    (l.release gate).Alike ν (l'.release gate) := by
  have hwoken (ids : List Nat) {l l' : Loop} (h : l.Alike ν l') :
      (ids.foldl (fun l id => l.wake id false) l).Alike ν
        (ids.foldl (fun l id => l.wake id false) l') := by
    induction ids generalizing l l' with
    | nil => exact h
    | cons id ids ih => exact ih (h.wake id false)
  have hgates : (if l.isOpen gate then l.openGates else l.openGates ++ [gate]) =
      if l'.isOpen gate then l'.openGates else l'.openGates ++ [gate] := by
    unfold Loop.isOpen
    rw [h.openGates]
  have hsleepers : (l.waiting.filter fun id => (l.jobs[id]?.map (·.waitsAt gate)).getD false) =
      l'.waiting.filter fun id => (l'.jobs[id]?.map (·.waitsAt gate)).getD false := by
    simp only [h.waiting, h.ask _ fun _ _ hj => hj.waitsAt gate]
  unfold Loop.release
  dsimp only
  rw [hsleepers, hgates]
  exact hwoken _ (h.withGates _)

theorem deliver (h : l.Alike ν l') (task : Nat) {d d' : Delivery} (hd : d.Alike ν d') :
    (l.deliver task d).Alike ν (l'.deliver task d') := by
  have hjob (j j' : Job) (hj : j.Alike ν j') :
      Job.Alike ν { j with outcome := some d } { j' with outcome := some d' } :=
    { hj with outcome := .some hd }
  have hset : ((l.update task fun j => { j with outcome := some d }).record
      (.delivery task d)).Alike ν ((l'.update task fun j => { j with outcome := some d' }).record
        (.delivery task d')) := (h.update task hjob).record .none
  have hnews {l l' : Loop} (h : l.Alike ν l') :
      (l.waiting.filter fun id => (l.jobs[id]?.map (·.waitsFor task)).getD false) =
        l'.waiting.filter fun id => (l'.jobs[id]?.map (·.waitsFor task)).getD false := by
    simp only [h.waiting, h.ask _ fun _ _ hj => hj.waitsFor task]
  unfold Loop.deliver
  dsimp only
  rw [hnews hset, hset.ready]
  exact hset.withReady _

end Loop.Alike

end Storefront
