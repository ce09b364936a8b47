import Mathlib.Logic.Relation
import Storefront.Loop.Start

/-! Runs of a loop in small steps. A scene is a loop with what is going on at the moment: nothing, a
step of a task, or the callback of a task. Callers and the world outside act whenever no task takes
a step, also inside callbacks, and any handle in the queue may come next. What the loop does by
itself is made of such steps. -/
namespace Storefront

inductive Focus where
  | idle
  | running (task : Nat) (flow : Flow Delivery)
  | inside (task : Nat)

/-- Code of callers runs at such a moment. -/
def Focus.IsFree : Focus → Prop
  | .running _ _ => False
  | _ => True

def Focus.task? : Focus → Option Nat
  | .running task _ => some task
  | _ => none

structure Scene where
  loop : Loop
  focus : Focus

/-- What callers and the world outside can do. -/
inductive Act where
  | cancel (task : Nat)
  /-- Asks a task to end early, whether or not it has a result to deliver. -/
  | interrupt (task : Nat)
  | start (s : Start)
  | await (task : Nat)
  | assign (c : Client)
  | note (task : Nat) (seen : Probe)
  | openSession
  | beginClose
  | finishClose
  | release (gate : String)
  | prepareReply (p : Reply)

def Wait.flow : Wait → Flow Delivery
  | .gate name stubborn next => .gate name stubborn next
  | .task id next => .join id next

/-- How a flow goes on with a reply, which may wait for a gate. -/
def Reply.answered (p : Reply) (next : Answer → Flow Delivery) : Flow Delivery :=
  match p.gate with
  | none => next p.answer
  | some gate => .gate gate false (next p.answer)

def Flow.ending? : Flow Delivery → Option Ending
  | .finish d => some (.finished d)
  | .escape cause => some (.escaped cause)
  | .interrupt => some .interrupted
  | _ => none

namespace Loop

def act (l : Loop) : Act → Loop
  | .cancel task => (l.cancel task).2
  | .interrupt task => (l.interruptJob task).2
  | .start s => (l.start s).2
  | .await task => (l.startWaiter task).2
  | .assign c => { l with client := c }
  | .note task seen => l.record (.probe task seen)
  | .openSession => { l with sessions := l.sessions.touch }
  | .beginClose => { l with sessions := l.sessions.beginClose }
  | .finishClose => { l with sessions := l.sessions.finishClose }
  | .release gate => l.release gate
  | .prepareReply p => { l with server := l.server ++ [p] }

/-- Tells whether a wait is not over yet. -/
def Holds (l : Loop) : Wait → Prop
  | .gate name _ _ => l.isOpen name = false
  | .task id _ => l.outcome? id = none

/-- Nothing happens when such a handle is taken. -/
def Stale (l : Loop) : Handle → Prop
  | .resume task => l.jobs[task]?.bind (·.next?) = none
  | .complete task => l.jobs[task]?.bind (·.due?) = none
  | .relay _ _ => False

def drop (l : Loop) (place : Nat) : Loop := { l with ready := l.ready.eraseIdx place }

def sent (l : Loop) (task place : Nat) (r : Request) : Loop :=
  ({ l with server := (l.server.take r).2 } : Loop).record (.request task r (l.cookies? place r))

def hear (l : Loop) (place : Nat) (r : Response) : Loop := { l with heard := l.heard ++ [(place, r)] }

/-- The state after a task has started a request of its own. -/
def called (l : Loop) (task : Nat) (o : Outgoing) : Loop :=
  (l.startRequest o none).2.record (.call task l.jobs.length o)

end Loop

inductive Step : Scene → Scene → Prop where
  | log (l : Loop) (task : Nat) (line : Log.Line) (next : Flow Delivery) :
    Step ⟨l, .running task (.log line next)⟩ ⟨l.record (.log task line), .running task next⟩
  | client (l : Loop) (task : Nat) (next : Client → Flow Delivery) :
    Step ⟨l, .running task (.client next)⟩ ⟨l, .running task (next l.client)⟩
  | session (l : Loop) (task : Nat) (next : SessionView → Flow Delivery) :
    Step ⟨l, .running task (.session next)⟩
      ⟨{ l with sessions := l.sessions.touch }, .running task (next l.sessions.touch.view)⟩
  | send (l : Loop) (task place : Nat) (r : Request) (next : Answer → Flow Delivery) :
    Step ⟨l, .running task (.send place r next)⟩
      ⟨l.sent task place r, .running task ((l.server.take r).1.answered next)⟩
  | hear (l : Loop) (task place : Nat) (r : Response) (next : Flow Delivery) :
    Step ⟨l, .running task (.hear place r next)⟩ ⟨l.hear place r, .running task next⟩
  | call (l : Loop) (task : Nat) (o : Outgoing) (next : TransportResult → Flow Delivery) :
    Step ⟨l, .running task (.call o next)⟩
      ⟨l.called task o, .running task (.join l.jobs.length fun d => next d.asTransport)⟩
  | join (l : Loop) (task id : Nat) (next : Delivery → Flow Delivery) (d : Delivery)
      (h : l.outcome? id = some d) :
    Step ⟨l, .running task (.join id next)⟩ ⟨l, .running task (next d)⟩
  | gate (l : Loop) (task : Nat) (name : String) (stubborn : Bool) (next : Flow Delivery)
      (h : l.isOpen name = true) :
    Step ⟨l, .running task (.gate name stubborn next)⟩ ⟨l, .running task next⟩
  | park (l : Loop) (task : Nat) (w : Wait) (h : l.Holds w) :
    Step ⟨l, .running task w.flow⟩ ⟨l.park task w, .idle⟩
  | ending (l : Loop) (task : Nat) (f : Flow Delivery) (e : Ending) (h : f.ending? = some e) :
    Step ⟨l, .running task f⟩ ⟨l.finish task e, .idle⟩
  | resume (l : Loop) (place task : Nat) (j : Job) (f : Flow Delivery)
      (h : l.ready[place]? = some (.resume task)) (hj : l.jobs[task]? = some j)
      (hf : j.next? = some f) :
    Step ⟨l, .idle⟩ ⟨(l.drop place).pickUp task j, .running task f⟩
  | complete (l : Loop) (place task : Nat) (j : Job) (t : Ticket) (e : Ending)
      (h : l.ready[place]? = some (.complete task)) (hj : l.jobs[task]? = some j)
      (hd : j.due? = some (t, e)) (hc : t.callback = none) :
    Step ⟨l, .idle⟩ ⟨((l.drop place).announce task t e).deliver task (Loop.deliveryOf t e), .idle⟩
  | callback (l : Loop) (place task : Nat) (j : Job) (t : Ticket) (e : Ending) (c : Callback)
      (h : l.ready[place]? = some (.complete task)) (hj : l.jobs[task]? = some j)
      (hd : j.due? = some (t, e)) (hc : t.callback = some c) :
    Step ⟨l, .idle⟩
      ⟨((l.drop place).announce task t e).record (.callback task (Loop.deliveryOf t e)),
        .inside task⟩
  | leave (l : Loop) (task : Nat) (j : Job) (t : Ticket) (e : Ending) (c : Callback)
      (hj : l.jobs[task]? = some j) (hd : j.due? = some (t, e)) (hc : t.callback = some c) :
    Step ⟨l, .inside task⟩ ⟨l.afterCallback task t c (Loop.deliveryOf t e), .idle⟩
  | relay (l : Loop) (place waiter task : Nat)
      (h : l.ready[place]? = some (.relay waiter task)) :
    Step ⟨l, .idle⟩ ⟨(l.drop place).relay waiter task, .idle⟩
  | skip (l : Loop) (place : Nat) (h : Handle) (hr : l.ready[place]? = some h) (hs : l.Stale h) :
    Step ⟨l, .idle⟩ ⟨l.drop place, .idle⟩
  | act (l : Loop) (f : Focus) (a : Act) (hf : f.IsFree) : Step ⟨l, f⟩ ⟨l.act a, f⟩

/-- A run: any number of steps. -/
def Steps : Scene → Scene → Prop := Relation.ReflTransGen Step

/-- A run in which the client stays as it is. -/
def StillSteps (c : Client) : Scene → Scene → Prop :=
  Relation.ReflTransGen fun s s' => Step s s' ∧ s'.loop.client = c

def Scene.initial (c : Client) (owned : Bool) (server : Server)
    (keeper : CookieKeeper := fun _ _ => none) : Scene :=
  ⟨.ofClient c owned server keeper, .idle⟩

/-- The scenes of all runs. -/
def Reachable (s : Scene) : Prop :=
  ∃ c owned server keeper, Steps (.initial c owned server keeper) s

theorem StillSteps.steps {c : Client} {s s' : Scene} (h : StillSteps c s s') : Steps s s' :=
  Relation.ReflTransGen.mono (fun _ _ h => h.1) _ _ h

theorem Reachable.trans {s s' : Scene} (h : Reachable s) (hs : Steps s s') : Reachable s' := by
  obtain ⟨c, owned, server, keeper, hr⟩ := h
  exact ⟨c, owned, server, keeper, hr.trans hs⟩

theorem Reachable.act {l : Loop} {f : Focus} (h : Reachable ⟨l, f⟩) (hf : f.IsFree) (a : Act) :
    Reachable ⟨l.act a, f⟩ := h.trans (.single (.act l f a hf))

/-- What holds at first and is kept by every step holds in every run. -/
theorem Reachable.invariant {P : Scene → Prop}
    (initial : ∀ c owned server keeper, P (.initial c owned server keeper))
    (step : ∀ s s', Step s s' → P s → P s') {s : Scene} (h : Reachable s) : P s := by
  obtain ⟨c, owned, server, keeper, hr⟩ := h
  induction hr with
  | refl => exact initial c owned server keeper
  | tail _ hs ih => exact step _ _ hs ih

theorem Steps.invariant {P : Scene → Prop} (step : ∀ s s', Step s s' → P s → P s')
    {s s' : Scene} (hr : Steps s s') (h : P s) : P s' := by
  induction hr with
  | refl => exact h
  | tail _ hs ih => exact step _ _ hs ih

end Storefront
