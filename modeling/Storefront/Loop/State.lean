import Storefront.Server
import Storefront.Session

/-! The loop on which tasks run, one step at a time. What is ready waits in a queue; everything else
waits for a gate or for the result of a task. -/
namespace Storefront

/-- What a callback does with a result. -/
inductive Callback where
  | accept
  /-- Raises an error, which is logged. -/
  | fail
  /-- Looks at its own task and tries to cancel it. -/
  | probe
  /-- Cannot take a result, which is logged. -/
  | refuse
  /-- Raises something that is no error; the delivery ends there. -/
  | abort
deriving DecidableEq

/-- Tells whether a callback raises an error when it is called with a result. -/
def Callback.fails (c : Callback) (d : Delivery) : Bool :=
  match c with
  | .fail => true
  | .refuse => !d.isEmpty
  | _ => false

/-- The side of a task that callers see: it delivers one result. -/
structure Ticket where
  description : String
  kind : ResultKind
  callback : Option Callback

/-- What a task waits for, and how it goes on. -/
inductive Wait where
  | gate (name : String) (stubborn : Bool) (next : Flow Delivery)
  | task (id : Nat) (next : Delivery → Flow Delivery)

/-- How a task goes on that was called back, by the news or by an interruption. -/
def Wait.resumed : Wait → Bool → Flow Delivery
  | .gate _ true next, _ => next
  | .gate _ false next, interrupted => if interrupted then .interrupt else next
  | .task id next, interrupted => if interrupted then .interrupt else .join id next

/-- Where a task stands: before its first step, waiting, called back from waiting, or at its end. -/
inductive Phase where
  | fresh (flow : Flow Delivery)
  | parked (wait : Wait)
  | woken (wait : Wait) (interrupted : Bool)
  | ended (ending : Ending)

/-- A task. Only one with a ticket delivers a result, its outcome. -/
structure Job where
  phase : Phase
  cancelRequested : Bool := false
  ticket : Option Ticket := none
  outcome : Option Delivery := none

/-- What a callback saw when it looked at its own task. -/
structure Probe where
  cancel : Bool
  done : Bool
  cancelled : Bool

/-- What a task did, or what was done for it. -/
inductive Event where
  /-- A request, with the cookies that the session has added. -/
  | request (task : Nat) (r : Request) (cookies : Option String)
  /-- A request of its own, which runs as a task. -/
  | call (task started : Nat) (outgoing : Outgoing)
  | callback (task : Nat) (handed : Delivery)
  | probe (task : Nat) (seen : Probe)
  | delivery (task : Nat) (delivered : Delivery)
  | log (task : Nat) (line : Log.Line)

/-- What waits in the queue. -/
inductive Handle where
  /-- The next step of a task. -/
  | resume (task : Nat)
  /-- The delivery of a task that has ended. -/
  | complete (task : Nat)
  /-- The news for a task that another one has delivered. -/
  | relay (waiter task : Nat)
deriving DecidableEq

structure Loop where
  client : Client
  sessions : SessionPool
  /-- How sessions keep cookies. -/
  keeper : CookieKeeper
  /-- The responses that sessions have heard, in order. -/
  heard : List (Nat × Response) := []
  server : Server
  openGates : List String := []
  jobs : List Job := []
  /-- Waiting tasks, in the order in which they began to wait. -/
  waiting : List Nat := []
  ready : List Handle := []
  trace : List Event := []

namespace Job

/-- Tells whether a task was cancelled and has ended by that. -/
def isCancelled (j : Job) : Bool :=
  match j.phase with
  | .ended .interrupted => true
  | _ => false

def hasEnded (j : Job) : Bool :=
  match j.phase with
  | .ended _ => true
  | _ => false

/-- What a task goes on with at its next step. One that was cancelled ends there, unless it is
stubborn at a gate. -/
def next? (j : Job) : Option (Flow Delivery) :=
  match j.phase with
  | .fresh flow => some (if j.cancelRequested then .interrupt else flow)
  | .woken w interrupted => some (w.resumed (interrupted || j.cancelRequested))
  | _ => none

/-- The task whose result nobody wants any more when a task is cancelled that waited for it. -/
def abandoned? (j : Job) : Option Nat :=
  match j.phase with
  | .woken (.task id _) interrupted => if interrupted || j.cancelRequested then some id else none
  | _ => none

/-- The ticket and the ending of a task that has ended and has a result to deliver. -/
def due? (j : Job) : Option (Ticket × Ending) :=
  match j.ticket, j.phase with
  | some t, .ended e => some (t, e)
  | _, _ => none

/-- Tells whether a task waits for the result of another one. -/
def waitsFor (j : Job) (task : Nat) : Bool :=
  match j.phase with
  | .parked (.task id _) => id == task
  | _ => false

def waitsAt (j : Job) (gate : String) : Bool :=
  match j.phase with
  | .parked (.gate name _ _) => name == gate
  | _ => false

end Job

namespace Loop

def outcome? (l : Loop) (task : Nat) : Option Delivery := l.jobs[task]?.bind (·.outcome)

/-- Tells whether a task was cancelled and has ended by that. -/
def isCancelled (l : Loop) (task : Nat) : Bool := (l.jobs[task]?.map (·.isCancelled)).getD false

def isOpen (l : Loop) (gate : String) : Bool := l.openGates.contains gate

def update (l : Loop) (task : Nat) (f : Job → Job) : Loop :=
  { l with jobs := l.jobs.modify task f }

def setPhase (l : Loop) (task : Nat) (p : Phase) : Loop :=
  l.update task fun j => { j with phase := p }

def push (l : Loop) (h : Handle) : Loop := { l with ready := l.ready ++ [h] }

def record (l : Loop) (e : Event) : Loop := { l with trace := l.trace ++ [e] }

def spawn (l : Loop) (flow : Flow Delivery) (ticket : Option Ticket) : Nat × Loop :=
  let id := l.jobs.length
  (id, ({ l with jobs := l.jobs ++ [{ phase := .fresh flow, ticket }] } : Loop).push (.resume id))

/-- The responses that a session has heard, in order. -/
def heardBy (l : Loop) (place : Nat) : List Response :=
  (l.heard.filter (·.1 == place)).map (·.2)

/-- The cookies that a session adds to a request. -/
def cookies? (l : Loop) (place : Nat) (r : Request) : Option String := l.keeper (l.heardBy place) r

def park (l : Loop) (task : Nat) (w : Wait) : Loop :=
  let l := l.setPhase task (.parked w)
  { l with waiting := l.waiting ++ [task] }

/-- Calls a task back from waiting; its next step goes to the queue. -/
def wake (l : Loop) (task : Nat) (interrupted : Bool) : Loop :=
  match l.jobs[task]? with
  | some { phase := .parked w, .. } =>
    let l := l.setPhase task (.woken w interrupted)
    ({ l with waiting := l.waiting.filter (· ≠ task) } : Loop).push (.resume task)
  | _ => l

/-- Ends a task; its delivery goes to the queue when it has a ticket. -/
def finish (l : Loop) (task : Nat) (e : Ending) : Loop :=
  let ticketed := ((l.jobs[task]?).bind (·.ticket)).isSome
  let l := l.setPhase task (.ended e)
  if ticketed then l.push (.complete task) else l

/-- Asks a task to end early. A waiting task is called back; any other is interrupted at its next
step. Nothing can be asked of a task that has ended. -/
def interruptJob (l : Loop) (task : Nat) : Bool × Loop :=
  match l.jobs[task]? with
  | none => (false, l)
  | some j =>
    match j.phase with
    | .ended _ => (false, l)
    | .parked _ => (true, l.wake task true)
    | _ => (true, l.update task fun j => { j with cancelRequested := true })

/-- Cancels a task, unless its result has been delivered. -/
def cancel (l : Loop) (task : Nat) : Bool × Loop :=
  if (l.outcome? task).isSome then (false, l) else l.interruptJob task

/-- Opens a gate for good, and calls back the tasks that wait there. -/
def release (l : Loop) (gate : String) : Loop :=
  let sleepers := l.waiting.filter fun id => (l.jobs[id]?.map (·.waitsAt gate)).getD false
  sleepers.foldl (fun l id => l.wake id false)
    { l with openGates := if l.isOpen gate then l.openGates else l.openGates ++ [gate] }

end Loop

end Storefront
