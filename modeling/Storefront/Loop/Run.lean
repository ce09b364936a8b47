import Storefront.Exchange
import Storefront.Loop.State

/-! Steps of the loop. -/
namespace Storefront.Loop

def requestTicket (o : Outgoing) (callback : Option Callback) : Ticket :=
  ⟨o.description, .transport, callback⟩

def startRequest (l : Loop) (o : Outgoing) (callback : Option Callback) : Nat × Loop :=
  l.spawn (.transport <$> Exchange.flow o) (some (requestTicket o callback))

def advance (task : Nat) : Flow Delivery → Loop → Loop
  | .finish d, l => l.finish task (.finished d)
  | .escape cause, l => l.finish task (.escaped cause)
  | .interrupt, l => l.finish task .interrupted
  | .log line next, l => advance task next (l.record (.log task line))
  | .client next, l => advance task (next l.client) l
  | .session next, l =>
    let sessions := l.sessions.touch
    advance task (next sessions.view) { l with sessions }
  | .send place request next, l =>
    let (reply, server) := l.server.take request
    let l := ({ l with server } : Loop).record (.request task request (l.cookies? place request))
    match reply.gate with
    | none => advance task (next reply.answer) l
    | some gate =>
      if l.isOpen gate then advance task (next reply.answer) l
      else l.park task (.gate gate false (next reply.answer))
  | .hear place response next, l =>
    advance task next { l with heard := l.heard ++ [(place, response)] }
  | .call o next, l =>
    let (id, l) := l.startRequest o none
    (l.record (.call task id o)).park task (.task id fun d => next d.asTransport)
  | .join id next, l =>
    match l.outcome? id with
    | some d => advance task (next d) l
    | none => l.park task (.task id next)
  | .gate name stubborn next, l =>
    if l.isOpen name then advance task next l else l.park task (.gate name stubborn next)

/-- Prepares the next step of a task: a request to cancel it counts once. When it is cancelled while
it waits for another task, it cancels that one, for nobody wants its result any more. -/
def pickUp (l : Loop) (task : Nat) (j : Job) : Loop :=
  let l := l.update task fun j => { j with cancelRequested := false }
  match j.abandoned? with
  | some id => (l.cancel id).2
  | none => l

def resume (l : Loop) (task : Nat) : Loop :=
  match l.jobs[task]? with
  | none => l
  | some j =>
    match j.next? with
    | some flow => advance task flow (l.pickUp task j)
    | none => l

def cancelledFailure (t : Ticket) : Failure where
  cls := .requestCancelled
  message := t.description ++ " was cancelled"

/-- The failure of a task that ended with something unhandled. -/
def unexpectedFailure (t : Ticket) (cause : Fault ⊕ Failure) : Failure where
  cls := .general
  message := (s!"Unexpected error during {t.description}: " : Str) ++ causeText cause
  cause := some cause

def deliveryOf (t : Ticket) : Ending → Delivery
  | .finished d => d
  | .escaped cause => t.kind.failed (unexpectedFailure t cause)
  | .interrupted => t.kind.failed (cancelledFailure t)

def endingLine? (t : Ticket) : Ending → Option Log.Line
  | .escaped cause =>
    let message := (s!"Unexpected error in {t.description}: " : Str) ++ causeText cause
    some { level := .error, source := .task, message }
  | _ => none

/-- The line that is logged about a callback that fails. -/
def callbackLine (t : Ticket) : Log.Line where
  level := .error
  source := .task
  message := s!"Completion callback for {t.description} raised"

/-- What a callback does before it ends: one of them looks at its own task. -/
def runCallback (l : Loop) (task : Nat) : Callback → Loop
  | .probe =>
    let (cancel, l) := l.cancel task
    l.record (.probe task ⟨cancel, (l.outcome? task).isSome, l.isCancelled task⟩)
  | _ => l

/-- Sets the result of a task, and sends the news to all who wait for it. -/
def deliver (l : Loop) (task : Nat) (d : Delivery) : Loop :=
  let l := (l.update task fun j => { j with outcome := some d }).record (.delivery task d)
  let waiters := l.waiting.filter fun id => (l.jobs[id]?.map (·.waitsFor task)).getD false
  { l with ready := l.ready ++ waiters.map (Handle.relay · task) }

/-- What follows a callback: its error is logged, and the result is delivered all the same. -/
def afterCallback (l : Loop) (task : Nat) (t : Ticket) (c : Callback) (d : Delivery) : Loop :=
  match c with
  | .abort => l
  | _ => (if c.fails d then l.record (.log task (callbackLine t)) else l).deliver task d

/-- Logs how a task has ended, if that is worth a line. -/
def announce (l : Loop) (task : Nat) (t : Ticket) (e : Ending) : Loop :=
  match endingLine? t e with
  | some line => l.record (.log task line)
  | none => l

/-- Hands the result of a task that has ended to its callback, and then to all who wait. -/
def complete (l : Loop) (task : Nat) : Loop :=
  match l.jobs[task]?.bind (·.due?) with
  | none => l
  | some (t, e) =>
    let d := deliveryOf t e
    let l := l.announce task t e
    match t.callback with
    | none => l.deliver task d
    | some c => ((l.record (.callback task d)).runCallback task c).afterCallback task t c d

/-- Calls back a task that still waits for the result of another one. -/
def relay (l : Loop) (waiter task : Nat) : Loop :=
  if (l.jobs[waiter]?.map (·.waitsFor task)).getD false then l.wake waiter false else l

def handle (l : Loop) : Handle → Loop
  | .resume task => l.resume task
  | .complete task => l.complete task
  | .relay waiter task => l.relay waiter task

def tick (l : Loop) : Loop :=
  match l.ready with
  | [] => l
  | h :: rest => ({ l with ready := rest } : Loop).handle h

def settleWithin : Nat → Loop → Loop
  | 0, l => l
  | n + 1, l => if l.ready.isEmpty then l else settleWithin n l.tick

/-- Runs everything that can run. A task passes the queue a few times for each of its requests. -/
def settle (l : Loop) : Loop := settleWithin (256 * (l.jobs.length + l.ready.length + 1)) l

end Storefront.Loop
