import Storefront.Loop.Run
import Storefront.Operation

/-! Starting requests, operations and other work on a loop. -/
namespace Storefront

/-- What a call that was accepted starts. -/
structure Start where
  flow : Flow Delivery
  ticket : Ticket

/-- Work of a caller's own: it may wait at a gate, and then ends in a given way. -/
structure Work where
  description : String := "request"
  gate : Option String := none
  stubborn : Bool := false
  ending : Ending

def Ending.flow : Ending → Flow Delivery
  | .finished d => .finish d
  | .escaped cause => .escape cause
  | .interrupted => .interrupt

def Work.flow (w : Work) : Flow Delivery :=
  match w.gate with
  | none => w.ending.flow
  | some name => .gate name w.stubborn w.ending.flow

def Work.start (w : Work) (callback : Option Callback) : Start :=
  ⟨w.flow, ⟨w.description, .items, callback⟩⟩

namespace Client

def startCall (c : Client) (call : Call) (callback : Option Callback) : Except CallError Start :=
  match c.prepare call with
  | .error e => .error (.body e)
  | .ok o => .ok ⟨.transport <$> Exchange.flow o, Loop.requestTicket o callback⟩

/-- Checks the arguments of an operation, and gives its start. -/
def startOperation (c : Client) (op : Operation) (callback : Option Callback) :
    Except CallError Start :=
  (op.flow c).map fun flow => ⟨flow, ⟨op.description, op.kind, callback⟩⟩

end Client

def Start.withoutLoop (s : Except CallError Start) : CallError :=
  match s with
  | .error e => e
  | .ok _ => .noLoop

namespace Loop

def ofClient (c : Client) (owned : Bool) (server : Server)
    (keeper : CookieKeeper := fun _ _ => none) : Loop where
  client := c
  sessions := if owned then .empty else .given
  keeper := keeper
  server := server

def start (l : Loop) (s : Start) : Nat × Loop := l.spawn s.flow (some s.ticket)

/-- Starts what was called for, unless the call is refused or the loop does not run. -/
def attempt (l : Loop) (runs : Bool) (s : Except CallError Start) : Except CallError Nat × Loop :=
  match runs, s with
  | true, .ok st =>
    let (id, l) := l.start st
    (.ok id, l)
  | true, .error e => (.error e, l)
  | false, s => (.error (Start.withoutLoop s), l)

/-- Adds a task that waits for another one and delivers nothing itself. -/
def startWaiter (l : Loop) (task : Nat) : Nat × Loop := l.spawn (.join task .finish) none

/-- The words for a task: what it does, and whether its result has been delivered. -/
def show? (l : Loop) (task : Nat) : Option String :=
  (l.jobs[task]?.bind (·.ticket)).map fun t =>
    "<RequestTask " ++ t.description ++
      (if (l.outcome? task).isSome then " done>" else " pending>")

end Loop

end Storefront
