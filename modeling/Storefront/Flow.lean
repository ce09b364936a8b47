import Storefront.Delivery
import Storefront.Log.Line

/-! Flows: what a task does, one step after the other. A flow asks for what lies outside it and goes
on with the answer. -/
namespace Storefront

/-- What answers a request. -/
inductive Answer where
  | response (status : Int) (headers : List (String × String)) (body : List UInt8)
  | fault (cause : Fault ⊕ Failure)
  | interruption

/-- A session as a flow sees it, with its place among all that the client has used. -/
structure SessionView where
  place : Nat
  followsRedirects : Bool
  isClosed : Bool
deriving DecidableEq

inductive Flow (α : Type) where
  | finish (a : α)
  /-- Ends with something that nobody has handled. -/
  | escape (cause : Fault ⊕ Failure)
  /-- Ends as if it had been cancelled. -/
  | interrupt
  | log (line : Log.Line) (next : Flow α)
  /-- Looks at the client as it is now. -/
  | client (next : Client → Flow α)
  /-- Takes the session of the client, which is opened if there is none. -/
  | session (next : SessionView → Flow α)
  /-- Sends a request through a session, which adds the cookies that it keeps. -/
  | send (place : Nat) (request : Request) (next : Answer → Flow α)
  /-- Hands a response to a session, which may keep cookies of it. -/
  | hear (place : Nat) (response : Response) (next : Flow α)
  /-- Starts a request of its own and waits for it. -/
  | call (outgoing : Outgoing) (next : TransportResult → Flow α)
  /-- Waits for a task that was started before. -/
  | join (task : Nat) (next : Delivery → Flow α)
  /-- Waits until a gate is open; a stubborn flow goes on when it is cancelled there. -/
  | gate (name : String) (stubborn : Bool) (next : Flow α)

namespace Flow

variable {α β : Type}

def bind (f : Flow α) (g : α → Flow β) : Flow β :=
  match f with
  | .finish a => g a
  | .escape cause => .escape cause
  | .interrupt => .interrupt
  | .log line next => .log line (next.bind g)
  | .client next => .client fun c => (next c).bind g
  | .session next => .session fun s => (next s).bind g
  | .send place request next => .send place request fun a => (next a).bind g
  | .hear place response next => .hear place response (next.bind g)
  | .call outgoing next => .call outgoing fun r => (next r).bind g
  | .join task next => .join task fun d => (next d).bind g
  | .gate name stubborn next => .gate name stubborn (next.bind g)

instance : Monad Flow where
  pure := .finish
  bind := bind

def say (level : Log.Level) (source : Log.Source) (message : Str) : Flow Unit :=
  .log { level, source, message } (.finish ())

def getClient : Flow Client := .client .finish

def failWith (f : Fault) : Flow α := .escape (.inl f)

def ofExcept : Except Fault α → Flow α
  | .ok a => .finish a
  | .error f => failWith f

end Flow

end Storefront
