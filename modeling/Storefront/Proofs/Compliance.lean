import Storefront.Proofs.Asking
import Storefront.Proofs.Conduct

/-! Flows that do what they are told. Such a flow never goes on after it was asked to end early, and it
ends early only when it was asked to. Requests and operations are such flows, as long as no session
breaks a request off by itself. -/
namespace Storefront

/-- A flow does what it is told. It may end early of itself only when it is `broken`: a session has
broken a request off. -/
def Flow.Complies {α : Type} (broken : Prop) : Flow α → Prop
  | .finish _ => True
  | .escape _ => True
  | .interrupt => broken
  | .log _ next => next.Complies broken
  | .client next => ∀ c, (next c).Complies broken
  | .session next => ∀ v, (next v).Complies broken
  | .send _ _ next => ∀ a, (next a).Complies (broken ∨ a = .interruption)
  | .hear _ _ next => next.Complies broken
  | .call _ next => ∀ r, (next r).Complies broken
  | .join _ next => ∀ d, (next d).Complies broken
  | .gate _ stubborn next => stubborn = false ∧ next.Complies broken

namespace Flow

variable {α β : Type} {broken : Prop}

theorem Complies.mono {broken' : Prop} {f : Flow α} (h : f.Complies broken)
    (hb : broken → broken') : f.Complies broken' := by
  induction f generalizing broken broken' with
  | finish a => trivial
  | escape cause => trivial
  | interrupt => exact hb h
  | log line next ih => exact ih h hb
  | client next ih => exact fun c => ih c (h c) hb
  | session next ih => exact fun v => ih v (h v) hb
  | send place r next ih => exact fun a => ih a (h a) (Or.imp_left hb)
  | hear place r next ih => exact ih h hb
  | call o next ih => exact fun r => ih r (h r) hb
  | join id next ih => exact fun d => ih d (h d) hb
  | gate name stubborn next ih => exact ⟨h.1, ih h.2 hb⟩

theorem Complies.bind {f : Flow α} {g : α → Flow β} (hf : f.Complies broken)
    (hg : ∀ a, (g a).Complies broken) : (f.bind g).Complies broken := by
  induction f generalizing broken with
  | finish a => exact hg a
  | escape cause => trivial
  | interrupt => exact hf
  | log line next ih => exact ih hf hg
  | client next ih => exact fun c => ih c (hf c) hg
  | session next ih => exact fun v => ih v (hf v) hg
  | send place r next ih => exact fun a => ih a (hf a) fun b => (hg b).mono .inl
  | hear place r next ih => exact ih hf hg
  | call o next ih => exact fun r => ih r (hf r) hg
  | join id next ih => exact fun d => ih d (hf d) hg
  | gate name stubborn next ih => exact ⟨hf.1, ih hf.2 hg⟩

/-- A flow that only makes requests of its own does what it is told. -/
theorem Heeds.complies {P : Outgoing → Prop} {ends : α → Prop} {f : Flow α}
    (h : f.Heeds (.sort P) (fun _ => ends) ()) : f.Complies broken := by
  induction f with
  | finish a => trivial
  | escape cause => trivial
  | interrupt => exact h.elim
  | log line next ih => exact ih h
  | client next ih => exact fun c => ih c (h c trivial)
  | session next ih => exact fun v => ih v (h v)
  | send place r next ih => exact h.elim
  | hear place r next ih => exact h.elim
  | call o next ih => exact fun r => ih r (h.2 r trivial)
  | join id next ih => exact h.elim
  | gate name stubborn next ih => exact h.elim

end Flow

namespace Exchange

variable {broken : Prop}

theorem settleFault_complies (o : Outgoing) (f : Fault) : (settleFault o f).Complies broken := by
  unfold settleFault
  split
  · exact fun _ => trivial
  · trivial
  · trivial

theorem settleResponse_complies (o : Outgoing) (r : Response) :
    (settleResponse o r).Complies broken := by
  unfold settleResponse
  split
  · trivial
  · trivial

theorem afterResponse_complies (o : Outgoing) (follows : Bool) (request : Request)
    {next : Request → Flow TransportResult} (hnext : ∀ r, (next r).Complies broken) (r : Response) :
    (afterResponse o follows request next r).Complies broken := by
  unfold afterResponse
  split
  · exact settleResponse_complies o _
  · split
    · exact settleFault_complies o _
    · split
      · exact hnext _
      · exact settleResponse_complies o _

theorem afterAnswer_complies (o : Outgoing) (session : SessionView) (request : Request)
    {next : Request → Flow TransportResult} (hnext : ∀ r, (next r).Complies broken) (a : Answer) :
    (afterAnswer o session request next a).Complies (broken ∨ a = .interruption) := by
  cases a with
  | interruption => exact .inr rfl
  | fault cause =>
    cases cause with
    | inl f => exact settleFault_complies o f
    | inr failure => trivial
  | response status headers body =>
    unfold afterAnswer
    dsimp only
    split
    · exact settleFault_complies o _
    · exact afterResponse_complies o _ request (fun r => (hnext r).mono .inl) _

theorem follow_complies (o : Outgoing) (session : SessionView) (more : Nat) (request : Request) :
    (follow o session more request).Complies broken := by
  induction more generalizing request with
  | zero => exact afterAnswer_complies o session request fun _ => settleFault_complies o redirectFault
  | succ more ih => exact afterAnswer_complies o session request ih

theorem flow_complies (o : Outgoing) : (flow o).Complies broken := by
  unfold flow
  cases writeContent o with
  | error f => trivial
  | ok body =>
    intro v c
    dsimp only
    split
    · trivial
    · split
      · trivial
      · exact follow_complies o _ _ _

end Exchange

/-- What is started as a task: a request or an operation by a caller, or a request by an operation. -/
inductive Start.Offered : Start → Prop where
  | call (c : Client) (call : Call) (callback : Option Callback) (st : Start)
      (h : c.startCall call callback = .ok st) : Offered st
  | operation (c : Client) (op : Operation) (callback : Option Callback) (st : Start)
      (h : c.startOperation op callback = .ok st) : Offered st
  | own (o : Outgoing) : Offered ⟨.transport <$> Exchange.flow o, Loop.requestTicket o none⟩

theorem Start.Offered.complies {st : Start} (h : st.Offered) : st.flow.Complies False := by
  have hrequest (o : Outgoing) : (Delivery.transport <$> Exchange.flow o).Complies False :=
    (Exchange.flow_complies o).bind fun _ => trivial
  cases h with
  | call c call callback st h =>
    obtain ⟨o, -, hflow⟩ := Client.startCall_ok h
    rw [hflow]
    exact hrequest o
  | operation c op callback st h =>
    obtain ⟨url, -, hflow, -⟩ := Operation.flow_ok (Client.startOperation_ok h)
    rw [hflow]
    exact (op.body_conduct url).complies
  | own o => exact hrequest o

end Storefront
