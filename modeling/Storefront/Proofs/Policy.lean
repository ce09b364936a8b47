import Storefront.Account
import Storefront.Proofs.Checks

/-! What a flow does that makes requests and waits for nothing else, judged request by request. A
policy says in each state what may be asked; the answer decides the next state. The rules walk down a
flow from its first step, with a condition on the states in which it ends. -/
namespace Storefront

structure Policy (σ : Type) where
  /-- The clients that may be found. -/
  clients : Client → Prop
  /-- The results that may come of a request. -/
  answers : Outgoing → TransportResult → Prop
  asks : σ → Outgoing → Prop
  after : σ → TransportResult → σ
  /-- The states in which something may be left unhandled. -/
  breaks : σ → Prop

variable {σ α β : Type}

/-- A flow keeps to a policy from a state on, and ends as it should. It sends nothing itself, waits
for nothing but its own requests, and does not stop as if it had been cancelled. -/
def Flow.Heeds (p : Policy σ) (ends : σ → α → Prop) : Flow α → σ → Prop
  | .finish a, x => ends x a
  | .escape _, x => p.breaks x
  | .interrupt, _ => False
  | .log _ next, x => next.Heeds p ends x
  | .client next, x => ∀ c, p.clients c → (next c).Heeds p ends x
  | .session next, x => ∀ v, (next v).Heeds p ends x
  | .send _ _ _, _ => False
  | .hear _ _ _, _ => False
  | .call o next, x => p.asks x o ∧ ∀ r, p.answers o r → (next r).Heeds p ends (p.after x r)
  | .join _ _, _ => False
  | .gate _ _ _, _ => False

variable {p : Policy σ} {x : σ}

/-- What follows a flow goes on from the states in which it ends. -/
theorem Flow.heeds_bind {ends : σ → β → Prop} {f : Flow α} {g : α → Flow β} :
    (f.bind g).Heeds p ends x ↔ f.Heeds p (fun y a => (g a).Heeds p ends y) x := by
  induction f generalizing x with
  | finish a => rfl
  | escape cause => rfl
  | interrupt => rfl
  | log line next ih => exact ih
  | client next ih => exact forall₂_congr fun c _ => ih c
  | session next ih => exact forall_congr' fun v => ih v
  | send place r next ih => rfl
  | hear place r next ih => rfl
  | call o next ih => exact and_congr_right fun _ => forall₂_congr fun r _ => ih r
  | join id next ih => rfl
  | gate name stubborn next ih => rfl

theorem Flow.Heeds.mono {ends ends' : σ → α → Prop} {f : Flow α} (h : f.Heeds p ends x)
    (he : ∀ y a, ends y a → ends' y a) : f.Heeds p ends' x := by
  induction f generalizing x with
  | finish a => exact he x a h
  | escape cause => exact h
  | interrupt => exact h
  | log line next ih => exact ih h
  | client next ih => exact fun c hc => ih c (h c hc)
  | session next ih => exact fun v => ih v (h v)
  | send place r next ih => exact h
  | hear place r next ih => exact h
  | call o next ih => exact ⟨h.1, fun r hr => ih r (h.2 r hr)⟩
  | join id next ih => exact h
  | gate name stubborn next ih => exact h

theorem Flow.heeds_map {ends : σ → β → Prop} {f : Flow α} {g : α → β} :
    (g <$> f).Heeds p ends x ↔ f.Heeds p (fun y a => ends y (g a)) x := Flow.heeds_bind

/-- The request that a client makes of a call whose body becomes a document. -/
def Client.outgoing (c : Client) (call : Call) (content : Option Content) : Outgoing where
  method := call.method
  url := call.url
  content := content
  headers := c.defaultHeaders.putAll call.headers

theorem Client.prepare_eq (c : Client) (call : Call) :
    c.prepare call = call.body.content?.map (c.outgoing call) := rfl

theorem Client.prepare_ok {c : Client} {call : Call} {o : Outgoing} (h : c.prepare call = .ok o) :
    ∃ content, call.body.content? = .ok content ∧ o = c.outgoing call content := by
  rw [prepare_eq] at h
  cases hb : call.body.content? with
  | error e =>
    rw [hb] at h
    cases h
  | ok content =>
    rw [hb] at h
    exact ⟨content, rfl, (Except.ok.inj h).symm⟩

namespace Account

/-- How an attempt may end. -/
def Outcome (good : σ → α → Prop) (bad : σ → Failure → Prop) (y : σ) : Except Failure α → Prop
  | .ok a => good y a
  | .error f => bad y f

/-- An attempt keeps to a policy, and ends as it should with a value or with a failure. -/
def Attempt.Heeds (p : Policy σ) (good : σ → α → Prop) (bad : σ → Failure → Prop) (m : Attempt α)
    (x : σ) : Prop := m.run.Heeds p (Outcome good bad) x

variable {good : σ → α → Prop} {good' : σ → β → Prop} {bad : σ → Failure → Prop}

theorem Attempt.heeds_bind {m : Attempt α} {g : α → Attempt β} :
    (m >>= g).Heeds p good' bad x ↔ m.Heeds p (fun y a => (g a).Heeds p good' bad y) bad x := by
  refine (Flow.heeds_bind (f := m.run) (g := ExceptT.bindCont g)).trans ?_
  have hends : (fun (y : σ) z => (ExceptT.bindCont g z).Heeds p (Outcome good' bad) y) =
      Outcome (fun y a => (g a).Heeds p good' bad y) bad := by
    funext y z
    cases z with
    | ok a => rfl
    | error f => rfl
  rw [hends]
  rfl

theorem Attempt.heeds_ofExcept {e : Except Failure α} :
    (ofExcept e : Attempt α).Heeds p good bad x ↔ Outcome good bad x e := by
  cases e with
  | ok a => rfl
  | error f => rfl

theorem Attempt.heeds_lift {f : Flow α} :
    (liftM f : Attempt α).Heeds p good bad x ↔ f.Heeds p good x := Flow.heeds_bind

theorem Attempt.heeds_say {level : Log.Level} {source : Log.Source} {message : Str}
    {g : Unit → Attempt α} :
    (liftM (Flow.say level source message) >>= g : Attempt α).Heeds p good bad x ↔
      (g ()).Heeds p good bad x := by
  rw [heeds_bind, heeds_lift]
  rfl

/-- A call whose body becomes a document is one request. -/
theorem request_heeds {call : Call} {content : Option Content} (hc : call.body.content? = .ok content)
    {ends : σ → TransportResult → Prop} : (request call).Heeds p ends x ↔ ∀ c, p.clients c →
      p.asks x (c.outgoing call content) ∧
        ∀ r, p.answers (c.outgoing call content) r → ends (p.after x r) r := by
  have hprepare (c : Client) : c.prepare call = .ok (c.outgoing call content) := by
    rw [Client.prepare_eq, hc]
    rfl
  simp only [request, bind, Flow.bind, Flow.getClient, Flow.Heeds, hprepare]

theorem answered_heeds {call : Call} {content : Option Content}
    (hc : call.body.content? = .ok content) {good : σ → TransportResult → Prop} :
    (answered call).Heeds p good bad x ↔ ∀ c, p.clients c →
      p.asks x (c.outgoing call content) ∧ ∀ r, p.answers (c.outgoing call content) r →
        Outcome good bad (p.after x r) (match r.failure with
          | some f => .error f
          | none => .ok r) := by
  unfold answered
  rw [Attempt.heeds_bind, Attempt.heeds_lift, request_heeds hc]
  refine forall₂_congr fun c _ => and_congr_right fun _ => forall₂_congr fun r _ => ?_
  cases r.failure with
  | none => rfl
  | some f => rfl

theorem addressOf_heeds {e : Endpoint} {good : σ → String → Prop} :
    (liftM (addressOf e) : Attempt String).Heeds p good bad x ↔ ∀ c, p.clients c →
      match c.url? e with
      | some url => good x url
      | none => p.breaks x := by
  rw [Attempt.heeds_lift]
  refine forall₂_congr fun c _ => ?_
  unfold Client.url?
  dsimp only [Flow.bind]
  cases e.url? c.scheme.toText c.shopDomain [] with
  | none => rfl
  | some url => rfl

end Account

end Storefront
