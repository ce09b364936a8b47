import Storefront.Proofs.Policy
import Storefront.Proofs.Written

/-! What operations do, whatever they are answered and whoever changes their client meanwhile: which
requests they make, and what they end with. -/
namespace Storefront

open Account

namespace Operation

/-- The requests that an operation can make: the one that it begins with, the login after a write,
and the question for the owner of a token. -/
inductive Asks (op : Operation) (url : String) (o : Outgoing) : Prop where
  | own (hm : o.method = op.method) (hu : o.url = url) (hc : o.content = op.content)
  | login (credentials : Credentials) (change : Change) (email : Str)
      (hop : op.write? = some (credentials, change)) (he : email ≠ ("" : Str)) (hm : o.method = .post)
      (hc : o.content = some (.scalar
        (loginCredentials email ((credentials.get? "password").getD "")).document))
  | owner (hop : op.kind = .login) (hm : o.method = .get) (hc : o.content = none)

end Operation

namespace Delivery

/-- A result with everything it can hold, and no failure. -/
def IsWhole : Delivery → Prop
  | .transport r => r.response.isSome ∧ r.failure = none
  | .customer r => r.customer.isSome ∧ r.failure = none
  | .login r => r.customer.isSome ∧ (∃ token, r.token = some token ∧ token ≠ "") ∧ r.failure = none
  | .token r => (∃ token, r.token = some token ∧ token ≠ "") ∧ r.failure = none
  | .recovery r => r.status = .success ∧ r.failure = none
  | .orders r => r.orders.isSome ∧ r.failure = none
  | .items _ => False

/-- A result with a failure and nothing else; of a recovery, there is always a status. -/
def HoldsOnly (f : Failure) : Delivery → Prop
  | .transport r => r.document = none ∧ r.response = none ∧ r.failure = some f
  | .customer r => r.customer = none ∧ r.failure = some f
  | .login r => r.customer = none ∧ r.token = none ∧ r.failure = some f
  | .token r => r.token = none ∧ r.failure = some f
  | .recovery r => r.failure = some f
  | .orders r => r.orders = none ∧ r.failure = some f
  | .items xs => xs = [.value .null, .failure f]

def IsBare (d : Delivery) : Prop := ∃ f, d.HoldsOnly f

theorem IsWhole.failure? {d : Delivery} (h : d.IsWhole) : d.failure? = none := by
  cases d with
  | transport r => exact h.2
  | customer r => exact h.2
  | login r => exact h.2.2
  | token r => exact h.2
  | recovery r => exact h.2
  | orders r => exact h.2
  | items xs => exact h.elim

theorem HoldsOnly.failure? {d : Delivery} {f : Failure} (h : d.HoldsOnly f) :
    d.failure? = some f := by
  cases d with
  | transport r => exact h.2.2
  | customer r => exact h.2
  | login r => exact h.2.2
  | token r => exact h.2
  | recovery r => exact h
  | orders r => exact h.2
  | items xs =>
    obtain rfl : xs = [.value .null, .failure f] := h
    rfl

theorem not_isWhole_of_isBare {d : Delivery} (h : d.IsBare) : ¬ d.IsWhole := by
  obtain ⟨f, hf⟩ := h
  intro hw
  exact absurd (hw.failure?.symm.trans hf.failure?) (by simp)

end Delivery

theorem ResultKind.failed_kind (k : ResultKind) (f : Failure) : (k.failed f).kind = k := by
  cases k <;> rfl

theorem ResultKind.failed_holdsOnly (k : ResultKind) (f : Failure) : (k.failed f).HoldsOnly f := by
  cases k <;> simp [failed, Delivery.HoldsOnly]

/-- Requests of one sort, whatever comes of them, and no other requests. -/
def Policy.sort (P : Outgoing → Prop) : Policy Unit where
  clients _ := True
  answers _ _ := True
  asks _ o := P o
  after _ _ := ()
  breaks _ := True

/-- A flow that makes requests of one sort obeys the contract to make no others. -/
theorem Flow.Heeds.obeys {α : Type} {P : Outgoing → Prop} {ends : α → Prop} {f : Flow α}
    (h : f.Heeds (.sort P) (fun _ => ends) ()) : f.Obeys ⟨fun _ => False, P, ends⟩ := by
  induction f with
  | finish a => exact h
  | escape cause => trivial
  | interrupt => trivial
  | log line next ih => exact ih h
  | client next ih => exact fun c => ih c (h c trivial)
  | session next ih => exact fun v => ih v (h v)
  | send place r next ih => exact h.elim
  | hear place r next ih => exact h.elim
  | call o next ih => exact ⟨h.1, fun r => ih r (h.2 r trivial)⟩
  | join id next ih => exact h.elim
  | gate name stubborn next ih => exact h.elim

namespace Account

variable {P : Outgoing → Prop}

/-- Any failure will do. -/
abbrev anyFailure : Unit → Failure → Prop := fun _ _ => True

/-- A request of one sort whose result is read. -/
theorem reading_conduct {α : Type} {call : Call} {content : Option Content}
    (hc : call.body.content? = .ok content) (hP : ∀ c : Client, P (c.outgoing call content))
    {read : TransportResult → Except Failure α} {good : α → Prop}
    (hread : ∀ r a, read r = .ok a → good a) :
    (answered call >>= fun r => (ofExcept (read r) : Attempt α)).Heeds (.sort P) (fun _ => good)
      anyFailure () := by
  rw [Attempt.heeds_bind, answered_heeds hc]
  refine fun c _ => ⟨hP c, fun r _ => ?_⟩
  cases r.failure with
  | some f => trivial
  | none =>
    refine Attempt.heeds_ofExcept.mpr ?_
    cases hr : read r with
    | ok a => exact hread r a hr
    | error f => trivial

theorem fetch_conduct {url : String} {token : Option String}
    (hP : ∀ o : Outgoing, o.method = .get → o.url = url → o.content = none → P o) :
    (fetch url token).Heeds (.sort P) (fun _ _ => True) anyFailure () := by
  unfold fetch
  exact reading_conduct rfl (fun c => hP _ rfl rfl rfl) fun _ _ _ => trivial

theorem renew_conduct {url : String}
    (hP : ∀ o : Outgoing, o.method = .put → o.url = url → o.content = none → P o) :
    (renew url).Heeds (.sort P) (fun _ token => token ≠ "") anyFailure () := by
  have htoken : (answered { method := .put, url } >>= fun r =>
      (ofExcept (tokenIn r) : Attempt AccessToken)).Heeds (.sort P) (fun _ t => t.token ≠ "")
        anyFailure () :=
    reading_conduct rfl (fun c => hP _ rfl rfl rfl) fun r t ht => token_of_tokenIn ht
  rw [Attempt.heeds_bind] at htoken
  unfold renew
  rw [Attempt.heeds_bind]
  refine htoken.mono fun _ z hz => ?_
  cases z with
  | error f => trivial
  | ok r => exact Attempt.heeds_bind.mpr hz

theorem fetchOrders_conduct {url : String}
    (hP : ∀ o : Outgoing, o.method = .get → o.url = url → o.content = none → P o) :
    (fetchOrders url).Heeds (.sort P) (fun _ _ => True) anyFailure () := by
  unfold fetchOrders
  exact reading_conduct rfl (fun c => hP _ rfl rfl rfl) fun _ _ _ => trivial

theorem login_conduct {url : String} {credentials : Credentials}
    (hpost : ∀ o : Outgoing, o.method = .post → o.url = url →
      o.content = some (.scalar credentials.document) → P o)
    (hget : ∀ o : Outgoing, o.method = .get → o.content = none → P o) :
    (login url credentials).Heeds (.sort P) (fun _ l => l.token ≠ "") anyFailure () := by
  unfold login
  rw [Attempt.heeds_bind, answered_heeds rfl]
  refine fun c _ => ⟨hpost _ rfl rfl rfl, fun r _ => ?_⟩
  cases r.failure with
  | some f => trivial
  | none =>
    refine Attempt.heeds_bind.mpr (Attempt.heeds_ofExcept.mpr ?_)
    cases ht : tokenIn r with
    | error f => trivial
    | ok token =>
      have htoken : token.token ≠ "" := token_of_tokenIn ht
      change Attempt.Heeds _ _ _ _ _
      split
      · refine Attempt.heeds_bind.mpr (Attempt.heeds_ofExcept.mpr ?_)
        cases customerIn r with
        | error f => trivial
        | ok customer => exact htoken
      · split
        · trivial
        · unfold fetchOwner
          rw [Attempt.heeds_bind, addressOf_heeds]
          intro c' _
          split
          · rw [Attempt.heeds_bind]
            refine (fetch_conduct fun o hm _ hc => hget o hm hc).mono fun _ z _ => ?_
            cases z with
            | error f => trivial
            | ok customer => exact htoken
          · trivial

theorem changing_conduct {url : String} {credentials : Credentials} {change : Change}
    (hown : ∀ o : Outgoing, o.method = change.method → o.url = url →
      o.content = some (.scalar credentials.document) → P o)
    (hpost : ∀ (o : Outgoing) (email : Str), email ≠ ("" : Str) → o.method = .post →
      o.content = some (.scalar
        (loginCredentials email ((credentials.get? "password").getD "")).document) → P o)
    (hget : ∀ o : Outgoing, o.method = .get → o.content = none → P o) :
    (changing url credentials change).Heeds (.sort P) (fun _ l => l.token ≠ "") anyFailure () := by
  unfold changing
  rw [Attempt.heeds_bind, answered_heeds rfl]
  refine fun c _ => ⟨hown _ rfl rfl rfl, fun r _ => ?_⟩
  cases r.failure with
  | some f => trivial
  | none =>
    refine Attempt.heeds_bind.mpr (Attempt.heeds_ofExcept.mpr ?_)
    cases customerIn r with
    | error f => trivial
    | ok customer =>
      refine Attempt.heeds_say.mpr ?_
      unfold deriveToken
      dsimp only
      split
      · trivial
      · rename_i he
        rw [Attempt.heeds_bind, addressOf_heeds]
        intro c' _
        split
        · rw [Attempt.heeds_bind, Attempt.heeds_lift]
          have hne : (change.email credentials customer).getD "" ≠ ("" : Str) := by
            rw [Ne, ← Str.isEmpty_iff]
            exact he
          refine (login_conduct (fun o hm _ hc => hpost o _ hne hm hc) hget).mono fun _ z hz => ?_
          cases z with
          | ok found => exact hz
          | error f => exact Attempt.heeds_say.mpr trivial
        · trivial

end Account

/-- What an operation does: it makes no other requests than its own, and its result is of its kind
and either whole or bare; a recovery tells how it went in its status. -/
theorem Operation.body_conduct (op : Operation) (url : String) :
    (op.body url).Heeds (.sort (op.Asks url))
      (fun _ d => d.kind = op.kind ∧ (op.kind ≠ .recovery → d.IsWhole ∨ d.IsBare)) () := by
  have hlogin {m : Attempt Login} (hop : op.kind = .login)
      (h : m.Heeds (.sort (op.Asks url)) (fun _ l => l.token ≠ "") anyFailure ()) :
      (loginResult <$> m.run).Heeds (.sort (op.Asks url))
        (fun _ d => d.kind = op.kind ∧ (op.kind ≠ .recovery → d.IsWhole ∨ d.IsBare)) () := by
    refine Flow.heeds_map.mpr (h.mono fun _ z hz => ?_)
    rw [hop]
    cases z with
    | ok l => exact ⟨rfl, fun _ => .inl ⟨rfl, ⟨l.token, rfl, hz⟩, rfl⟩⟩
    | error f => exact ⟨rfl, fun _ => .inr ⟨f, rfl, rfl, rfl⟩⟩
  cases op with
  | getCustomer id =>
    have hget : (fetch url none).Heeds (.sort ((Operation.getCustomer id).Asks url))
        (fun _ _ => True) anyFailure () := fetch_conduct fun o hm hu hc => .own hm hu hc
    refine Flow.heeds_map.mpr (hget.mono fun _ z _ => ?_)
    cases z with
    | ok customer => exact ⟨rfl, fun _ => .inl ⟨rfl, rfl⟩⟩
    | error f => exact ⟨rfl, fun _ => .inr ⟨f, rfl, rfl⟩⟩
  | createCustomer credentials =>
    exact hlogin rfl (changing_conduct (fun o hm hu hc => .own hm hu hc)
      (fun o email he hm hc => .login credentials .created email rfl he hm hc)
      fun o hm hc => .owner rfl hm hc)
  | login credentials =>
    exact hlogin rfl (login_conduct (fun o hm hu hc => .own hm hu hc)
      fun o hm hc => .owner rfl hm hc)
  | recoverPassword email =>
    refine Flow.heeds_map.mpr ?_
    refine Flow.heeds_bind.mpr ((request_heeds rfl).mpr fun c _ => ⟨.own rfl rfl rfl, fun r _ => ?_⟩)
    exact ⟨rfl, fun h => absurd rfl h⟩
  | renewToken id =>
    have hput := renew_conduct (P := (Operation.renewToken id).Asks url)
      fun o hm hu hc => .own hm hu hc
    refine Flow.heeds_map.mpr (hput.mono fun _ z hz => ?_)
    cases z with
    | ok token => exact ⟨rfl, fun _ => .inl ⟨⟨token, rfl, hz⟩, rfl⟩⟩
    | error f => exact ⟨rfl, fun _ => .inr ⟨f, rfl, rfl⟩⟩
  | activate credentials id token =>
    exact hlogin rfl (changing_conduct (fun o hm hu hc => .own hm hu hc)
      (fun o email he hm hc => .login credentials .activated email rfl he hm hc)
      fun o hm hc => .owner rfl hm hc)
  | resetPassword credentials id token =>
    exact hlogin rfl (changing_conduct (fun o hm hu hc => .own hm hu hc)
      (fun o email he hm hc => .login credentials .reset email rfl he hm hc)
      fun o hm hc => .owner rfl hm hc)
  | getOrders id =>
    have hget := fetchOrders_conduct (P := (Operation.getOrders id).Asks url)
      fun o hm hu hc => .own hm hu hc
    refine Flow.heeds_map.mpr (hget.mono fun _ z _ => ?_)
    cases z with
    | ok orders => exact ⟨rfl, fun _ => .inl ⟨rfl, rfl⟩⟩
    | error f => exact ⟨rfl, fun _ => .inr ⟨f, rfl, rfl⟩⟩

/-- What an operation may do, and what it may end with. -/
def Operation.contract (op : Operation) (url : String) : Contract Delivery where
  sends _ := False
  calls := op.Asks url
  ends d := d.kind = op.kind ∧ (op.kind ≠ .recovery → d.IsWhole ∨ d.IsBare)

/-- An operation that is started obeys its contract. -/
theorem Client.startOperation_obeys {c : Client} {op : Operation} {callback : Option Callback}
    {st : Start} (h : c.startOperation op callback = .ok st) :
    ∃ url, c.url? op.endpoint = some url ∧ st.flow.Obeys (op.contract url) := by
  obtain ⟨url, hurl, hflow, -⟩ := Operation.flow_ok (Client.startOperation_ok h)
  refine ⟨url, hurl, ?_⟩
  rw [hflow]
  exact (op.body_conduct url).obeys

end Storefront
