import Storefront.Proofs.Conduct

/-! The requests of an operation, as a chain. Each step of it says what is asked next, and the answer
decides how the chain goes on. -/
namespace Storefront

open Account

/-- What is fixed about a request: its method and address, what it says, and the tokens it shows. -/
structure Query where
  method : Method
  url : String
  content : Option Content
  tokens : List String

def Outgoing.query (o : Outgoing) : Query := ⟨o.method, o.url, o.content, o.tokens⟩

/-- Requests that are made one after the other, each decided by the results of those before it. -/
inductive Chain where
  | done
  | ask (q : Query) (next : TransportResult → Chain)

namespace Chain

/-- The requests that are made up to these results and right after them. -/
def queries : Chain → List TransportResult → List Query
  | .done, _ => []
  | .ask q _, [] => [q]
  | .ask q next, r :: rs => q :: (next r).queries rs

def after : Chain → TransportResult → Chain
  | .done, _ => .done
  | .ask _ next, r => next r

/-- A chain has come so far by these exchanges. -/
def Leads : Exchanges → Chain → Chain → Prop
  | [], ch, rest => ch = rest
  | (o, r) :: h, ch, rest => ∃ next, ch = .ask o.query next ∧ Leads h (next r) rest

variable {ch rest : Chain} {h : Exchanges}

theorem Leads.append {o : Outgoing} {r : TransportResult} {next : TransportResult → Chain}
    (hl : ch.Leads h (.ask o.query next)) : ch.Leads (h ++ [(o, r)]) (next r) := by
  induction h generalizing ch with
  | nil => exact ⟨next, hl, rfl⟩
  | cons p h ih =>
    obtain ⟨more, rfl, hrest⟩ := hl
    exact ⟨more, rfl, ih hrest⟩

/-- The exchanges on the way are those of the chain, and the rest of the chain is still to come. -/
theorem Leads.queries (hl : ch.Leads h rest) :
    ch.queries (h.map (·.2)) = h.map (·.1.query) ++ rest.queries [] := by
  induction h generalizing ch with
  | nil =>
    obtain rfl : ch = rest := hl
    rfl
  | cons p h ih =>
    obtain ⟨next, rfl, hrest⟩ := hl
    rw [List.map_cons, List.map_cons, Chain.queries, ih hrest]
    rfl

/-- More results only add requests. -/
theorem queries_prefix (ch : Chain) (rs rs' : List TransportResult) :
    ch.queries rs <+: ch.queries (rs ++ rs') := by
  induction rs generalizing ch with
  | nil =>
    cases ch with
    | done => exact List.prefix_refl _
    | ask q next =>
      cases rs' with
      | nil => exact List.prefix_refl _
      | cons r rs' => exact ⟨_, rfl⟩
  | cons r rs ih =>
    cases ch with
    | done => exact List.prefix_refl _
    | ask q next => exact (List.prefix_cons_inj q).mpr (ih (next r))

end Chain

/-- The token in a response and the account to ask for with it: the response describes a token that
belongs to an account, and does not describe the account itself. -/
def Response.owner? (r : Response) : Option (String × Int) :=
  match r.object? "customer", r.object? "customer_access_token" with
  | none, some ms =>
    match AccessToken.read (.obj ms) with
    | .ok token => token.customerId.map fun id => (token.token, id)
    | .error _ => none
  | _, _ => none

namespace Account

theorem owner?_of_document? {r : Response} (h : r.document? = none) : r.owner? = none := by
  unfold Response.owner? Response.object?
  rw [h]
  rfl

/-- What a login asks next, told by what it reads in the answer. -/
theorem owner?_eq {r : TransportResult} {response : Response}
    (h : response.document? = r.document) : response.owner? =
      match tokenIn r with
      | .error _ => none
      | .ok token =>
        if (objectMember? r "customer").isSome then none
        else token.customerId.map fun id => (token.token, id) := by
  unfold Response.owner? tokenIn
  rw [objectMember?_eq h, objectMember?_eq h]
  cases response.object? "customer_access_token" with
  | none => cases response.object? "customer" <;> rfl
  | some ms =>
    cases response.object? "customer" with
    | none =>
      dsimp only [Option.map_some]
      cases AccessToken.read (.obj ms) <;> rfl
    | some members =>
      dsimp only [Option.map_some]
      cases AccessToken.read (.obj ms) <;> rfl

end Account

/-- The chain of an operation that asks once. -/
def Chain.once (q : Query) : Chain := .ask q fun _ => .done

/-- The question for the owner of a token. It shows that token and no other. -/
def Chain.owner (c : Client) (r : TransportResult) : Chain :=
  match r.response.bind (·.owner?) with
  | some (token, id) => .once ⟨.get, (c.url? (.customer (.whole id))).getD "", none, [token]⟩
  | none => .done

/-- The chain of a login, which says such a document. -/
def Chain.login (c : Client) (url : String) (document : Json.Value) : Chain :=
  .ask ⟨.post, url, some (.scalar document), c.tokens⟩ (.owner c)

/-- What follows a write: a login with an address and the password of the credentials, if the answer
describes the account and an address is known. -/
def Chain.afterWrite (c : Client) (credentials : Credentials) (change : Change)
    (r : TransportResult) : Chain :=
  match r.response.bind (·.account?) with
  | none => .done
  | some customer =>
    let email := (change.email credentials customer).getD ""
    if email.isEmpty then .done
    else .login c ((c.url? .login).getD "") (.obj [("customer", .obj [("email", .str email),
      ("password", .str ((credentials.get? "password").getD ""))])])

/-- The request with which an operation begins. -/
def Operation.query (c : Client) (op : Operation) : Query :=
  ⟨op.method, (c.url? op.endpoint).getD "", op.content, c.tokens⟩

/-- The chain of an operation. -/
def Operation.chain (c : Client) (op : Operation) : Chain :=
  .ask (op.query c) fun r =>
    match op with
    | .login _ => .owner c r
    | .createCustomer credentials => .afterWrite c credentials .created r
    | .activate credentials _ _ => .afterWrite c credentials .activated r
    | .resetPassword credentials _ _ => .afterWrite c credentials .reset r
    | _ => .done

/-- The requests of a chain in order and no others, while the client stays as it is. -/
def Policy.chain (c : Client) : Policy Chain where
  clients := (· = c)
  answers := Exchange.Answers
  asks ch o := ∃ next, ch = .ask o.query next
  after := Chain.after
  breaks ch := ch = .done

/-- There is one client to be found. -/
theorem Policy.forall_chain_clients {c : Client} {P : Client → Prop} :
    (∀ c', (Policy.chain c).clients c' → P c') ↔ P c := forall_eq

/-- A chain is at its end, whatever the flow has come to. -/
def Chain.IsDone {α : Type} (ch : Chain) (_ : α) : Prop := ch = .done

theorem Client.outgoing_query (c : Client) {call : Call} (content : Option Content)
    (h : call.headers = []) :
    (c.outgoing call content).query = ⟨call.method, call.url, content, c.tokens⟩ := by
  unfold outgoing Outgoing.query Outgoing.tokens
  rw [h]
  exact congrArg _ c.defaultHeaders_tokens

/-- A call that brings a token along shows that token and no other. -/
theorem Client.outgoing_query_token (c : Client) {call : Call} (content : Option Content)
    {token : String} (h : call.headers = [(customerTokenHeader, .text token)]) :
    (c.outgoing call content).query = ⟨call.method, call.url, content, [token]⟩ := by
  unfold outgoing Outgoing.query Outgoing.tokens
  rw [h]
  exact congrArg _ (c.ownToken_tokens token)

namespace Account

variable {α : Type} {c : Client}

/-- A request whose result is read and nothing else. -/
theorem reading_chain {call : Call} {content : Option Content}
    (hc : call.body.content? = .ok content) {q : Query} (hq : (c.outgoing call content).query = q)
    (read : TransportResult → Except Failure α) :
    (answered call >>= fun r => (ofExcept (read r) : Attempt α)).Heeds (.chain c) Chain.IsDone
      Chain.IsDone (.once q) := by
  rw [Attempt.heeds_bind, answered_heeds hc, Policy.forall_chain_clients]
  refine ⟨⟨_, by rw [hq]; rfl⟩, fun r _ => ?_⟩
  cases r.failure with
  | some f => rfl
  | none =>
    refine Attempt.heeds_ofExcept.mpr ?_
    cases read r with
    | ok a => rfl
    | error f => rfl

/-- An attempt may be followed by what asks for nothing. -/
theorem Attempt.Heeds.then {β : Type} {m : Attempt α} {g : α → Attempt β} {ch : Chain}
    (hm : m.Heeds (.chain c) Chain.IsDone Chain.IsDone ch)
    (hg : ∀ a, (g a).Heeds (.chain c) Chain.IsDone Chain.IsDone .done) :
    (m >>= g).Heeds (.chain c) Chain.IsDone Chain.IsDone ch := by
  rw [heeds_bind]
  refine hm.mono fun ch' z hz => ?_
  cases z with
  | error f => exact hz
  | ok a =>
    obtain rfl : ch' = .done := hz
    exact hg a

theorem fetchOwner_chain (hs : c.HasShop) {token : AccessToken} (ht : token.token ≠ "") (id : Int) :
    (fetchOwner token id).Heeds (.chain c) Chain.IsDone Chain.IsDone
      (.once ⟨.get, (c.url? (.customer (.whole id))).getD "", none, [token.token]⟩) := by
  obtain ⟨url, hu⟩ := hs.url? (.customer (.whole id))
  unfold fetchOwner
  rw [Attempt.heeds_bind, addressOf_heeds, Policy.forall_chain_clients, hu]
  refine Attempt.Heeds.then ?_ fun customer => Attempt.heeds_say.mpr rfl
  refine reading_chain rfl (c.outgoing_query_token none ?_) customerIn
  exact if_neg (by simpa using ht)

theorem login_chain (hs : c.HasShop) (url : String) (credentials : Credentials) :
    (login url credentials).Heeds (.chain c) Chain.IsDone Chain.IsDone
      (.login c url credentials.document) := by
  unfold login
  rw [Attempt.heeds_bind, answered_heeds rfl, Policy.forall_chain_clients]
  refine ⟨⟨_, by rw [c.outgoing_query _ rfl]; rfl⟩, fun r hr => ?_⟩
  change Outcome _ _ (Chain.owner c r) _
  unfold Chain.owner
  -- the chain reads the response, the flow its document; of a failure there is none
  rcases hr.document with ⟨f, hf, -, hnone⟩ | ⟨hf, response, hresponse, hdocument⟩
  · have howner : r.response.bind (·.owner?) = none := by
      cases hr' : r.response with
      | none => rfl
      | some response =>
        rw [hr'] at hnone
        exact owner?_of_document? hnone
    rw [hf, howner]
    rfl
  · rw [hf, hresponse, Option.bind_some, owner?_eq hdocument]
    refine Attempt.heeds_bind.mpr (Attempt.heeds_ofExcept.mpr ?_)
    cases ht : tokenIn r with
    | error f => rfl
    | ok token =>
      change Attempt.Heeds _ _ _ _ _
      dsimp only
      split
      · refine Attempt.heeds_bind.mpr (Attempt.heeds_ofExcept.mpr ?_)
        cases customerIn r with
        | error f => rfl
        | ok customer => rfl
      · cases token.customerId with
        | none => rfl
        | some id => exact fetchOwner_chain hs (token_of_tokenIn ht) id

theorem changing_chain (hs : c.HasShop) (url : String) (credentials : Credentials)
    (change : Change) : (changing url credentials change).Heeds (.chain c) Chain.IsDone Chain.IsDone
      (.ask ⟨change.method, url, some (.scalar credentials.document), c.tokens⟩
        (.afterWrite c credentials change)) := by
  obtain ⟨loginUrl, hu⟩ := hs.url? .login
  unfold changing
  rw [Attempt.heeds_bind, answered_heeds rfl, Policy.forall_chain_clients]
  refine ⟨⟨_, by rw [c.outgoing_query _ rfl]⟩, fun r hr => ?_⟩
  change Outcome _ _ (Chain.afterWrite c credentials change r) _
  unfold Chain.afterWrite
  rcases answers_account hr with ⟨customer, ha, hw⟩ | ⟨ha, f, hw, -⟩
  · rw [ha]
    cases hf : r.failure with
    | some f => simp [written, hf] at hw
    | none =>
      have hread : customerIn r = .ok customer := by rw [← hw, written, hf]
      refine Attempt.heeds_bind.mpr (Attempt.heeds_ofExcept.mpr ?_)
      rw [hread]
      refine Attempt.heeds_say.mpr ?_
      unfold deriveToken
      dsimp only
      split
      · rfl
      · rw [Attempt.heeds_bind, addressOf_heeds, Policy.forall_chain_clients, hu]
        dsimp only [Option.getD_some]
        rw [Attempt.heeds_bind, Attempt.heeds_lift, ← loginCredentials_document]
        refine (login_chain hs loginUrl _).mono fun ch z hz => ?_
        cases z with
        | ok found => exact hz
        | error f => exact Attempt.heeds_say.mpr hz
  · rw [ha]
    cases hf : r.failure with
    | some f' => rfl
    | none =>
      have hread : customerIn r = .error f := by rw [← hw, written, hf]
      refine Attempt.heeds_bind.mpr (Attempt.heeds_ofExcept.mpr ?_)
      rw [hread]
      rfl

theorem Attempt.Heeds.map_chain {β : Type} {m : Attempt α} {ch : Chain}
    (h : m.Heeds (.chain c) Chain.IsDone Chain.IsDone ch) (g : Except Failure α → β) :
    (g <$> m.run).Heeds (.chain c) Chain.IsDone ch := by
  refine Flow.heeds_map.mpr (h.mono fun ch' z hz => ?_)
  cases z with
  | ok a => exact hz
  | error f => exact hz

end Account

/-- While its client stays as it is, an operation makes the requests of its chain and no others. -/
theorem Operation.body_chain {c : Client} {op : Operation} {url : String}
    (hu : c.url? op.endpoint = some url) :
    (op.body url).Heeds (.chain c) Chain.IsDone (op.chain c) := by
  have hs : c.HasShop := Client.hasShop_of_url? hu
  have hq : op.query c = ⟨op.method, url, op.content, c.tokens⟩ := by
    rw [query, hu]
    rfl
  unfold chain
  rw [hq]
  cases op with
  | getCustomer id => exact (reading_chain rfl (c.outgoing_query none rfl) customerIn).map_chain _
  | createCustomer credentials => exact (changing_chain hs url credentials .created).map_chain _
  | login credentials => exact (login_chain hs url credentials).map_chain _
  | recoverPassword email =>
    refine Flow.heeds_map.mpr (Flow.heeds_bind.mpr ((request_heeds rfl).mpr ?_))
    refine Policy.forall_chain_clients.mpr ⟨⟨fun _ => .done, ?_⟩, fun r _ => rfl⟩
    rw [c.outgoing_query _ rfl]
    rfl
  | renewToken id =>
    have htoken : (answered { method := .put, url } >>= fun r =>
        (ofExcept (tokenIn r) : Attempt AccessToken)).Heeds (.chain c) Chain.IsDone Chain.IsDone
          (.once ⟨.put, url, none, c.tokens⟩) :=
      reading_chain rfl (c.outgoing_query none rfl) tokenIn
    rw [Attempt.heeds_bind] at htoken
    refine Attempt.Heeds.map_chain (Attempt.heeds_bind.mpr (htoken.mono fun ch z hz => ?_)) _
    cases z with
    | error f => exact hz
    | ok r => exact Attempt.Heeds.then hz fun token => rfl
  | activate credentials id token =>
    exact (changing_chain hs url credentials .activated).map_chain _
  | resetPassword credentials id token =>
    exact (changing_chain hs url credentials .reset).map_chain _
  | getOrders id => exact (reading_chain rfl (c.outgoing_query none rfl) ordersIn).map_chain _

end Storefront
