import Storefront.Proofs.Accepted
import Storefront.Proofs.Documents
import Storefront.Proofs.Login

/-! A written account is never lost. After a write that the shop has answered with the account, the
operation delivers a customer who is logged in, or a failure that keeps the account and says what
went wrong with the login. -/
namespace Storefront

/-- The account that a response holds: its code is a success, and its body is a document with the
description of a customer. -/
def Response.account? (r : Response) : Option Customer :=
  if 200 ≤ r.status ∧ r.status < 300 then
    match Exchange.readDocument r.body with
    | .ok (some document, none) =>
      match document.member? "customer" with
      | some (.obj ms) => (Customer.read (.obj ms)).toOption
      | _ => none
    | _ => none
  else none

theorem Response.account?_eq (r : Response) : r.account? =
    (r.object? "customer").bind fun ms => (Customer.read (.obj ms)).toOption := by
  unfold account? object? document?
  split
  · rcases Exchange.readDocument r.body with f | ⟨_ | document, _ | fault⟩
    · rfl
    · rfl
    · rfl
    · dsimp only [Option.bind_some]
      cases document.member? "customer" with
      | none => rfl
      | some v => cases v <;> rfl
    · rfl
  · rfl

namespace Account

/-- What a write has come to: the account in the answer, or a failure. -/
def written (r : TransportResult) : Except Failure Customer :=
  match r.failure with
  | some f => .error f
  | none => customerIn r

/-- The answer to a write holds the account, or the write has a failure that is none of a login. -/
theorem answers_account {o : Outgoing} {r : TransportResult} (h : Exchange.Answers o r) :
    (∃ customer, r.response.bind (·.account?) = some customer ∧ written r = .ok customer) ∨
    r.response.bind (·.account?) = none ∧ ∃ f, written r = .error f ∧ f.cls ≠ .tokenDerivation := by
  rcases h.document with ⟨f, hf, hcls, hnone⟩ | ⟨hf, response, hresponse, hdocument⟩
  · refine .inr ⟨?_, f, by rw [written, hf], hcls⟩
    cases hr : r.response with
    | none => rfl
    | some response =>
      rw [hr, Option.bind_some] at hnone
      rw [Option.bind_some, Response.account?_eq, Response.object?, hnone]
      rfl
  · have hwritten : written r = customerIn r := by rw [written, hf]
    rw [hresponse, Option.bind_some, Response.account?_eq, hwritten, customerIn,
      objectMember?_eq hdocument]
    cases response.object? "customer" with
    | none => exact .inr ⟨rfl, _, rfl, by simp [malformed]⟩
    | some ms =>
      rw [Option.bind_some, Option.map_some]
      dsimp only
      cases Customer.read (.obj ms) with
      | ok customer => exact .inl ⟨customer, rfl, rfl⟩
      | error e => exact .inr ⟨rfl, _, rfl, by simp [malformed]⟩

variable {c : Client} {h : Exchanges}

theorem deriveToken_handles (hs : c.HasShop) (customer : Customer) (email : Option Str)
    (password : Str) (change : Change) :
    (deriveToken customer email password change).Handles c := by
  unfold deriveToken
  dsimp only
  split
  · exact Attempt.handles_throw _
  · refine (addressOf_handles hs _).bind fun url => ?_
    refine (Attempt.handles_lift (login_handles hs url _)).bind fun outcome => ?_
    cases outcome with
    | ok found => exact Attempt.handles_pure found
    | error f => exact (handles_say _ _ _).bind fun _ => Attempt.handles_throw _

def loginCredentials (email password : Str) : Credentials :=
  ⟨[⟨"email", email⟩, ⟨"password", password⟩]⟩

theorem loginCredentials_document (email password : Str) :
    (loginCredentials email password).document =
      .obj [("customer", .obj [("email", .str email), ("password", .str password)])] := by
  have hne : "email" ≠ "password" := by decide
  simp [loginCredentials, Credentials.document, Credentials.table, Credentials.pairs, Pairs.ofList,
    Pairs.putAll, Pairs.put, hne]

/-- The login after a change keeps the account of its failure. -/
theorem deriveToken_gives (hs : c.HasShop) {customer : Customer} {email : Option Str}
    {password : Str} {change : Change} {y : Except Failure Login}
    (hy : (deriveToken customer email password change).Gives c h y) :
    (email.getD ("" : Str)).isEmpty = true ∧ h = [] ∧ y = .error (noEmailFailure customer change) ∨
    (email.getD ("" : Str)).isEmpty = false ∧ ∃ url z, c.url? .login = some url ∧
      (login url (loginCredentials (email.getD "") password)).Gives c h z ∧
      y = z.mapError (derivationFailure customer change) := by
  obtain ⟨url, hu⟩ := hs.url? .login
  unfold deriveToken at hy
  dsimp only at hy
  split at hy
  · rename_i he
    exact .inl ⟨he, Attempt.gives_throw.mp hy⟩
  · rename_i he
    refine .inr ⟨by simpa using he, url, ?_⟩
    obtain ⟨z, h₁, h₂, rfl, hlogin, hend⟩ := (addressOf_gives hu hy).of_lift_bind
    refine ⟨z, hu, ?_⟩
    cases z with
    | ok found =>
      obtain ⟨rfl, rfl⟩ := Attempt.gives_pure.mp hend
      rw [List.append_nil]
      exact ⟨hlogin, rfl⟩
    | error f =>
      obtain ⟨rfl, rfl⟩ := Attempt.gives_throw.mp (say_gives hend)
      rw [List.append_nil]
      exact ⟨hlogin, rfl⟩

theorem afterWrite_handles (hs : c.HasShop) (r : TransportResult) (credentials : Credentials)
    (change : Change) (email : Customer → Option Str) :
    (afterWrite r credentials change email).Handles c := by
  unfold afterWrite
  exact (Attempt.handles_ofExcept _).bind fun customer => (handles_say _ _ _).bind fun _ =>
    deriveToken_handles hs _ _ _ _

theorem changing_handles (hs : c.HasShop) (url : String) (credentials : Credentials)
    (change : Change) : (changing url credentials change).Handles c :=
  (answered_handles rfl).bind fun r => afterWrite_handles hs r credentials change _

/-- A change that has failed is not followed by a login; one that has not is followed by a login for
its account. -/
theorem changing_gives {url : String} {credentials : Credentials} {change : Change}
    {y : Except Failure Login} (hy : (changing url credentials change).Gives c h y) :
    ∃ o r rest, h = (o, r) :: rest ∧ o.method = change.method ∧ o.url = url ∧
      o.content = some (.scalar credentials.document) ∧
      ((∃ f, written r = .error f ∧ rest = [] ∧ y = .error f) ∨
      ∃ customer, written r = .ok customer ∧
        (deriveToken customer (change.email credentials customer)
          ((credentials.get? "password").getD "") change).Gives c rest y) := by
  unfold changing at hy
  obtain ⟨r, rest, rfl, hcase⟩ := answered_gives rfl hy
  refine ⟨_, r, rest, rfl, rfl, rfl, rfl, ?_⟩
  rcases hcase with ⟨f, hf, rfl, rfl⟩ | ⟨hf, hafter⟩
  · exact .inl ⟨f, by rw [written, hf], rfl, rfl⟩
  · have hwritten : written r = customerIn r := by rw [written, hf]
    unfold afterWrite at hafter
    rcases hafter.of_bind with ⟨customer, h₁, h₂, rfl, hread, hsay⟩ | ⟨f, rfl, hread⟩
    · obtain ⟨rfl, hcustomer⟩ := Attempt.gives_ofExcept.mp hread
      exact .inr ⟨customer, hwritten.trans hcustomer.symm, say_gives hsay⟩
    · obtain ⟨rfl, hcustomer⟩ := Attempt.gives_ofExcept.mp hread
      exact .inl ⟨f, hwritten.trans hcustomer.symm, rfl, rfl⟩

/-- A failure that keeps a written account: it says exactly what the failure of the login said, and
only an account for which nobody knows an address to log in with was not followed by a login. -/
structure Keeps (c : Client) (credentials : Credentials) (change : Change) (customer : Customer)
    (rest : Exchanges) (e : Failure) : Prop where
  cls : e.cls = .tokenDerivation
  kind : e.kind = .tokenDerivationFailed
  retryable : e.isRetryable = false
  account : e.customer = some customer
  reason : (∃ url f, c.url? .login = some url ∧
      (login url (loginCredentials ((change.email credentials customer).getD "")
        ((credentials.get? "password").getD ""))).Gives c rest (.error f) ∧
      e.cause = some (.inr f) ∧ e.url = f.url ∧ e.statusCode = f.statusCode ∧
      e.document = f.document) ∨
    e.cause = none ∧ rest = [] ∧ customer.email.getD "" = ("" : Str) ∧ (credentials.get? "email").getD "" = ("" : Str)

theorem Change.email_empty {change : Change} {credentials : Credentials} {customer : Customer}
    (hc : change = .created → (credentials.get? "email").getD "" ≠ ("" : Str))
    (he : ((change.email credentials customer).getD ("" : Str)).isEmpty = true) :
    customer.email.getD "" = ("" : Str) ∧ (credentials.get? "email").getD "" = ("" : Str) := by
  have he' : (change.email credentials customer).getD "" = ("" : Str) := Str.isEmpty_iff.mp he
  have hgiven (h : givenOr Str.isEmpty customer.email (credentials.get? "email") =
      change.email credentials customer) :
      customer.email.getD "" = ("" : Str) ∧ (credentials.get? "email").getD "" = ("" : Str) := by
    rw [← h] at he'
    unfold givenOr at he'
    cases hc : customer.email with
    | none =>
      rw [hc] at he'
      exact ⟨rfl, he'⟩
    | some email =>
      rw [hc, Option.map_some, Option.getD_some] at he'
      split at he'
      · rename_i hempty
        exact ⟨Str.isEmpty_iff.mp hempty, he'⟩
      · rename_i hempty
        exact absurd (Str.isEmpty_iff.mpr he') hempty
  cases change with
  | created => exact absurd he' (hc rfl)
  | activated => exact hgiven rfl
  | reset => exact hgiven rfl

/-- The login after a change ends with a customer and a token, or the account is kept. -/
theorem deriveToken_keeps (hs : c.HasShop) {customer : Customer} {credentials : Credentials}
    {change : Change} {y : Except Failure Login}
    (hc : change = .created → (credentials.get? "email").getD "" ≠ ("" : Str))
    (hy : (deriveToken customer (change.email credentials customer)
      ((credentials.get? "password").getD "") change).Gives c h y) :
    (∃ l, y = .ok l ∧ l.token ≠ "") ∨
      ∃ e, y = .error e ∧ Keeps c credentials change customer h e := by
  rcases deriveToken_gives hs hy with ⟨he, rfl, rfl⟩ | ⟨-, url, z, hu, hlogin, rfl⟩
  · obtain ⟨h₁, h₂⟩ := Change.email_empty hc he
    exact .inr ⟨_, rfl, rfl, rfl, rfl, rfl, .inr ⟨rfl, rfl, h₁, h₂⟩⟩
  · cases z with
    | ok l => exact .inl ⟨l, rfl, login_gives hlogin⟩
    | error f =>
      exact .inr ⟨_, rfl, rfl, rfl, rfl, rfl, .inl ⟨url, f, hu, hlogin, rfl, rfl, rfl, rfl⟩⟩

end Account

open Account

/-- The credentials of an operation that writes an account, and what it does to the account. -/
def Operation.write? : Operation → Option (Credentials × Change)
  | .createCustomer credentials => some (credentials, .created)
  | .activate credentials _ _ => some (credentials, .activated)
  | .resetPassword credentials _ _ => some (credentials, .reset)
  | _ => none

/-- An operation that writes an account changes it and logs its customer in. -/
theorem Operation.flow_write {c : Client} {op : Operation} {credentials : Credentials}
    {change : Change} {F : Flow Delivery} (hop : op.write? = some (credentials, change))
    (hF : op.flow c = .ok F) : c.HasShop ∧
      (change = .created → (credentials.get? "email").getD "" ≠ ("" : Str)) ∧
      ∃ url, F = loginResult <$> (changing url credentials change).run := by
  obtain ⟨url, hu, rfl, hkeys⟩ := flow_ok hF
  have hshop : c.HasShop := Client.hasShop_of_url? hu
  cases op with
  | createCustomer cr =>
    obtain ⟨rfl, rfl⟩ := Prod.mk.inj (Option.some.inj hop)
    exact ⟨hshop, fun _ => requireKeys_ok (hkeys _ rfl) (by simp [requiredKeys]), url, rfl⟩
  | activate cr id token =>
    obtain ⟨rfl, rfl⟩ := Prod.mk.inj (Option.some.inj hop)
    exact ⟨hshop, by simp, url, rfl⟩
  | resetPassword cr id token =>
    obtain ⟨rfl, rfl⟩ := Prod.mk.inj (Option.some.inj hop)
    exact ⟨hshop, by simp, url, rfl⟩
  | _ => cases hop

/-- A result that is made from an attempt which handles everything. -/
theorem Account.Attempt.Handles.map_yields {α β : Type} {c : Client} {m : Attempt α}
    (hm : m.Handles c) (g : Except Failure α → β) {h : Exchanges}
    {x : Except (Fault ⊕ Failure) β} (hx : (g <$> m.run).Yields c h x) :
    ∃ y, x = .ok (g y) ∧ m.Gives c h y := by
  rcases Flow.Yields.of_bind (f := m.run) (g := fun y => .finish (g y)) hx with
    ⟨y, h₁, h₂, rfl, hy, rfl, rfl⟩ | ⟨cause, -, hcause⟩
  · rw [List.append_nil]
    exact ⟨y, rfl, hy⟩
  · exact absurd hcause (hm h cause)

/-- What an operation that writes an account delivers, whatever the shop answers and whatever fails,
while the client stays as it is and the operation is not cancelled: if the shop has answered the
write with the account, it is a customer with a token, or a failure that keeps the account; if not,
it is a failure that is none of a login, and no login was attempted. -/
theorem written_account_is_kept {l : Loop} {f : Focus} {op : Operation} {credentials : Credentials}
    {change : Change} {callback : Option Callback} {st : Start} {s : Scene} {d : Delivery}
    (hr : Reachable ⟨l, f⟩) (hf : f.IsFree) (hop : op.write? = some (credentials, change))
    (hst : l.client.startOperation op callback = .ok st)
    (hs : StillSteps l.client ⟨(l.start st).2, f⟩ s)
    (hd : s.loop.outcome? l.jobs.length = some d) (hn : s.loop.isCancelled l.jobs.length = false) :
    ∃ o r rest, s.loop.exchanges l.jobs.length = (o, r) :: rest ∧
      (s.loop.calls l.jobs.length).map (·.2) = o :: rest.map (·.1) ∧
      o.method = change.method ∧ o.content = some (.scalar credentials.document) ∧
      match r.response.bind (·.account?) with
      | some customer =>
        (∃ found token, d = .login ⟨some found, some token, none⟩ ∧ token ≠ "") ∨
          ∃ e, d = .login ⟨none, none, some e⟩ ∧
            Keeps l.client credentials change customer rest e
      | none => ∃ e, d = .login ⟨none, none, some e⟩ ∧ e.cls ≠ .tokenDerivation ∧ rest = [] := by
  obtain ⟨hshop, hemail, url, hflow⟩ := Operation.flow_write hop (Client.startOperation_ok hst)
  have hstart : Reachable ⟨(l.start st).2, f⟩ := hr.act hf (.start st)
  have hreach : Reachable s := hstart.trans hs.steps
  have hlt : l.jobs.length < (l.start st).2.jobs.length := by simp [Loop.start]
  have hfollows := hs.follows hstart.inOrder rfl hlt (.start hr hf l.client st)
  obtain ⟨hcalls, hend⟩ := hfollows.delivered hreach.inOrder hd hn
  have hhandles := changing_handles hshop url credentials change
  rw [hflow] at hend
  rcases hend with hok | ⟨cause, t, herr, -, -⟩
  · obtain ⟨y, hy, hgives⟩ := hhandles.map_yields _ hok
    obtain rfl := Except.ok.inj hy
    obtain ⟨o, r, rest, hh, hm, -, hbody, hcase⟩ := changing_gives hgives
    have hanswers : Exchange.Answers o r := hreach.exchange_answers (hh ▸ List.mem_cons_self)
    refine ⟨o, r, rest, hh, by rw [hcalls, hh]; rfl, hm, hbody, ?_⟩
    rcases answers_account hanswers with ⟨customer, ha, hw⟩ | ⟨ha, f, hw, hcls⟩
    · rw [ha]
      rcases hcase with ⟨f, hw', -⟩ | ⟨customer', hw', hderive⟩
      · cases hw.symm.trans hw'
      · obtain rfl := Except.ok.inj (hw.symm.trans hw')
        rcases deriveToken_keeps hshop hemail hderive with ⟨found, rfl, ht⟩ | ⟨e, rfl, hk⟩
        · exact .inl ⟨found.customer, found.token, rfl, ht⟩
        · exact .inr ⟨e, rfl, hk⟩
    · rw [ha]
      rcases hcase with ⟨f', hw', hrest, rfl⟩ | ⟨customer', hw', -⟩
      · obtain rfl := Except.error.inj (hw.symm.trans hw')
        exact ⟨f, rfl, hcls, hrest⟩
      · cases hw.symm.trans hw'
  · obtain ⟨y, hy, -⟩ := hhandles.map_yields _ herr
    cases hy

def Reply.ofDocument (status : Int) (document : Json.Value) : Reply where
  answer := .response status [] (Text.Utf8.encode document.chars)

def Credentials.newcomer : Credentials where
  items := [⟨"first_name", "Ada"⟩, ⟨"last_name", "Byron"⟩, ⟨"email", "ada@example.com"⟩,
    ⟨"password", "secret"⟩, ⟨"password_confirmation", "secret"⟩]

/-- A loop whose shop creates one account and then cannot be reached. -/
def Loop.newShop : Loop :=
  .ofClient { shopDomain := some "shop.example", userAgent := .text "tests" } true
    [.ofDocument 201 (.obj [("customer", .obj [("id", .int 7)])])]

def Start.newAccount : Start where
  flow := Operation.loginResult <$> (create "https://shop.example/api/customers" .newcomer).run
  ticket := ⟨"create customer", .login, none⟩

/-- The end of the creation there, where the login after it has failed. -/
def Scene.newAccount : Scene := ⟨(Loop.newShop.start .newAccount).2.settle, .idle⟩

theorem written_account_is_kept_without_login : ∃ customer e rest, customer.id = 7 ∧
    Scene.newAccount.loop.outcome? Loop.newShop.jobs.length = some (.login ⟨none, none, some e⟩) ∧
      Keeps Loop.newShop.client .newcomer .created customer rest e := by
  have hstart : Loop.newShop.client.startOperation (.createCustomer .newcomer) none =
      .ok .newAccount := by rfl
  have hsteps : StillSteps Loop.newShop.client ⟨(Loop.newShop.start .newAccount).2, .idle⟩
      .newAccount := Loop.settle_steps (Loop.newShop.start .newAccount).2
  have hdone : (Scene.newAccount.loop.outcome? Loop.newShop.jobs.length).isSome = true := by
    decide +kernel
  have hfailed : ((Scene.newAccount.loop.outcome? Loop.newShop.jobs.length).bind
      (·.failure?)).isSome = true := by decide +kernel
  have hid : ((Scene.newAccount.loop.exchanges Loop.newShop.jobs.length).head?.bind fun p =>
      p.2.response.bind (·.account?)).map (·.id) = some 7 := by decide +kernel
  obtain ⟨d, hd⟩ := Option.isSome_iff_exists.mp hdone
  obtain ⟨o, r, rest, hh, -, -, -, hcase⟩ := written_account_is_kept (l := .newShop) (f := .idle)
    (Reachable.initial _ _ _) trivial rfl hstart hsteps hd (by decide +kernel)
  rw [hh] at hid
  obtain ⟨customer, ha, hid⟩ := Option.map_eq_some_iff.mp hid
  have ha : r.response.bind (·.account?) = some customer := ha
  rw [ha] at hcase
  rcases hcase with ⟨found, token, rfl, -⟩ | ⟨e, rfl, hkeeps⟩
  · rw [hd] at hfailed
    cases hfailed
  · exact ⟨customer, e, rest, hid, hd, hkeeps⟩

end Storefront
