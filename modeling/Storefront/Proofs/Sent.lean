import Storefront.Proofs.Conduct
import Storefront.Proofs.Items
import Storefront.Proofs.Redirects

/-! What is checked of credentials and what is sent of them. Checks look items up, and requests hold the
document, so they tell the same of a key whose first value is its last one. -/
namespace Storefront

open Account

namespace Account

theorem loginCredentials_email (email password : Str) :
    (loginCredentials email password).sent? "email" = some (.str email) := by
  unfold Credentials.sent?
  rw [loginCredentials_document]
  rfl

theorem loginCredentials_password (email password : Str) :
    (loginCredentials email password).sent? "password" = some (.str password) := by
  unfold Credentials.sent?
  rw [loginCredentials_document]
  rfl

end Account

namespace Operation

variable {op : Operation} {credentials : Credentials}

/-- The values that are sent under the required keys are not empty, where a key agrees. -/
theorem sent?_of_requireKeys (h : requireKeys credentials op.requiredKeys = .ok ()) {key : String}
    (hk : key ∈ op.requiredKeys) (ha : credentials.Agrees key) :
    ∃ v : Str, v ≠ "" ∧ credentials.sent? key = some (.str v) := by
  have hne := requireKeys_ok h hk
  rw [Credentials.Agrees] at ha
  cases hg : credentials.get? key with
  | none => simp [hg] at hne
  | some v => exact ⟨v, by simpa [hg] using hne, by rw [ha, hg]; rfl⟩

theorem content_of_credentials (h : op.credentials? = some credentials) :
    op.content = some (.scalar credentials.document) := by
  cases op with
  | createCustomer c => rw [Option.some.inj h.symm]; rfl
  | login c => rw [Option.some.inj h.symm]; rfl
  | activate c id token => rw [Option.some.inj h.symm]; rfl
  | resetPassword c id token => rw [Option.some.inj h.symm]; rfl
  | _ => cases h

/-- An operation that writes an account checks the password with which it logs in afterwards. -/
theorem write_credentials {written : Credentials} {change : Change}
    (h : op.credentials? = some credentials) (hw : op.write? = some (written, change)) :
    written = credentials ∧ "password" ∈ op.requiredKeys := by
  cases op with
  | createCustomer c =>
    obtain ⟨rfl, -⟩ := Prod.mk.inj (Option.some.inj hw)
    exact ⟨Option.some.inj h, by simp [requiredKeys]⟩
  | activate c id token =>
    obtain ⟨rfl, -⟩ := Prod.mk.inj (Option.some.inj hw)
    exact ⟨Option.some.inj h, by simp [requiredKeys]⟩
  | resetPassword c id token =>
    obtain ⟨rfl, -⟩ := Prod.mk.inj (Option.some.inj hw)
    exact ⟨Option.some.inj h, by simp [requiredKeys]⟩
  | _ => cases hw

end Operation

/-- The password of a login after a write is the one that was looked up, which is the one that was
written where the key agrees. -/
theorem Credentials.login_password {credentials : Credentials}
    (h : (credentials.get? "password").getD "" ≠ ("" : Str)) (email : Str) :
    (loginCredentials email ((credentials.get? "password").getD "")).sent? "password" =
      credentials.sent? "password" ↔ credentials.Agrees "password" := by
  rw [loginCredentials_password, Agrees]
  cases hg : credentials.get? "password" with
  | none => simp [hg] at h
  | some v => exact eq_comm

/-- What a request of an operation says of its credentials: it is the operation's own and has all of
them, it is the login after a write and has an address and the password that was looked up, or it has
none. -/
inductive Outgoing.Says (o : Outgoing) (op : Operation) (credentials : Credentials) : Prop where
  | all (hm : o.method = op.method) (hc : o.content = some (.scalar credentials.document))
  | login (found : Credentials) (email : Str) (hm : o.method = .post)
      (hc : o.content = some (.scalar found.document)) (he : email ≠ "")
      (hemail : found.sent? "email" = some (.str email))
      (hpassword : found.sent? "password" = credentials.sent? "password" ↔
        credentials.Agrees "password")
  | none (hm : o.method = .get) (hc : o.content = none)

/-- What is checked is what is sent, as far as keys do not repeat with other values. A key is in a bag
exactly when the document has it, and a look-up then finds the value of the document exactly when the
first value of the key is the last one; this is so wherever items were added. In every run of an
operation with credentials, the request of the operation has all of them, with a value that is not
empty under each required key that agrees, and the login after a write sends the password of the write
exactly when that key agrees. -/
theorem credentials_sent_as_checked (credentials : Credentials) :
    (∀ key, (credentials.contains key = true ↔ (credentials.sent? key).isSome = true) ∧
      (credentials.Agrees key ↔ (Pairs.valuesOf credentials.pairs key).head? =
        (Pairs.valuesOf credentials.pairs key).getLast?)) ∧
    (∀ items key, (credentials.adding items).Agrees key) ∧
    ∀ {s₀ s : Scene} {c : Client} {op : Operation} {callback : Option Callback} {st : Start} {i : Nat},
      Reachable s₀ → s₀.Opens i st → c.startOperation op callback = .ok st →
      op.credentials? = some credentials → Steps s₀ s →
      (∀ key ∈ op.requiredKeys, credentials.Agrees key →
        ∃ v : Str, v ≠ "" ∧ credentials.sent? key = some (.str v)) ∧
      ∀ k o, (k, o) ∈ s.loop.calls i → o.Says op credentials ∧
        ∀ r ∈ s.loop.requests k, Exchange.writeContent o = .ok r.body ∨ r.body = none := by
  refine ⟨fun key => ⟨credentials.contains_iff_sent? key, credentials.agrees_iff key⟩,
    credentials.adding_agrees, ?_⟩
  intro s₀ s c op callback st i hr ho hst hop hs
  obtain ⟨_, -, -, hkeys⟩ := Operation.flow_ok (Client.startOperation_ok hst)
  have hchecked := hkeys credentials hop
  refine ⟨fun key hk ha => Operation.sent?_of_requireKeys hchecked hk ha, fun k o hcall => ?_⟩
  have hdeed := Loop.mem_calls.mp hcall
  obtain ⟨url, -, hobeys⟩ := Client.startOperation_obeys hst
  have hasks : op.Asks url o := (Steps.keeps hs (ho.keeps hobeys)).deeds _ hdeed
  refine ⟨?_, ((hr.trans hs).trail hdeed).body⟩
  cases hasks with
  | own hm _ hc => exact .all hm (hc.trans (Operation.content_of_credentials hop))
  | login found change email hw he hm hc =>
    obtain ⟨rfl, hpassword⟩ := Operation.write_credentials hop hw
    exact .login _ email hm hc he (loginCredentials_email _ _)
      (Credentials.login_password (Operation.requireKeys_ok hchecked hpassword) email)
  | owner _ hm hc => exact .none hm hc

/-- Of the requests that create the account of a newcomer, each says all credentials, or logs in with
their password, or says nothing. -/
theorem credentials_sent_as_checked_of_newcomer :
    (∃ v : Str, v ≠ "" ∧ Credentials.newcomer.sent? "password" = some (.str v)) ∧
    ∀ k o, (k, o) ∈ Scene.newAccount.loop.calls 0 →
      o.content = some (.scalar Credentials.newcomer.document) ∨
      (∃ found : Credentials, o.content = some (.scalar found.document) ∧
        found.sent? "password" = Credentials.newcomer.sent? "password") ∨ o.content = none := by
  have hop : Loop.newShop.client.startOperation (.createCustomer .newcomer) none =
      .ok .newAccount := by rfl
  have hshop : Reachable ⟨.newShop, .idle⟩ := .initial _ _ _
  have hr : Reachable ⟨(Loop.newShop.start .newAccount).2, .idle⟩ :=
    hshop.act trivial (.start .newAccount)
  have hsteps : Steps ⟨(Loop.newShop.start .newAccount).2, .idle⟩ .newAccount :=
    (Loop.newShop.start .newAccount).2.settle_steps.steps
  have hagrees (key : String) : Credentials.newcomer.Agrees key :=
    Credentials.agrees_of_nodup (by decide) key
  obtain ⟨-, -, hrun⟩ := credentials_sent_as_checked .newcomer
  obtain ⟨hvalues, htells⟩ := hrun hr (Scene.Opens.start hshop trivial .newAccount) hop rfl hsteps
  refine ⟨hvalues "password" (by decide) (hagrees _), fun k o hcall => ?_⟩
  cases (htells k o hcall).1 with
  | all hm hc => exact .inl hc
  | login found email hm hc he hemail hpassword =>
    exact .inr (.inl ⟨found, hc, hpassword.mpr (hagrees _)⟩)
  | none hm hc => exact .inr (.inr hc)

def Credentials.twice : Credentials where
  items := [⟨"password", "first"⟩, ⟨"password_confirmation", "first"⟩, ⟨"password", "second"⟩]

/-- Credentials with a password that is taken back. -/
def Credentials.emptied : Credentials where
  items := [⟨"email", "ada@example.com"⟩, ⟨"password", "first"⟩, ⟨"password", ""⟩]

/-- A loop whose shop activates one account and then cannot be reached. -/
def Loop.activationShop : Loop :=
  .ofClient { shopDomain := some "shop.example", userAgent := .text "tests" } true
    [.ofDocument 200 (.obj [("customer", .obj [("id", .int 7), ("email", .str "ada@example.com")])])]

def Start.activation : Start where
  flow := Operation.loginResult <$>
    (write "https://shop.example/api/customers/7/activate?token=t" .twice .activated).run
  ticket := ⟨"activate customer", .login, none⟩

/-- The end of the activation there with a password that is given twice. -/
def Scene.activation : Scene := ⟨(Loop.activationShop.start .activation).2.settle, .idle⟩

/-- A password that is given twice is looked up as the first and written as the second, so the account
is activated with the one and logged in with the other; and a password that is empty in the end passes
the check. -/
theorem looked_up_password_is_not_written :
    Loop.activationShop.client.startOperation (.activate .twice (.text "7") (.text "t")) none =
      .ok .activation ∧
    Steps ⟨(Loop.activationShop.start .activation).2, .idle⟩ .activation ∧
    Credentials.twice.get? "password" = some "first" ∧
    Credentials.twice.sent? "password" = some (.str "second") ∧
    (Scene.activation.loop.requests 1).map Request.body =
      [some Credentials.twice.document.write] ∧
    (Scene.activation.loop.requests 2).map Request.body =
      [some (loginCredentials "ada@example.com" "first").document.write] ∧
    Operation.requireKeys .emptied (Operation.requiredKeys (.login .emptied)) = .ok () ∧
    Credentials.emptied.sent? "password" = some (.str "") := by
  refine ⟨by rfl, (Loop.activationShop.start .activation).2.settle_steps.steps, by rfl, by rfl,
    ?_, ?_, by rfl, by rfl⟩
  · decide +kernel
  · decide +kernel

end Storefront
