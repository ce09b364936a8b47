import Storefront.Proofs.Checks

/-! What is checked of the arguments of an operation, and what it does once they are accepted. -/
namespace Storefront

namespace Account

def Change.method : Change → Method
  | .created => .post
  | _ => .put

/-- The address to log in with after a change. -/
def Change.email (change : Change) (credentials : Credentials) (customer : Customer) :
    Option Str :=
  match change with
  | .created => credentials.get? "email"
  | _ => givenOr Str.isEmpty customer.email (credentials.get? "email")

def changing (url : String) (credentials : Credentials) (change : Change) : Attempt Login := do
  let r ← answered { method := change.method, url, body := .credentials credentials }
  afterWrite r credentials change (change.email credentials)

end Account

namespace Argument

/-- An argument is absent, or its text has blank characters only. -/
def isBlank (a : Argument Str) : Bool := a = .nothing || a.toStr.isBlank

/-- Why an argument with a name is refused, if it is. -/
def refusal? (name : String) (a : Argument Str) : Option CallError :=
  if a.isOverlong then some .oversizedValue else if a.isBlank then some (.blankValue name) else none

/-- The part of an address that an argument becomes. -/
def part (a : Argument Str) : String := (a.toStr.strip.text?).getD ""

/-- The first of the arguments that cannot be a part of an address, without the blanks around it. -/
def torn? (as : List (Argument Str)) : Option Str :=
  (as.map fun a => a.toStr.strip).find? (!·.isWhole)

end Argument

/-- Without a shop, no address is refused for its parts. -/
def CallError.at (c : Client) : CallError → CallError
  | .unencodable s => if c.lacksShop then .noShop else .unencodable s
  | e => e

theorem Argument.at_refusal? {a : Argument Str} {name : String} {e : CallError}
    (h : a.refusal? name = some e) (c : Client) : e.at c = e := by
  unfold Argument.refusal? at h
  split at h
  · obtain rfl := Option.some.inj h
    rfl
  · split at h
    · obtain rfl := Option.some.inj h
      rfl
    · cases h

open Account

namespace Operation

/-- The method of the request with which an operation begins. -/
def method : Operation → Method
  | .getCustomer _ => .get
  | .createCustomer _ => .post
  | .login _ => .post
  | .recoverPassword _ => .post
  | .renewToken _ => .put
  | .activate .. => .put
  | .resetPassword .. => .put
  | .getOrders _ => .get

/-- Where that request goes. -/
def endpoint : Operation → Endpoint
  | .getCustomer id => .customer (.text id.part)
  | .createCustomer _ => .customers
  | .login _ => .login
  | .recoverPassword _ => .recovery
  | .renewToken id => .renewal (.text id.part)
  | .activate _ id token => .activation (.text id.part) (.text token.part)
  | .resetPassword _ id token => .reset (.text id.part) (.text token.part)
  | .getOrders id => .orders (.text id.part)

def credentials? : Operation → Option Credentials
  | .createCustomer credentials => some credentials
  | .login credentials => some credentials
  | .activate credentials _ _ => some credentials
  | .resetPassword credentials _ _ => some credentials
  | _ => none

/-- What that request says. -/
def content : Operation → Option Content
  | .recoverPassword email => some (.scalar (.obj [("email", .str email.toStr.strip)]))
  | op => op.credentials?.map fun credentials => .scalar credentials.document

/-- What an operation does once its arguments are accepted. -/
def body (url : String) : Operation → Flow Delivery
  | .getCustomer _ => customerResult <$> (fetch url none).run
  | .createCustomer credentials => loginResult <$> (changing url credentials .created).run
  | .login credentials => loginResult <$> (Account.login url credentials).run
  | .recoverPassword email => .recovery <$> recover url email.toStr.strip
  | .renewToken _ => tokenResult <$> (renew url).run
  | .activate credentials _ _ => loginResult <$> (changing url credentials .activated).run
  | .resetPassword credentials _ _ => loginResult <$> (changing url credentials .reset).run
  | .getOrders _ => ordersResult <$> (fetchOrders url).run

/-- The required keys for which the credentials have no value, or an empty one. -/
def missing (op : Operation) : List String :=
  match op.credentials? with
  | some credentials => credentials.missing op.requiredKeys
  | none => []

/-- The arguments beside the credentials, with the names under which they are asked for. -/
def arguments : Operation → List (String × Argument Str)
  | .getCustomer id => [("customer_id", id)]
  | .recoverPassword email => [("email", email)]
  | .renewToken id => [("customer_id", id)]
  | .activate _ id token => [("customer_id", id), ("customer_token", token)]
  | .resetPassword _ id token => [("customer_id", id), ("customer_token", token)]
  | .getOrders id => [("customer_id", id)]
  | _ => []

/-- The arguments that become parts of the address. -/
def parts : Operation → List (Argument Str)
  | .getCustomer id => [id]
  | .renewToken id => [id]
  | .activate _ id token => [id, token]
  | .resetPassword _ id token => [id, token]
  | .getOrders id => [id]
  | _ => []

/-- Why an operation is refused at a shop, if it is. The credentials come first, and then every argument
before any part of the address. -/
def refusal? (op : Operation) : Option CallError :=
  if op.missing = [] then
    (op.arguments.findSome? fun p => p.2.refusal? p.1).or
      ((Argument.torn? op.parts).map .unencodable)
  else some (.missingCredentials op.missing)

theorem requireValue_bind {β : Type} (name : String) (value : Argument Str)
    (f : Str → Except CallError β) : (requireValue name value >>= f) =
      match value.refusal? name with
      | some e => .error e
      | none => f value.toStr.strip := by
  unfold requireValue Argument.refusal? Argument.isBlank
  by_cases ho : value.isOverlong = true
  · rw [if_pos ho, if_pos ho]
    rfl
  · rw [if_neg ho, if_neg ho]
    by_cases h : value = .nothing ∨ value.toStr.isBlank = true
    · rw [if_pos h, if_pos (by simpa using h)]
      rfl
    · rw [if_neg h, if_neg (by simpa using h)]
      rfl

theorem requirePart_bind {β : Type} (c : Client) (a : Argument Str) (f : String → Except CallError β) :
    (requirePart c a.toStr.strip >>= f) =
      if c.lacksShop then .error .noShop
      else if a.toStr.strip.isWhole then f a.part else .error (.unencodable a.toStr.strip) := by
  unfold requirePart Argument.part
  split
  · rfl
  · cases ht : a.toStr.strip.text? with
    | none =>
      rw [Str.text?_eq_none_iff.mp ht]
      rfl
    | some t =>
      rw [Str.isWhole_eq, ht]
      rfl

theorem requireKeys_bind {β : Type} (credentials : Credentials) (keys : List String)
    (f : Unit → Except CallError β) : (requireKeys credentials keys >>= f) =
      if credentials.missing keys = [] then f ()
      else .error (.missingCredentials (credentials.missing keys)) := by
  unfold requireKeys
  dsimp only
  cases credentials.missing keys with
  | nil => rfl
  | cons key rest => rfl

theorem requireAddress_bind {β : Type} (c : Client) (e : Endpoint) (f : String → β) :
    (do let url ← requireAddress c e; return f url) = (requireAddress c e).map f := by
  cases requireAddress c e with
  | error e => rfl
  | ok url => rfl

theorem requireAddress_of_lacksShop {c : Client} (h : c.lacksShop = true) (e : Endpoint) :
    requireAddress c e = .error .noShop := by
  unfold Client.lacksShop at h
  unfold requireAddress Endpoint.url? Endpoint.address?
  cases hd : c.shopDomain with
  | none => rfl
  | some domain =>
    rw [hd, Option.getD_some] at h
    simp [h]

theorem parts_bind {c : Client} {a : Argument Str} {as : List (Argument Str)}
    {f : String → Except CallError (Flow Delivery)} {e : Endpoint} {g : String → Flow Delivery}
    (hf : f a.part = match Argument.torn? as with
      | some s => .error ((CallError.unencodable s).at c)
      | none => (requireAddress c e).map g) :
    (requirePart c a.toStr.strip >>= f) = match Argument.torn? (a :: as) with
      | some s => .error ((CallError.unencodable s).at c)
      | none => (requireAddress c e).map g := by
  rw [requirePart_bind, Argument.torn?, List.map_cons, List.find?_cons]
  by_cases hs : c.lacksShop = true
  · rw [if_pos hs]
    cases hw : a.toStr.strip.isWhole with
    | false => simp [CallError.at, hs]
    | true =>
      simp only [Bool.not_true]
      cases ht : (as.map fun a => a.toStr.strip).find? (!·.isWhole) with
      | some s => simp [CallError.at, hs]
      | none => rw [requireAddress_of_lacksShop hs]; rfl
  · rw [if_neg hs]
    cases hw : a.toStr.strip.isWhole with
    | false => simp [CallError.at, hs]
    | true => exact hf

/-- What is done with one argument that goes into an address. -/
theorem value_flow {c : Client} {name : String} {a : Argument Str} {e : String → Endpoint}
    {f : String → Flow Delivery} :
    (do
      let s ← requireValue name a
      let s ← requirePart c s
      let url ← requireAddress c (e s)
      return f url) =
      match (a.refusal? name).or ((Argument.torn? [a]).map .unencodable) with
      | some err => .error (err.at c)
      | none => (requireAddress c (e a.part)).map f := by
  rw [requireValue_bind]
  cases ha : a.refusal? name with
  | some err => exact (congrArg Except.error (Argument.at_refusal? ha c)).symm
  | none =>
    rw [Option.none_or]
    refine (@parts_bind c a [] _ _ _ (requireAddress_bind c (e a.part) f)).trans ?_
    cases Argument.torn? [a] with
    | some s => rfl
    | none => rfl

/-- What is done with both arguments of a link. -/
theorem link_flow {c : Client} {id token : Argument Str} {e : String → String → Endpoint}
    {f : String → Flow Delivery} :
    (do
      let i ← requireValue "customer_id" id
      let t ← requireValue "customer_token" token
      let i ← requirePart c i
      let t ← requirePart c t
      let url ← requireAddress c (e i t)
      return f url) =
      match ((id.refusal? "customer_id").or (token.refusal? "customer_token")).or
        ((Argument.torn? [id, token]).map .unencodable) with
      | some err => .error (err.at c)
      | none => (requireAddress c (e id.part token.part)).map f := by
  rw [requireValue_bind]
  cases hid : id.refusal? "customer_id" with
  | some err => exact (congrArg Except.error (Argument.at_refusal? hid c)).symm
  | none =>
    dsimp only
    rw [Option.none_or, requireValue_bind]
    cases htoken : token.refusal? "customer_token" with
    | some err => exact (congrArg Except.error (Argument.at_refusal? htoken c)).symm
    | none =>
      rw [Option.none_or]
      let addressed := fun t => (requireAddress c (e id.part t) >>= fun url => pure (f url))
      have hlast := @parts_bind c token [] addressed _ _
        (requireAddress_bind c (e id.part token.part) f)
      refine (@parts_bind c id [token] _ _ _ hlast).trans ?_
      cases Argument.torn? [id, token] with
      | some s => rfl
      | none => rfl

theorem refusal?_of_keys {op : Operation} {credentials : Credentials}
    (hc : op.credentials? = some credentials) (ha : op.arguments = []) (hp : op.parts = []) :
    op.refusal? = if credentials.missing op.requiredKeys = [] then none
      else some (.missingCredentials (credentials.missing op.requiredKeys)) := by
  rw [refusal?, missing, hc, ha, hp]
  rfl

theorem refusal?_of_value {op : Operation} {name : String} {a : Argument Str}
    (hc : op.credentials? = none) (ha : op.arguments = [(name, a)]) :
    op.refusal? = (a.refusal? name).or ((Argument.torn? op.parts).map .unencodable) := by
  rw [refusal?, missing, hc, if_pos rfl, ha, List.findSome?_cons]
  cases a.refusal? name <;> rfl

theorem refusal?_of_link {op : Operation} {credentials : Credentials} {id token : Argument Str}
    (hc : op.credentials? = some credentials)
    (ha : op.arguments = [("customer_id", id), ("customer_token", token)]) :
    op.refusal? = if credentials.missing op.requiredKeys = [] then
        ((id.refusal? "customer_id").or (token.refusal? "customer_token")).or
          ((Argument.torn? op.parts).map .unencodable)
      else some (.missingCredentials (credentials.missing op.requiredKeys)) := by
  rw [refusal?, missing, hc, ha, List.findSome?_cons, List.findSome?_cons]
  cases id.refusal? "customer_id" <;> cases token.refusal? "customer_token" <;> rfl

/-- An operation whose arguments are in order looks at its address next. -/
theorem flow_eq (c : Client) (op : Operation) : op.flow c =
    match op.refusal? with
    | some e => .error (e.at c)
    | none => (requireAddress c op.endpoint).map fun url => op.body url := by
  cases op with
  | getCustomer id =>
    rw [refusal?_of_value rfl rfl]
    exact value_flow
  | createCustomer credentials =>
    rw [flow, requireKeys_bind, requireAddress_bind, refusal?_of_keys rfl rfl rfl]
    split <;> rfl
  | login credentials =>
    rw [flow, requireKeys_bind, requireAddress_bind, refusal?_of_keys rfl rfl rfl]
    split <;> rfl
  | recoverPassword email =>
    rw [flow, requireValue_bind, requireAddress_bind, refusal?_of_value rfl rfl]
    cases hr : email.refusal? "email" with
    | some e => exact (congrArg Except.error (Argument.at_refusal? hr c)).symm
    | none => rfl
  | renewToken id =>
    rw [refusal?_of_value rfl rfl]
    exact value_flow
  | activate credentials id token =>
    rw [flow, requireKeys_bind, link_flow, refusal?_of_link rfl rfl]
    split <;> rfl
  | resetPassword credentials id token =>
    rw [flow, requireKeys_bind, link_flow, refusal?_of_link rfl rfl]
    split <;> rfl
  | getOrders id =>
    rw [refusal?_of_value rfl rfl]
    exact value_flow

theorem missing_of_refusal? {op : Operation} (h : op.refusal? = none) : op.missing = [] := by
  unfold refusal? at h
  split at h
  · assumption
  · cases h

theorem refusal?_of_ok {c : Client} {op : Operation} {F : Flow Delivery} (h : op.flow c = .ok F) :
    op.refusal? = none := by
  rw [flow_eq] at h
  cases hr : op.refusal? with
  | none => rfl
  | some e =>
    rw [hr] at h
    cases h

/-- An accepted operation has an address, and its credentials have what is required. -/
theorem flow_ok {c : Client} {op : Operation} {F : Flow Delivery} (h : op.flow c = .ok F) :
    ∃ url, c.url? op.endpoint = some url ∧ F = op.body url ∧
      ∀ credentials, op.credentials? = some credentials →
        requireKeys credentials op.requiredKeys = .ok () := by
  have hr := refusal?_of_ok h
  rw [flow_eq, hr] at h
  cases ha : requireAddress c op.endpoint with
  | error e =>
    rw [ha] at h
    cases h
  | ok url =>
    rw [ha] at h
    refine ⟨url, requireAddress_ok ha, (Except.ok.inj h).symm, ?_⟩
    intro credentials hc
    have hm : credentials.missing op.requiredKeys = [] := by
      have hnone := missing_of_refusal? hr
      rwa [missing, hc] at hnone
    rw [requireKeys, hm]
    rfl

end Operation

end Storefront
