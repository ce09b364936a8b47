import Storefront.Account

/-! The operations of the customer interface. Bad arguments are refused before anything starts. -/
namespace Storefront

open Account

inductive Operation where
  | getCustomer (id : Argument Str)
  | createCustomer (credentials : Credentials)
  | login (credentials : Credentials)
  | recoverPassword (email : Argument Str)
  | renewToken (id : Argument Str)
  | activate (credentials : Credentials) (id token : Argument Str)
  | resetPassword (credentials : Credentials) (id token : Argument Str)
  | getOrders (id : Argument Str)

/-- Why a call starts nothing. -/
inductive CallError where
  | missingCredentials (keys : List String)
  | blankValue (name : String)
  | oversizedValue
  | unencodable (s : Str)
  | noShop
  | body (e : BodyError)
  | noLoop
deriving DecidableEq

def CallError.message : CallError → String
  | .missingCredentials keys => "Missing required credential items: " ++ ", ".intercalate keys
  | .blankValue name => name ++ " is required"
  | .oversizedValue => Json.overlongText
  | .unencodable s => Text.unencodableText s
  | .noShop => noShopText
  | .body e => e.message
  | .noLoop => "no running event loop"

/-- The kind of the error that a refused call raises. -/
def CallError.kind : CallError → FaultKind
  | .missingCredentials _ => .missingCredentials
  | .blankValue _ => .badValue
  | .oversizedValue => .badValue
  | .unencodable _ => .unencodable
  | .noShop => .badValue
  | .body e => e.kind
  | .noLoop => .runtime

/-- The keys of a list in which some are no text: those have no value, and the list of what is
missing cannot be put into words. -/
inductive KeyListError where
  | missing (keys : List Str)
  | notText (position : Nat) (kind : String)

def KeyListError.message : KeyListError → Str
  | .missing keys => ("Missing required credential items: " : Str) ++ .join ", " keys
  | .notText position kind =>
    (s!"sequence item {position}: expected str instance, {kind} found" : String)

namespace Operation

def description : Operation → String
  | .getCustomer _ => "get customer"
  | .createCustomer _ => "create customer"
  | .login _ => "login customer"
  | .recoverPassword _ => "recover password"
  | .renewToken _ => "renew customer token"
  | .activate .. => "activate customer"
  | .resetPassword .. => "reset password"
  | .getOrders _ => "get orders"

def kind : Operation → ResultKind
  | .getCustomer _ => .customer
  | .createCustomer _ => .login
  | .login _ => .login
  | .recoverPassword _ => .recovery
  | .renewToken _ => .token
  | .activate .. => .login
  | .resetPassword .. => .login
  | .getOrders _ => .orders

/-- The keys that the credentials of an operation must have, with values that are not empty. -/
def requiredKeys : Operation → List String
  | .createCustomer _ => ["first_name", "last_name", "email", "password", "password_confirmation"]
  | .login _ => ["email", "password"]
  | .activate .. => ["password", "password_confirmation"]
  | .resetPassword .. => ["password", "password_confirmation"]
  | _ => []

def requireKeys (credentials : Credentials) (keys : List String) : Except CallError Unit :=
  let missing := credentials.missing keys
  if missing.isEmpty then .ok () else .error (.missingCredentials missing)

def requireAll (credentials : Credentials) (keys : List Json.Value) : Except KeyListError Unit :=
  let missing := keys.filter fun
    | .str k => ((k.text?.bind credentials.get?).getD "").isEmpty
    | _ => true
  let texts := missing.filterMap fun
    | .str k => some k
    | _ => none
  if missing.isEmpty then .ok ()
  else match missing.drop (missing.takeWhile fun | .str _ => true | _ => false).length with
    | [] => .error (.missing texts)
    | v :: rest => .error (.notText (missing.length - rest.length - 1) v.kindName)

/-- The stripped text of an argument that is neither absent nor blank. An integer with too many digits has
no text. -/
def requireValue (name : String) (value : Argument Str) : Except CallError Str :=
  if value.isOverlong then .error .oversizedValue
  else if value = .nothing ∨ value.toStr.isBlank then .error (.blankValue name)
  else .ok value.toStr.strip

/-- The text of a part of an address, which has to be one that can be encoded. Whether there is a shop is
found out before. -/
def requirePart (c : Client) (part : Str) : Except CallError String :=
  if c.lacksShop then .error .noShop
  else match part.text? with
    | some s => .ok s
    | none => .error (.unencodable part)

def requireAddress (c : Client) (e : Endpoint) : Except CallError String :=
  match e.url? c.scheme.toText c.shopDomain [] with
  | some url => .ok url
  | none => .error .noShop

def customerResult : Except Failure Customer → Delivery
  | .ok customer => .customer ⟨some customer, none⟩
  | .error f => .customer ⟨none, some f⟩

def loginResult : Except Failure Login → Delivery
  | .ok l => .login ⟨some l.customer, some l.token, none⟩
  | .error f => .login ⟨none, none, some f⟩

def tokenResult : Except Failure String → Delivery
  | .ok token => .token ⟨some token, none⟩
  | .error f => .token ⟨none, some f⟩

def ordersResult : Except Failure (List Order) → Delivery
  | .ok orders => .orders ⟨some orders, none⟩
  | .error f => .orders ⟨none, some f⟩

/-- Checks the arguments of an operation in order, and gives its flow. -/
def flow (c : Client) (op : Operation) : Except CallError (Flow Delivery) :=
  match op with
  | .getCustomer id => do
    let id ← requireValue "customer_id" id
    let id ← requirePart c id
    let url ← requireAddress c (.customer (.text id))
    return customerResult <$> (fetch url none).run
  | .createCustomer credentials => do
    requireKeys credentials op.requiredKeys
    let url ← requireAddress c .customers
    return loginResult <$> (create url credentials).run
  | .login credentials => do
    requireKeys credentials op.requiredKeys
    let url ← requireAddress c .login
    return loginResult <$> (Account.login url credentials).run
  | .recoverPassword email => do
    let email ← requireValue "email" email
    let url ← requireAddress c .recovery
    return .recovery <$> recover url email
  | .renewToken id => do
    let id ← requireValue "customer_id" id
    let id ← requirePart c id
    let url ← requireAddress c (.renewal (.text id))
    return tokenResult <$> (renew url).run
  | .activate credentials id token => do
    requireKeys credentials op.requiredKeys
    let id ← requireValue "customer_id" id
    let token ← requireValue "customer_token" token
    let id ← requirePart c id
    let token ← requirePart c token
    let url ← requireAddress c (.activation (.text id) (.text token))
    return loginResult <$> (write url credentials .activated).run
  | .resetPassword credentials id token => do
    requireKeys credentials op.requiredKeys
    let id ← requireValue "customer_id" id
    let token ← requireValue "customer_token" token
    let id ← requirePart c id
    let token ← requirePart c token
    let url ← requireAddress c (.reset (.text id) (.text token))
    return loginResult <$> (write url credentials .reset).run
  | .getOrders id => do
    let id ← requireValue "customer_id" id
    let id ← requirePart c id
    let url ← requireAddress c (.orders (.text id))
    return ordersResult <$> (fetchOrders url).run

end Operation

end Storefront
