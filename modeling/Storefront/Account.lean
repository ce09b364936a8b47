import Storefront.AccessToken
import Storefront.Flow

/-! What the responses of the customer interface hold, and the requests of an operation. -/
namespace Storefront.Account

open Json

/-- The failure of a successful response that does not hold what it should. -/
def malformed (r : TransportResult) (reason : String) : Failure where
  cls := .malformedResponse
  message := reason
  url := r.response.map (·.address.text)
  statusCode := r.response.map (·.status)
  document := r.document

def objectMember? (r : TransportResult) (name : String) : Option Value :=
  match r.document.bind (·.member? name) with
  | some (.obj ms) => some (.obj ms)
  | _ => none

def customerIn (r : TransportResult) : Except Failure Customer :=
  match objectMember? r "customer" with
  | none => .error (malformed r "Response has no customer object")
  | some v => (Customer.read v).mapError fun e =>
      malformed r ("Invalid customer object: " ++ e.message)

def tokenIn (r : TransportResult) : Except Failure AccessToken :=
  match objectMember? r "customer_access_token" with
  | none => .error (malformed r "Response has no customer_access_token object")
  | some v => (AccessToken.read v).mapError fun e =>
      malformed r ("Invalid customer_access_token object: " ++ e.message)

def ordersIn (r : TransportResult) : Except Failure (List Order) :=
  match r.document.bind (·.member? "orders") with
  | some (.arr items) => (Order.readAll items).mapError fun e =>
      malformed r ("Invalid order object: " ++ e.message)
  | _ => .error (malformed r "Response has no orders list")

def noShopText : String := "shop_domain is required to build an API URL"

/-- The address of a resource for the client as it is now. -/
def addressOf (e : Endpoint) : Flow String := do
  let c ← Flow.getClient
  match e.url? c.scheme.toText c.shopDomain [] with
  | some url => return url
  | none => Flow.failWith ⟨.badValue, noShopText⟩

/-- Makes a call with the client as it is now and waits for its result. -/
def request (call : Call) : Flow TransportResult := do
  match (← Flow.getClient).prepare call with
  | .ok o => .call o .finish
  | .error e => Flow.failWith ⟨e.kind, e.message⟩

/-- A flow that ends with a value or with a failure. -/
abbrev Attempt := ExceptT Failure Flow

def answered (call : Call) : Attempt TransportResult := do
  let r ← request call
  match r.failure with
  | some f => throw f
  | none => return r

/-- Fetches an account, in the name of a token when one is given. -/
def fetch (url : String) (token : Option String) : Attempt Customer := do
  let headers : Headers := match token with
    | some t => if t.isEmpty then [] else [(customerTokenHeader, .text t)]
    | none => []
  let r ← answered { method := .get, url, headers }
  ofExcept (customerIn r)

/-- A customer who is logged in. -/
structure Login where
  customer : Customer
  token : String

def fetchOwner (token : AccessToken) (id : Int) : Attempt Login := do
  let url ← addressOf (.customer (.whole id))
  let customer ← fetch url (some token.token)
  Flow.say .info .customers s!"Customer {customer.id} logged in"
  return ⟨customer, token.token⟩

/-- Exchanges credentials for a token, and fetches the account unless the response holds it. -/
def login (url : String) (credentials : Credentials) : Attempt Login := do
  let r ← answered { method := .post, url, body := .credentials credentials }
  let token ← ofExcept (tokenIn r)
  if (objectMember? r "customer").isSome then
    return ⟨← ofExcept (customerIn r), token.token⟩
  else
    match token.customerId with
    | none => throw (malformed r "Token response has no customer_id")
    | some id => fetchOwner token id

/-- What was done to an account before its customer is logged in. -/
inductive Change where
  | created
  | activated
  | reset
deriving DecidableEq

def Change.word : Change → String
  | .created => "created"
  | .activated => "activated"
  | .reset => "reset"

/-- The failure of the login after a change; it keeps the account. -/
def derivationFailure (customer : Customer) (change : Change) (f : Failure) : Failure where
  cls := .tokenDerivation
  message := (s!"Customer {customer.id} was {change.word} but login failed: " : Str) ++ f.message
  url := f.url
  statusCode := f.statusCode
  document := f.document
  cause := some (.inr f)
  customer := some customer

/-- The failure when nobody knows the address to log in with. -/
def noEmailFailure (customer : Customer) (change : Change) : Failure where
  cls := .tokenDerivation
  message := s!"Customer {customer.id} was {change.word} but has no email to log in with"
  customer := some customer

def deriveToken (customer : Customer) (email : Option Str) (password : Str)
    (change : Change) : Attempt Login := do
  let email := email.getD ""
  if email.isEmpty then throw (noEmailFailure customer change)
  else
    let url ← addressOf .login
    let outcome : Except Failure Login ←
      (login url ⟨[⟨"email", email⟩, ⟨"password", password⟩]⟩).run
    match outcome with
    | .ok found => return found
    | .error f =>
      let failure := derivationFailure customer change f
      Flow.say .warning .customers failure.message
      throw failure

/-- Logs in the customer of the account that a write has answered. -/
def afterWrite (r : TransportResult) (credentials : Credentials) (change : Change)
    (email : Customer → Option Str) : Attempt Login := do
  let customer ← ofExcept (customerIn r)
  Flow.say .info .customers s!"Customer {customer.id} {change.word}, logging in"
  deriveToken customer (email customer) ((credentials.get? "password").getD "") change

def create (url : String) (credentials : Credentials) : Attempt Login := do
  let r ← answered { method := .post, url, body := .credentials credentials }
  afterWrite r credentials .created fun _ => credentials.get? "email"

/-- Changes an account and logs its customer in, with the address of the account if it has one. -/
def write (url : String) (credentials : Credentials) (change : Change) : Attempt Login := do
  let r ← answered { method := .put, url, body := .credentials credentials }
  afterWrite r credentials change fun customer =>
    givenOr Str.isEmpty customer.email (credentials.get? "email")

/-- Asks for a message with which a password can be reset. -/
def recover (url : String) (email : Str) : Flow RecoveryResult := do
  let r ← request { method := .post, url, body := .document (.obj [("email", .str email)]) }
  return ⟨.of (r.response.map (·.status)) r.failure, r.failure⟩

def renew (url : String) : Attempt String := do
  let r ← answered { method := .put, url }
  return (← ofExcept (tokenIn r)).token

def fetchOrders (url : String) : Attempt (List Order) := do
  let r ← answered { method := .get, url }
  ofExcept (ordersIn r)

end Storefront.Account
