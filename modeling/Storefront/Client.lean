import Storefront.Body
import Storefront.Request
import Storefront.Settings

/-! Clients of one shop: what every request of theirs carries. -/
namespace Storefront

structure Client where
  shopDomain : Option String := none
  apiKey : Option String := none
  appId : Argument := .nothing
  customerToken : Argument := .nothing
  timeout : Option Number := none
  scheme : Argument := .text "https"
  userAgent : Argument := .nothing

/-- The header that shows in whose name a request comes. -/
def customerTokenHeader : String := "X-Shopify-Customer-Access-Token"

/-- Tells whether an argument is given and neither empty nor zero. -/
def Argument.isGiven : Argument → Bool
  | .nothing => false
  | .text s => !s.isEmpty
  | .whole n => n ≠ 0
  | .flag b => b
  | .real x => x.toInt? ≠ some 0

/-- The first argument, or the second when it is not given. -/
def Argument.orElse (a b : Argument) : Argument := if a.isGiven then a else b

def Argument.ofText? : Option String → Argument
  | none => .nothing
  | some s => .text s

/-- The first value, or the second one when the first is absent or empty. -/
def givenOr {α : Type} (isEmpty : α → Bool) (a b : Option α) : Option α :=
  if (a.map isEmpty).getD true then b else a

namespace Client

/-- The client with settings for everything that is not given. -/
def completed (c : Client) (s : Settings) : Client :=
  { c with
    shopDomain := givenOr String.isEmpty c.shopDomain s.shopDomain
    apiKey := givenOr String.isEmpty c.apiKey s.apiKey
    appId := c.appId.orElse (.ofText? s.appId)
    timeout := c.timeout <|> s.timeout
    userAgent := .ofText? s.userAgent }

def defaultHeaders (c : Client) : Headers :=
  [("Content-Type", .text "application/json"), ("Accept", .text "application/json"),
    ("User-Agent", c.userAgent)] ++
  (match c.apiKey with
    | some key =>
      if key.isEmpty then [] else [("Authorization", .text ("Basic " ++ Text.Base64.encode key))]
    | none => []) ++
  (if c.appId.isGiven then [("X-Shopify-App-Id", .text c.appId.toText)] else []) ++
  (if c.customerToken.isGiven then [(customerTokenHeader, c.customerToken)] else [])

/-- Holds of a client for which no address can be built. -/
def lacksShop (c : Client) : Bool := (c.shopDomain.getD "").isEmpty

def timeoutText (c : Client) : String :=
  match c.timeout with
  | none => "None"
  | some t => t.text

end Client

/-- A call of a client: method, address, body and headers beside those of the client. -/
structure Call where
  method : Method
  url : String
  body : Body := .nothing
  headers : Headers := []

/-- A call with everything that is fixed when it is made. -/
structure Outgoing where
  method : Method
  url : String
  content : Option Content
  headers : Headers

def Outgoing.description (o : Outgoing) : String := o.method.name ++ " " ++ o.url

def Client.prepare (c : Client) (call : Call) : Except BodyError Outgoing :=
  call.body.content?.map fun content =>
    { method := call.method
      url := call.url
      content
      headers := c.defaultHeaders.putAll call.headers }

end Storefront
