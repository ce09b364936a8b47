import Storefront.Address.Reference
import Storefront.Headers
import Storefront.Text.Base64

/-! Requests as they leave the client, the responses to them, and how a response leads to the next
request. -/
namespace Storefront

inductive Method where
  | get
  | delete
  | post
  | put
  | patch
deriving DecidableEq

def Method.name : Method → String
  | .get => "GET"
  | .delete => "DELETE"
  | .post => "POST"
  | .put => "PUT"
  | .patch => "PATCH"

structure Request where
  method : Method
  address : Address
  headers : List (String × String)
  body : Option String
  timeout : Option Number

structure Response where
  status : Int
  address : Address
  headers : List (String × String)
  body : List UInt8

namespace Request

def addressFault (e : AddressError) : Fault := ⟨.badAddress, e.message⟩

def userHeader (name password : List Char) : String :=
  "Basic " ++ Text.Base64.encode (String.ofList (name ++ ':' :: password))

/-- Puts a request together. A user in the address takes the place of the authorization header. -/
def prepare (method : Method) (url : String) (headers : Headers) (body : Option String)
    (timeout : Option Number) : Except Fault Request := do
  let address ← (Address.readTarget url).mapError addressFault
  let headers ← headers.sent
  let headers := match address.user? with
    | none => headers
    | some (name, password) => Headers.replaced "Authorization" (userHeader name password) headers
  return { method, address, headers, body, timeout }

def redirectLimit : Nat := 20

def redirectedMethod (method : Method) (status : Int) : Method :=
  if status = 303 ∨ status = 302 ∨ (status = 301 ∧ method = .post) then .get else method

def locate (base : Address) (location : String) : Except Fault Address := do
  let found ← (Address.read location).mapError fun e =>
    ⟨.network .remoteProtocol, "Invalid URL in location header: " ++ e.message ++ "."⟩
  let steps : Except AddressError Address := do
    let found ←
      if !found.scheme.isEmpty && found.host.isEmpty then found.withHostOf base else .ok found
    let found ← if found.isAbsolute then .ok found else base.join found
    let kept := (base.fragment.getD [])
    if !kept.isEmpty && (found.fragment.getD []).isEmpty then
      found.withFragment (Text.Percent.decodePart kept)
    else .ok found
  steps.mapError addressFault

/-- The request that a response leads to. Another server does not learn the authorization, cookies
are left behind, and a changed method goes without the body and what is said about it. -/
def redirected (r : Request) (status : Int) (location : String) : Except Fault Request := do
  let address ← locate r.address location
  let method := redirectedMethod r.method status
  let keeps := address.sameOrigin r.address || r.address.isUpgrade address
  let headers := if keeps then r.headers else Headers.without "Authorization" r.headers
  let headers := Headers.without "Cookie" headers
  if method ≠ r.method ∧ method = .get then
    return { r with
      method, address, headers := Headers.without "Transfer-Encoding" headers, body := none }
  else return { r with method, address, headers }

/-- A request as it goes out with the cookies that a session adds. -/
def withCookies (r : Request) : Option String → Request
  | none => r
  | some cookies => { r with headers := r.headers ++ [("Cookie", cookies)] }

end Request

/-- What a response wants to be kept as cookies. -/
def Response.setCookies (r : Response) : List String :=
  (r.headers.filter (Headers.named "Set-Cookie")).map (·.2)

def Response.location? (r : Response) : Option String :=
  if [301, 302, 303, 307, 308].contains r.status then Headers.valueOf? r.headers "Location"
  else none

end Storefront
