import Storefront.Client
import Storefront.Order
import Storefront.Status

/-! Results of requests and operations. -/
namespace Storefront

structure TransportResult where
  document : Option Json.Value
  response : Option Response
  failure : Option Failure

structure CustomerResult where
  customer : Option Customer
  failure : Option Failure

structure LoginResult where
  customer : Option Customer
  token : Option String
  failure : Option Failure

structure TokenResult where
  token : Option String
  failure : Option Failure

structure RecoveryResult where
  status : Status
  failure : Option Failure

structure OrdersResult where
  orders : Option (List Order)
  failure : Option Failure

/-- A component of a plain result. -/
inductive Item where
  | value (v : Json.Value)
  | failure (f : Failure)

/-- What a task hands to its callback and to everyone who waits for it. -/
inductive Delivery where
  | transport (r : TransportResult)
  | customer (r : CustomerResult)
  | login (r : LoginResult)
  | token (r : TokenResult)
  | recovery (r : RecoveryResult)
  | orders (r : OrdersResult)
  | items (xs : List Item)

/-- The kinds of results. -/
inductive ResultKind where
  | transport
  | customer
  | login
  | token
  | recovery
  | orders
  | items
deriving DecidableEq

/-- The result of a kind that holds a failure and nothing else. -/
def ResultKind.failed (f : Failure) : ResultKind → Delivery
  | .transport => .transport ⟨none, none, some f⟩
  | .customer => .customer ⟨none, some f⟩
  | .login => .login ⟨none, none, some f⟩
  | .token => .token ⟨none, some f⟩
  | .recovery => .recovery ⟨.of f.statusCode (some f), some f⟩
  | .orders => .orders ⟨none, some f⟩
  | .items => .items [.value .null, .failure f]

namespace Delivery

def isEmpty : Delivery → Bool
  | .items [] => true
  | _ => false

def kind : Delivery → ResultKind
  | .transport _ => .transport
  | .customer _ => .customer
  | .login _ => .login
  | .token _ => .token
  | .recovery _ => .recovery
  | .orders _ => .orders
  | .items _ => .items

def failure? : Delivery → Option Failure
  | .transport r => r.failure
  | .customer r => r.failure
  | .login r => r.failure
  | .token r => r.failure
  | .recovery r => r.failure
  | .orders r => r.failure
  | .items xs => xs.findSome? fun
    | .failure f => some f
    | .value _ => none

/-- A result as that of a request; of another kind, only the failure is left. -/
def asTransport : Delivery → TransportResult
  | .transport r => r
  | d => ⟨none, none, d.failure?⟩

end Delivery

/-- How a flow ends. -/
inductive Ending where
  | finished (d : Delivery)
  | escaped (cause : Fault ⊕ Failure)
  | interrupted

end Storefront
