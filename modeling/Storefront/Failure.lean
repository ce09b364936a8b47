import Storefront.Customer
import Storefront.Text.Quoted

/-! Failures that operations deliver, and the faults outside the client that cause them. -/
namespace Storefront

/-- The phases in which a server can be too slow. -/
inductive TimeoutPhase where
  | overall
  | connect
  | read
  | write
  | pool
deriving DecidableEq

/-- Ways in which a request reaches no response. -/
inductive NetworkTrouble where
  | request
  | transport
  | network
  | connect
  | read
  | write
  | close
  | protocol
  | localProtocol
  | remoteProtocol
  | proxy
  | unsupportedProtocol
  | decoding
  | tooManyRedirects
deriving DecidableEq

inductive FaultKind where
  | timeout (phase : TimeoutPhase)
  | network (trouble : NetworkTrouble)
  | badAddress
  | streamState
  | cookies
  | runtime
  | badValue
  | missingKey
  | missingMember
  | system
  | badType
  | unencodable
  | undecodable
  | badDocument
  | tooDeep
  | missingCredentials
deriving DecidableEq

/-- Something that went wrong outside the rules of the client. -/
structure Fault where
  kind : FaultKind
  text : String
deriving DecidableEq

/-- The words of a fault; a missing key is shown in quotes. -/
def Fault.message (f : Fault) : String :=
  match f.kind with
  | .missingKey => Text.quoted f.text
  | _ => f.text

/-- Coarse kinds of failure. -/
inductive FailureKind where
  | network
  | malformedResponse
  | clientError
  | serverError
  | cancelled
  | tokenDerivationFailed
  | unexpected
deriving DecidableEq

namespace FailureKind

def all : List FailureKind :=
  [.network, .malformedResponse, .clientError, .serverError, .cancelled, .tokenDerivationFailed,
    .unexpected]

def name : FailureKind → String
  | .network => "network"
  | .malformedResponse => "malformedResponse"
  | .clientError => "clientError"
  | .serverError => "serverError"
  | .cancelled => "cancelled"
  | .tokenDerivationFailed => "tokenDerivationFailed"
  | .unexpected => "unexpected"

def ofName? (s : String) : Option FailureKind := all.find? (·.name = s)

/-- Trying again can help only after trouble in the network or in the server. -/
def isRetryable (k : FailureKind) : Bool := k = .network || k = .serverError

end FailureKind

/-- The steps of an operation that can fail. -/
inductive FailureClass where
  | general
  | connection
  | timeout
  | status
  | malformedResponse
  | requestCancelled
  | tokenDerivation
deriving DecidableEq

/-- The kind of a failure of a class, unless it is given another one. -/
def FailureClass.defaultKind : FailureClass → FailureKind
  | .general => .unexpected
  | .connection => .network
  | .timeout => .network
  | .status => .clientError
  | .malformedResponse => .malformedResponse
  | .requestCancelled => .cancelled
  | .tokenDerivation => .tokenDerivationFailed

/-- A failure with what is known about the request: its address, the status code and document of the
response, what caused it, and an account that was written before it. -/
structure Failure where
  cls : FailureClass
  message : Str
  kind : FailureKind := cls.defaultKind
  url : Option String := none
  statusCode : Option Int := none
  document : Option Json.Value := none
  cause : Option (Fault ⊕ Failure) := none
  customer : Option Customer := none

namespace Failure

def isRetryable (f : Failure) : Bool := f.kind.isRetryable

/-- The message, and the address and status code unless they are empty or zero. -/
def describe (f : Failure) : Str :=
  let url : List Str := match f.url with
    | some u => if u.isEmpty then [] else ["URL: " ++ u]
    | none => []
  let status : List Str := match f.statusCode with
    | some c => if c = 0 then [] else ["Status: " ++ toString c]
    | none => []
  .join " | " (f.message :: url ++ status)

end Failure

def causeText : Fault ⊕ Failure → Str
  | .inl fault => fault.message
  | .inr failure => failure.describe

end Storefront
