import Storefront.Failure

/-! The outcome of a request, coarser than its status code. -/
namespace Storefront

inductive Status where
  | success
  | clientError
  | serverError
  | networkFailure
  | unknown
deriving DecidableEq

namespace Status

def name : Status → String
  | .success => "success"
  | .clientError => "clientError"
  | .serverError => "serverError"
  | .networkFailure => "networkFailure"
  | .unknown => "unknown"

def ofCode (code : Int) : Status :=
  if 200 ≤ code ∧ code < 300 then .success
  else if 400 ≤ code ∧ code < 500 then .clientError
  else if 500 ≤ code then .serverError
  else .unknown

/-- The status of a response and the failure delivered with it. Without a code, or when the failure
means that none can have come, the network failed. -/
def of (code : Option Int) (failure : Option Failure) : Status :=
  match code with
  | none => .networkFailure
  | some c =>
    match failure with
    | some f => if f.kind = .network ∨ f.kind = .cancelled then .networkFailure else ofCode c
    | none => ofCode c

end Status

end Storefront
