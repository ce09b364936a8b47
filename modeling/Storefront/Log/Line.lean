import Storefront.Failure
import Storefront.Log.Level

/-! Lines that the library logs about its own work. -/
namespace Storefront.Log

/-- The parts of the library that log. -/
inductive Source where
  | client
  | task
  | customers
deriving DecidableEq

def Source.name : Source → String
  | .client => "core.http.client"
  | .task => "core.http.task"
  | .customers => "services.customer_service"

/-- A line, with the fault whose words stand behind its message, if there is one. -/
structure Line where
  level : Level
  source : Source
  message : Str
  reason : Option Fault := none
deriving DecidableEq

end Storefront.Log
