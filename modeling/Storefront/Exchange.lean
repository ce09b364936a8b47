import Storefront.ErrorDocument
import Storefront.Flow
import Storefront.Json.Body

/-! The flow of one request: it is sent, redirects are followed when the session does so, and
whatever comes back becomes a result. -/
namespace Storefront.Exchange

open Json Log

/-- The kind of fault that a text or a body is which is no document. -/
def readFaultKind : ReadError → FaultKind
  | .malformed _ _ => .badDocument
  | .oversizedInteger _ => .badValue
  | .undecodable => .undecodable
  | .tooDeep _ => .tooDeep

def readFault (e : ReadError) : Fault := ⟨readFaultKind e, e.message⟩

/-- The document of a body, and what was wrong with it; or the fault of one that is nested too
deep. -/
def readDocument (bytes : List UInt8) : Except Fault (Option Value × Option Fault) :=
  match readBody bytes with
  | .ok v => .ok (v.bind (·.present?), none)
  | .error (.tooDeep c) => .error (readFault (.tooDeep c))
  | .error e => .ok (none, some (readFault e))

/-- Tells whether a response is refused: its code is none of success. -/
def isRefused (status : Int) : Bool := 300 ≤ status || status < 200

/-- The fault of a response that is refused without a failure. -/
def noFailureFault : Fault := ⟨.missingMember, "'NoneType' object has no attribute 'message'"⟩

/-- The result of a response, and the line that is logged about it. -/
def classify (o : Outgoing) (r : Response) : Except Fault (Log.Line × TransportResult) := do
  let (document, trouble) ← readDocument r.body
  let call := o.description
  if isRefused r.status then
    match ErrorDocument.failure? document r.status (some o.url) with
    | none => throw noFailureFault
    | some failure =>
      let message := (s!"HTTP {r.status} for {call}: " : Str) ++ failure.message
      return ({ level := .warning, source := .client, message }, ⟨document, some r, some failure⟩)
  else
    match trouble with
    | some fault =>
      let failure : Failure := {
        cls := .malformedResponse
        message := s!"Response from {call} is not valid JSON"
        url := some o.url
        statusCode := some r.status
        cause := some (.inl fault) }
      let message := s!"Malformed JSON from {call}"
      return ({ level := .warning, source := .client, message, reason := some fault },
        ⟨none, some r, some failure⟩)
    | none =>
      let message := s!"HTTP {r.status} for {call}"
      return ({ level := .info, source := .client, message }, ⟨document, some r, none⟩)

def timeoutFailure (o : Outgoing) (limit : String) (f : Fault) : Failure where
  cls := .timeout
  message := s!"Request to {o.url} timed out after {limit}s"
  url := some o.url
  cause := some (.inl f)

/-- The failure of a request that did not reach the shop. -/
def connectionFailure (o : Outgoing) (f : Fault) : Failure where
  cls := .connection
  message := s!"Connection failed for {o.description}: {f.message}"
  url := some o.url
  cause := some (.inl f)

/-- The result when a session reports a fault: slowness and trouble in the network are results,
everything else is not handled here. -/
def settleFault (o : Outgoing) (f : Fault) : Flow TransportResult :=
  match f.kind with
  | .timeout _ => do
    let limit := (← Flow.getClient).timeoutText
    Flow.say .error .client s!"{o.description} timed out after {limit}s"
    return ⟨none, none, some (timeoutFailure o limit f)⟩
  | .network _ => do
    Flow.say .error .client s!"Connection failed for {o.description}: {f.message}"
    return ⟨none, none, some (connectionFailure o f)⟩
  | _ => Flow.failWith f

def settleResponse (o : Outgoing) (r : Response) : Flow TransportResult :=
  match classify o r with
  | .error f => Flow.failWith f
  | .ok (line, result) => .log line (.finish result)

/-- The fault of a response to an address without a scheme, whose cookies belong to nobody. -/
def ownerFault (a : Address) : Fault := ⟨.badValue, "unknown url type: " ++ Text.quoted a.text⟩

/-- What comes of a response. One that leads to a further request goes on with it when the session
does so. -/
def afterResponse (o : Outgoing) (follows : Bool) (request : Request)
    (next : Request → Flow TransportResult) (response : Response) : Flow TransportResult :=
  match response.location? with
  | none => settleResponse o response
  | some location =>
    match request.redirected response.status location with
    | .error f => settleFault o f
    | .ok r => if follows then next r else settleResponse o response

/-- What comes of an answer. The session hears every response to an address with a scheme. -/
def afterAnswer (o : Outgoing) (session : SessionView) (request : Request)
    (next : Request → Flow TransportResult) : Answer → Flow TransportResult
  | .interruption => .interrupt
  | .fault (.inr failure) => .escape (.inr failure)
  | .fault (.inl f) => settleFault o f
  | .response status headers body =>
    let response : Response := ⟨status, request.address, headers, body⟩
    if request.address.scheme.isEmpty then settleFault o (ownerFault request.address)
    else
      .hear session.place response
        (afterResponse o session.followsRedirects request next response)

def redirectFault : Fault := ⟨.network .tooManyRedirects, "Exceeded maximum allowed redirects."⟩

/-- Sends a request, and then those that responses lead to, as many as are allowed. -/
def follow (o : Outgoing) (session : SessionView) : Nat → Request → Flow TransportResult
  | 0, request =>
    .send session.place request
      (afterAnswer o session request fun _ => settleFault o redirectFault)
  | more + 1, request =>
    .send session.place request
      (afterAnswer o session request fun r => follow o session more r)

/-- The fault of a session that takes no more requests. -/
def closedFault : Fault := ⟨.runtime, "Cannot send a request, as the client has been closed."⟩

def writeContent (o : Outgoing) : Except Fault (Option String) :=
  match o.content with
  | none => .ok none
  | some c =>
    match c.write with
    | .ok s => .ok (some s)
    | .error u => .error u.fault

def flow (o : Outgoing) : Flow TransportResult := do
  let body ← Flow.ofExcept (writeContent o)
  Flow.say .debug .client o.description
  .session fun session => .client fun c =>
    match Request.prepare o.method o.url o.headers body c.timeout with
    | .error f => Flow.failWith f
    | .ok request =>
      if session.isClosed then Flow.failWith closedFault
      else follow o session Request.redirectLimit request

end Storefront.Exchange
