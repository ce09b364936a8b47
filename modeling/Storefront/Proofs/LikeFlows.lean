import Storefront.Proofs.Documents
import Storefront.Proofs.LikeRequests
import Storefront.Proofs.Policy

/-! Flows of which two runs cannot be told apart. What they find and what they are answered is alike,
then they do what is alike: they log the same lines, send alike requests, and end alike. -/
namespace Storefront

/-- Flows that do alike things as long as they are answered alike. -/
inductive Flow.Alike (ν : Variation) {α α' : Type} (R : α → α' → Prop) : Flow α → Flow α' → Prop
  | finish {a : α} {a' : α'} (h : R a a') : Flow.Alike ν R (.finish a) (.finish a')
  | escape (cause : Fault ⊕ Failure) : Flow.Alike ν R (.escape cause) (.escape cause)
  | interrupt : Flow.Alike ν R .interrupt .interrupt
  | log {line line' : Log.Line} {next : Flow α} {next' : Flow α'} (h : line.Alike ν line')
    (hn : Flow.Alike ν R next next') : Flow.Alike ν R (.log line next) (.log line' next')
  | client {next : Client → Flow α} {next' : Client → Flow α'}
    (hn : ∀ c c', c.Alike ν c' → Flow.Alike ν R (next c) (next' c')) :
    Flow.Alike ν R (.client next) (.client next')
  | session {next : SessionView → Flow α} {next' : SessionView → Flow α'}
    (hn : ∀ v, Flow.Alike ν R (next v) (next' v)) : Flow.Alike ν R (.session next) (.session next')
  | send (place : Nat) {r r' : Request} {next : Answer → Flow α} {next' : Answer → Flow α'}
    (h : r.Alike ν r') (hn : ∀ a a', a.Alike ν a' → Flow.Alike ν R (next a) (next' a')) :
    Flow.Alike ν R (.send place r next) (.send place r' next')
  | hear (place : Nat) (r r' : Response) {next : Flow α} {next' : Flow α'}
    (hn : Flow.Alike ν R next next') : Flow.Alike ν R (.hear place r next) (.hear place r' next')
  | call {o o' : Outgoing} {next : TransportResult → Flow α} {next' : TransportResult → Flow α'}
    (h : o.Alike ν (· = customerTokenHeader) o')
    (hn : ∀ r r', r.Alike ν r' → Flow.Alike ν R (next r) (next' r')) :
    Flow.Alike ν R (.call o next) (.call o' next')
  | join (task : Nat) {next : Delivery → Flow α} {next' : Delivery → Flow α'}
    (hn : ∀ d d', d.Alike ν d' → Flow.Alike ν R (next d) (next' d')) :
    Flow.Alike ν R (.join task next) (.join task next')
  | gate (name : String) (stubborn : Bool) {next : Flow α} {next' : Flow α'}
    (hn : Flow.Alike ν R next next') :
    Flow.Alike ν R (.gate name stubborn next) (.gate name stubborn next')

variable {ν : Variation} {α α' β β' : Type} {R : α → α' → Prop} {S : β → β' → Prop}

theorem Flow.Alike.bind {f : Flow α} {f' : Flow α'} {g : α → Flow β} {g' : α' → Flow β'}
    (hf : Flow.Alike ν R f f') (hg : ∀ a a', R a a' → Flow.Alike ν S (g a) (g' a')) :
    Flow.Alike ν S (f.bind g) (f'.bind g') := by
  induction hf with
  | finish h => exact hg _ _ h
  | escape cause => exact .escape cause
  | interrupt => exact .interrupt
  | log h _ ih => exact .log h ih
  | client _ ih => exact .client ih
  | session _ ih => exact .session ih
  | send place h _ ih => exact .send place h ih
  | hear place r r' _ ih => exact .hear place r r' ih
  | call h _ ih => exact .call h ih
  | join task _ ih => exact .join task ih
  | gate name stubborn _ ih => exact .gate name stubborn ih

theorem Flow.Alike.map {f : Flow α} {f' : Flow α'} {g : α → β} {g' : α' → β'}
    (hf : Flow.Alike ν R f f') (hg : ∀ a a', R a a' → S (g a) (g' a')) :
    Flow.Alike ν S (g <$> f) (g' <$> f') :=
  hf.bind fun a a' h => .finish (hg a a' h)

theorem Flow.say_alike (level : Log.Level) (source : Log.Source) {message message' : Str}
    (h : Text.Alike ν message message') :
    Flow.Alike ν Eq (Flow.say level source message) (Flow.say level source message') :=
  .log ⟨rfl, rfl, h, rfl⟩ (.finish rfl)

/-! Requests -/

namespace Exchange

variable {o o' : Outgoing} {leaves : String → Prop}

theorem settleFault_alike (h : o.Alike ν leaves o') (f : Fault) :
    Flow.Alike ν (TransportResult.Alike ν) (settleFault o f) (settleFault o' f) := by
  have hfailed {m m' : Failure} (hm : m.Alike ν m') :
      TransportResult.Alike ν ⟨none, none, some m⟩ ⟨none, none, some m'⟩ := ⟨.none, .some hm⟩
  unfold settleFault
  split
  · refine .client fun c c' hc => ?_
    refine .log ⟨rfl, rfl, ?_, rfl⟩ (.finish (hfailed ?_))
    · rw [hc.timeoutText]
      exact .joined (.joined (.joined h.description (.same _)) (.same _)) (.same _)
    · unfold timeoutFailure Failure.Alike
      rw [hc.timeoutText]
      exact .joined (.joined (.joined (.joined (.same _) h.url.text) (.same _)) (.same _)) (.same _)
  · have hmessage : (connectionFailure o f).Alike ν (connectionFailure o' f) :=
      .joined (.joined (.joined (.same _) h.description) (.same _)) (.same _)
    exact .log ⟨rfl, rfl, hmessage, rfl⟩ (.finish (hfailed hmessage))
  · exact .escape _

/-- What two responses with one status say: the same, or successes with alike documents. -/
def SaysAlike (status : Int) (read read' : Option Json.Value × Option Fault) : Prop :=
  (read.1 = read'.1 ∨ Status.ofCode status = .success ∧ Option.Rel Json.Value.Alike read.1 read'.1) ∧
    read.2 = read'.2

/-- Responses that say alike things are failures together, with the same message. -/
theorem failure?_alike {status : Int} {document document' : Option Json.Value}
    (h : document = document' ∨ Status.ofCode status = .success ∧
      Option.Rel Json.Value.Alike document document') (url url' : Option String) :
    Option.Rel (fun f f' => f.message = f'.message) (ErrorDocument.failure? document status url)
      (ErrorDocument.failure? document' status url') := by
  unfold ErrorDocument.failure?
  dsimp only
  split
  · exact .none
  · rename_i hsuccess
    rcases h with rfl | ⟨h, -⟩
    · exact .some rfl
    · exact absurd h hsuccess

theorem classify_alike (h : o.Alike ν leaves o') {r r' : Response} (hs : r.status = r'.status)
    (hread : Except.Rel Eq (SaysAlike r.status) (readDocument r.body) (readDocument r'.body)) :
    Except.Rel Eq (fun p p' => p.1.Alike ν p'.1 ∧ p.2.Alike ν p'.2) (classify o r)
      (classify o' r') := by
  unfold classify
  refine hread.bind ?_
  rintro ⟨document, trouble⟩ ⟨document', trouble'⟩ ⟨hdocument, rfl⟩
  have hcall := h.description
  have hdocuments : Option.Rel Json.Value.Alike document document' := by
    rcases hdocument with rfl | ⟨-, hd⟩
    · cases document with
      | none => exact .none
      | some v => exact .some (.same v)
    · exact hd
  have hfailure := failure?_alike hdocument (some o.url) (some o'.url)
  dsimp only
  rw [← hs]
  generalize ErrorDocument.failure? document r.status (some o.url) = x at hfailure ⊢
  generalize ErrorDocument.failure? document' r.status (some o'.url) = x' at hfailure ⊢
  cases isRefused r.status with
  | true =>
    simp only [if_pos]
    cases hfailure with
    | some hm =>
      refine .ok ⟨⟨rfl, rfl, ?_, rfl⟩, hdocuments, .some ?_⟩
      · rw [hm]
        exact .append (.joined (.joined (.same _) hcall) (.same _)) (.same _)
      · unfold Failure.Alike
        rw [hm]
        exact .same _
    | none => exact .error rfl
  | false =>
    simp only [Bool.false_eq_true, if_false]
    cases trouble with
    | some fault =>
      refine .ok ⟨⟨rfl, rfl, .joined (.same _) hcall, rfl⟩, .none, .some ?_⟩
      exact .joined (.joined (.same _) hcall) (.same _)
    | none => exact .ok ⟨⟨rfl, rfl, .joined (.same _) hcall, rfl⟩, hdocuments, .none⟩

theorem settleResponse_alike (h : o.Alike ν leaves o') {r r' : Response} (hs : r.status = r'.status)
    (hread : Except.Rel Eq (SaysAlike r.status) (readDocument r.body) (readDocument r'.body)) :
    Flow.Alike ν (TransportResult.Alike ν) (settleResponse o r) (settleResponse o' r') := by
  unfold settleResponse
  obtain ⟨f, hc, hc'⟩ | ⟨⟨line, result⟩, ⟨line', result'⟩, hc, hc', hline, hresult⟩ :=
    (classify_alike h hs hread).both
  · rw [hc, hc']
    exact .escape _
  · rw [hc, hc']
    exact .log hline (.finish hresult)

/-- Bodies that are documents which are alike are read without trouble. -/
theorem readDocument_alike {body body' : List UInt8} {v v' : Json.Value} (status : Int)
    (hs : Status.ofCode status = .success) (hv : Json.readBody body = .ok (some v))
    (hv' : Json.readBody body' = .ok (some v')) (h : v.Alike v') :
    Except.Rel Eq (SaysAlike status) (readDocument body) (readDocument body') := by
  unfold readDocument
  rw [hv, hv']
  refine .ok ⟨.inr ⟨hs, ?_⟩, rfl⟩
  cases h with
  | same v =>
    cases hp : v.present? with
    | none => simp [hp]
    | some x => simpa [hp] using Option.Rel.some (.same x)
  | member h => exact .some (.member h)

/-- A success leads nowhere. -/
theorem location?_of_success {r : Response} (h : Status.ofCode r.status = .success) :
    r.location? = none := by
  have hcode := Status.ofCode_success.mp h
  unfold Response.location?
  rw [if_neg]
  simp only [List.contains_cons, List.contains_nil, Bool.or_false, Bool.or_eq_true, beq_iff_eq]
  omega

/-- Alike requests go on alike with the same response. Where addresses stand for each other, it leads
nowhere. -/
theorem afterResponse_alike (h : o.Alike ν leaves o') (follows : Bool) {request request' : Request}
    (hr : request.Alike ν request') {next next' : Request → Flow TransportResult}
    (hnext : ∀ r r', r.Alike ν r' →
      Flow.Alike ν (TransportResult.Alike ν) (next r) (next' r')) {status : Int}
    {headers : List (String × String)} {body : List UInt8}
    (hν : ν.Shifts → (Answer.response status headers body).LeadsNowhere) :
    Flow.Alike ν (TransportResult.Alike ν)
      (afterResponse o follows request next ⟨status, request.address, headers, body⟩)
      (afterResponse o' follows request' next' ⟨status, request'.address, headers, body⟩) := by
  have hsettle : Flow.Alike ν (TransportResult.Alike ν)
      (settleResponse o ⟨status, request.address, headers, body⟩)
      (settleResponse o' ⟨status, request'.address, headers, body⟩) :=
    settleResponse_alike h rfl (.refl (fun _ => ⟨.inl rfl, rfl⟩) _)
  have hlocation : (Response.mk status request.address headers body).location? =
      (Response.mk status request'.address headers body).location? := rfl
  unfold afterResponse
  rw [hlocation]
  cases hl : (Response.mk status request'.address headers body).location? with
  | none => exact hsettle
  | some location =>
    have hstays : ¬ ν.Shifts := fun hshifts =>
      absurd ((hν hshifts request'.address body).symm.trans hl) (by simp)
    dsimp only
    obtain ⟨f, hx, hx'⟩ | ⟨r, r', hx, hx', hnew⟩ := (hr.redirected hstays status location).both
    · rw [hx, hx']
      exact settleFault_alike h f
    · rw [hx, hx']
      dsimp only
      split
      · exact hnext r r' hnew
      · exact hsettle

theorem afterAnswer_alike (h : o.Alike ν leaves o') (session : SessionView)
    {request request' : Request} (hr : request.Alike ν request')
    {next next' : Request → Flow TransportResult}
    (hnext : ∀ r r', r.Alike ν r' →
      Flow.Alike ν (TransportResult.Alike ν) (next r) (next' r')) {a a' : Answer}
    (ha : a.Alike ν a') :
    Flow.Alike ν (TransportResult.Alike ν) (afterAnswer o session request next a)
      (afterAnswer o' session request' next' a') := by
  have hscheme := hr.address.isEmpty
  have howner (he : request'.address.scheme.isEmpty = true) :
      ownerFault request.address = ownerFault request'.address := by
    rcases hr.address with hsame | ⟨-, -, he'⟩
    · rw [hsame]
    · rw [he] at he'
      cases he'
  cases ha with
  | same a hν =>
    cases a with
    | interruption => exact .interrupt
    | fault cause =>
      cases cause with
      | inl f => exact settleFault_alike h f
      | inr failure => exact .escape _
    | response status headers body =>
      unfold afterAnswer
      dsimp only
      rw [hscheme]
      split
      · rename_i he
        rw [howner he]
        exact settleFault_alike h _
      · exact .hear _ _ _ (afterResponse_alike h _ hr hnext hν)
  | success hs hv hv' hdoc =>
    unfold afterAnswer
    dsimp only
    rw [hscheme]
    split
    · rename_i he
      rw [howner he]
      exact settleFault_alike h _
    · refine .hear _ _ _ ?_
      unfold afterResponse
      rw [location?_of_success hs, location?_of_success hs]
      exact settleResponse_alike h rfl (readDocument_alike _ hs hv hv' hdoc)

theorem follow_alike (h : o.Alike ν leaves o') (session : SessionView) (more : Nat)
    {request request' : Request} (hr : request.Alike ν request') :
    Flow.Alike ν (TransportResult.Alike ν) (follow o session more request)
      (follow o' session more request') := by
  induction more generalizing request request' with
  | zero =>
    exact .send session.place hr fun a a' => afterAnswer_alike h session hr fun _ _ _ =>
      settleFault_alike h redirectFault
  | succ more ih =>
    exact .send session.place hr fun a a' => afterAnswer_alike h session hr fun _ _ => ih

/-- Alike requests whose headers can be sent, or cannot for the same reason, run alike. -/
theorem flow_alike (h : o.Alike ν (fun _ => False) o') :
    Flow.Alike ν (TransportResult.Alike ν) (flow o) (flow o') := by
  unfold flow
  obtain ⟨f, hb, hb'⟩ | ⟨body, body', hb, hb', -⟩ := h.writeContent.both
  · rw [hb, hb']
    exact .escape _
  · rw [hb, hb']
    refine .log ⟨rfl, rfl, h.description, rfl⟩ (.session fun v => .client fun c c' hc => ?_)
    rw [← hc.timeout]
    obtain ⟨f, hp, hp'⟩ | ⟨request, request', hp, hp', hr⟩ := (h.prepare body body' c.timeout).both
    · rw [hp, hp']
      exact .escape _
    · rw [hp, hp']
      dsimp only
      split
      · exact .escape _
      · exact follow_alike h _ _ hr

end Exchange

/-! Operations -/

/-- Calls that differ in secrets, and in addresses that stand for each other. -/
structure Call.Alike (ν : Variation) (call call' : Call) : Prop where
  method : call.method = call'.method
  url : ν.SameTarget call.url call'.url
  body : call.body.Alike call'.body
  headers : Headers.Alike (· = customerTokenHeader) call.headers call'.headers

namespace Account

/-- Attempts that do alike things, and end with values that are related or with alike failures. -/
def Attempt.Alike (ν : Variation) (R : α → α' → Prop) (m : Attempt α) (m' : Attempt α') : Prop :=
  Flow.Alike ν (Except.Rel (Failure.Alike ν) R) m.run m'.run

namespace Attempt.Alike

theorem bind {m : Attempt α} {m' : Attempt α'} {g : α → Attempt β} {g' : α' → Attempt β'}
    (hm : Attempt.Alike ν R m m') (hg : ∀ a a', R a a' → Attempt.Alike ν S (g a) (g' a')) :
    Attempt.Alike ν S (m >>= g) (m' >>= g') := by
  have hcont (x : Except Failure α) (x' : Except Failure α')
      (hx : Except.Rel (Failure.Alike ν) R x x') :
      Flow.Alike ν (Except.Rel (Failure.Alike ν) S) (ExceptT.bindCont g x)
        (ExceptT.bindCont g' x') := by
    cases hx with
    | ok h => exact hg _ _ h
    | error h => exact .finish (.error h)
  exact Flow.Alike.bind hm hcont

theorem ofExcept {e : Except Failure α} {e' : Except Failure α'}
    (h : Except.Rel (Failure.Alike ν) R e e') :
    Attempt.Alike ν R (ofExcept e : Attempt α) (ofExcept e' : Attempt α') := by
  cases h with
  | ok h => exact .finish (.ok h)
  | error h => exact .finish (.error h)

theorem lift {f : Flow α} {f' : Flow α'} (h : Flow.Alike ν R f f') :
    Attempt.Alike ν R (liftM f : Attempt α) (liftM f' : Attempt α') :=
  Flow.Alike.bind h fun _ _ h => .finish (.ok h)

theorem pure {a : α} {a' : α'} (h : R a a') :
    Attempt.Alike ν R (Pure.pure a : Attempt α) (Pure.pure a' : Attempt α') :=
  .finish (.ok h)

theorem throw {f f' : Failure} (h : f.Alike ν f') :
    Attempt.Alike ν R (MonadExcept.throw f : Attempt α) (MonadExcept.throw f' : Attempt α') :=
  .finish (.error h)

end Attempt.Alike

theorem addressOf_alike (e : Endpoint) : Flow.Alike ν Eq (addressOf e) (addressOf e) := by
  refine .client fun c c' hc => ?_
  have hurl : e.url? c.scheme.toText c.shopDomain [] = e.url? c'.scheme.toText c'.shopDomain [] :=
    hc.url? e
  dsimp only [Flow.bind]
  rw [hurl]
  split
  · exact .finish rfl
  · exact .escape _

theorem request_alike {call call' : Call} (h : call.Alike ν call') :
    Flow.Alike ν (TransportResult.Alike ν) (request call) (request call') := by
  refine .client fun c c' hc => ?_
  dsimp only [Flow.bind]
  obtain ⟨e, hp, hp'⟩ | ⟨o, o', hp, hp', ho⟩ := (hc.prepare h.method h.url h.body h.headers).both
  · rw [hp, hp']
    exact .escape _
  · rw [hp, hp']
    exact .call ho fun _ _ hr => .finish hr

theorem answered_alike {call call' : Call} (h : call.Alike ν call') :
    Attempt.Alike ν (TransportResult.Alike ν) (answered call) (answered call') := by
  refine (Attempt.Alike.lift (request_alike h)).bind fun r r' hr => ?_
  have hf := hr.failure
  generalize r.failure = x at hf ⊢
  generalize r'.failure = x' at hf ⊢
  cases hf with
  | none => exact .pure hr
  | some hf => exact .throw hf

/-! What responses hold -/

theorem objectMember?_alike {r r' : TransportResult} (h : r.Alike ν r') {name : String}
    (hn : (name : Str) ≠ "customer_access_token") : objectMember? r name = objectMember? r' name := by
  have hd := h.document
  unfold objectMember?
  generalize r.document = d at hd ⊢
  generalize r'.document = d' at hd ⊢
  cases hd with
  | none => rfl
  | some hd =>
    dsimp only [Option.bind_some]
    rw [hd.member?_of_ne hn]

/-- What is wrong with a response is told in the same words. -/
theorem malformed_alike (r r' : TransportResult) (reason : String) :
    (malformed r reason).Alike ν (malformed r' reason) := .same reason

theorem customerIn_alike {r r' : TransportResult} (h : r.Alike ν r') :
    Except.Rel (Failure.Alike ν) Eq (customerIn r) (customerIn r') := by
  unfold customerIn
  rw [objectMember?_alike h (by decide)]
  split
  · exact .error (malformed_alike r r' _)
  · refine Except.Rel.mapError (.refl (fun _ => rfl) _) fun e e' he => ?_
    rw [he]
    exact malformed_alike r r' _

theorem tokenIn_alike {r r' : TransportResult} (h : r.Alike ν r') :
    Except.Rel (Failure.Alike ν) AccessToken.Alike (tokenIn r) (tokenIn r') := by
  have hmember : Option.Rel Json.Value.SameToken (objectMember? r "customer_access_token")
      (objectMember? r' "customer_access_token") := by
    have hd := h.document
    unfold objectMember?
    generalize r.document = d at hd ⊢
    generalize r'.document = d' at hd ⊢
    cases hd with
    | none => exact .none
    | @some v v' hd =>
      have hm := hd.member? "customer_access_token"
      dsimp only [Option.bind_some]
      generalize v.member? "customer_access_token" = x at hm ⊢
      generalize v'.member? "customer_access_token" = x' at hm ⊢
      cases hm with
      | none => exact .none
      | some hm =>
        obtain rfl | ⟨-, same | member⟩ := hm
        · split
          · exact .some (.same _)
          · exact .none
        · split
          · exact .some (.same _)
          · exact .none
        · exact .some (.member member)
  unfold tokenIn
  generalize objectMember? r "customer_access_token" = x at hmember ⊢
  generalize objectMember? r' "customer_access_token" = x' at hmember ⊢
  cases hmember with
  | none => exact .error (malformed_alike r r' _)
  | some hm =>
    refine (AccessToken.read_alike hm).mapError fun e e' he => ?_
    rw [he]
    exact malformed_alike r r' _

theorem ordersIn_alike {r r' : TransportResult} (h : r.Alike ν r') :
    Except.Rel (Failure.Alike ν) Eq (ordersIn r) (ordersIn r') := by
  have hmember : r.document.bind (·.member? "orders") = r'.document.bind (·.member? "orders") := by
    have hd := h.document
    generalize r.document = d at hd ⊢
    generalize r'.document = d' at hd ⊢
    cases hd with
    | none => rfl
    | some hd => exact hd.member?_of_ne (by decide)
  unfold ordersIn
  rw [hmember]
  split
  · refine Except.Rel.mapError (.refl (fun _ => rfl) _) fun e e' he => ?_
    rw [he]
    exact malformed_alike r r' _
  · exact .error (malformed_alike r r' _)

/-! The flows of operations -/

variable {url url' : String} {credentials credentials' : Credentials}

/-- The headers that show a token, if one is given. -/
def tokenHeaders (token : Option String) : Headers :=
  match token with
  | some t => if t.isEmpty then [] else [(customerTokenHeader, .text t)]
  | none => []

theorem tokenHeaders_alike {token token' : Option String}
    (h : Option.Rel (fun t t' => t.isEmpty = t'.isEmpty) token token') :
    Headers.Alike (· = customerTokenHeader) (tokenHeaders token) (tokenHeaders token') := by
  cases h with
  | none => exact .nil
  | some h =>
    unfold tokenHeaders
    dsimp only
    rw [h]
    split
    · exact .nil
    · exact .cons ⟨rfl, .inr ⟨_, _, rfl, rfl, .inl rfl⟩⟩ .nil

theorem fetch_alike (h : ν.SameTarget url url') {token token' : Option String}
    (ht : Option.Rel (fun t t' => t.isEmpty = t'.isEmpty) token token') :
    Attempt.Alike ν Eq (fetch url token) (fetch url' token') := by
  unfold fetch
  refine Attempt.Alike.bind (answered_alike ⟨rfl, h, .same _, tokenHeaders_alike ht⟩)
    fun r r' hr => ?_
  exact .ofExcept (customerIn_alike hr)

/-- The result of a login does not matter for what is logged. -/
abbrev anyLogin : Login → Login → Prop := fun _ _ => True

theorem fetchOwner_alike {token token' : AccessToken} (h : token.Alike token') (id : Int) :
    Attempt.Alike ν anyLogin (fetchOwner token id) (fetchOwner token' id) := by
  unfold fetchOwner
  refine (Attempt.Alike.lift (addressOf_alike _)).bind fun u u' hu => ?_
  refine (fetch_alike (.inl hu) (.some h.2)).bind fun customer customer' hcustomer => ?_
  rw [hcustomer]
  refine (Attempt.Alike.lift (Flow.say_alike _ _ (.same _))).bind fun _ _ _ => ?_
  exact .pure trivial

theorem login_alike (h : ν.SameTarget url url') (hc : credentials.Alike credentials') :
    Attempt.Alike ν anyLogin (login url credentials) (login url' credentials') := by
  unfold login
  refine Attempt.Alike.bind (answered_alike ⟨rfl, h, .credentials hc, .same _ _⟩) fun r r' hr => ?_
  refine (Attempt.Alike.ofExcept (tokenIn_alike hr)).bind fun token token' ht => ?_
  rw [objectMember?_alike hr (by decide)]
  split
  · exact (Attempt.Alike.ofExcept (customerIn_alike hr)).bind fun _ _ _ => .pure trivial
  · rw [ht.1]
    split
    · exact .throw (malformed_alike r r' _)
    · exact fetchOwner_alike ht _

theorem deriveToken_alike (customer : Customer) (email : Option Str) (change : Change)
    {password password' : Str} (hp : password.isEmpty = password'.isEmpty) :
    Attempt.Alike ν anyLogin (deriveToken customer email password change)
      (deriveToken customer email password' change) := by
  unfold deriveToken
  dsimp only
  split
  · exact .throw (.same _)
  · refine (Attempt.Alike.lift (addressOf_alike _)).bind fun u u' hu => ?_
    have hcredentials : Credentials.Alike
        ⟨[⟨"email", email.getD ""⟩, ⟨"password", password⟩]⟩
        ⟨[⟨"email", email.getD ""⟩, ⟨"password", password'⟩]⟩ :=
      .cons ⟨rfl, .inl rfl⟩ (.cons ⟨rfl, .inr ⟨List.mem_cons_self, hp⟩⟩ .nil)
    refine (Attempt.Alike.lift (login_alike (.inl hu) hcredentials)).bind fun x x' hx => ?_
    cases hx with
    | ok _ => exact .pure trivial
    | error hf =>
      have hmessage {f f' : Failure} (hf : f.Alike ν f') :
          (derivationFailure customer change f).Alike ν (derivationFailure customer change f') :=
        .append (.same _) hf
      refine (Attempt.Alike.lift (Flow.say_alike _ _ (hmessage hf))).bind fun _ _ _ => ?_
      exact .throw (hmessage hf)

theorem changing_alike (h : ν.SameTarget url url') (hc : credentials.Alike credentials')
    (change : Change) :
    Attempt.Alike ν anyLogin (changing url credentials change)
      (changing url' credentials' change) := by
  unfold changing
  refine Attempt.Alike.bind (answered_alike ⟨rfl, h, .credentials hc, .same _ _⟩) fun r r' hr => ?_
  unfold afterWrite
  refine (Attempt.Alike.ofExcept (customerIn_alike hr)).bind fun customer customer' hcustomer => ?_
  rw [hcustomer]
  refine (Attempt.Alike.lift (Flow.say_alike _ _ (.same _))).bind fun _ _ _ => ?_
  have hemail : change.email credentials customer' = change.email credentials' customer' := by
    unfold Change.email
    rw [hc.get? (by decide)]
  rw [hemail]
  exact deriveToken_alike _ _ _ (hc.isEmpty "password")

theorem recover_alike (h : ν.SameTarget url url') (email : Str) :
    Flow.Alike ν (fun r r' => Option.Rel (Failure.Alike ν) r.failure r'.failure)
      (recover url email) (recover url' email) := by
  unfold recover
  exact Flow.Alike.bind (request_alike ⟨rfl, h, .same _, .same _ _⟩) fun r r' hr => .finish hr.failure

theorem renew_alike (h : ν.SameTarget url url') :
    Attempt.Alike ν (fun _ _ => True) (renew url) (renew url') := by
  unfold renew
  refine Attempt.Alike.bind (answered_alike ⟨rfl, h, .same _, .same _ _⟩) fun r r' hr => ?_
  exact (Attempt.Alike.ofExcept (tokenIn_alike hr)).bind fun _ _ _ => .pure trivial

theorem fetchOrders_alike (h : ν.SameTarget url url') :
    Attempt.Alike ν Eq (fetchOrders url) (fetchOrders url') := by
  unfold fetchOrders
  refine Attempt.Alike.bind (answered_alike ⟨rfl, h, .same _, .same _ _⟩) fun r r' hr => ?_
  exact .ofExcept (ordersIn_alike hr)

end Account

end Storefront
