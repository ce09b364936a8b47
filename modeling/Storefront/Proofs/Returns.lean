import Storefront.Proofs.Answering
import Storefront.Proofs.Documents

/-! What comes back for a request: a response, or something that the session raises. The flow of a
request first takes what comes back, along all redirects, and then makes a result of it. -/
namespace Storefront

/-- Slowness or trouble in the network. -/
def Fault.isTrouble (f : Fault) : Bool :=
  match f.kind with
  | .timeout _ => true
  | .network _ => true
  | _ => false

/-- What comes back for a request: a response, or what the session raises. -/
abbrev Return := Except (Fault ⊕ Failure) Response

theorem Headers.isTrouble_of_sent {headers : Headers} {f : Fault} (h : headers.sent = .error f) :
    f.isTrouble = false := by
  have hascii {s : String} {f : Fault} (h : checkAscii s = .error f) : f.isTrouble = false := by
    unfold checkAscii at h
    split at h
    · cases h
    · rw [← Except.error.inj h]
      rfl
  have hvalue {v : Argument} {f : Fault} (h : sentValue v = .error f) : f.isTrouble = false := by
    cases v with
    | text s => exact hascii h
    | _ =>
      rw [← Except.error.inj h]
      rfl
  induction headers with
  | nil => cases h
  | cons header rest ih =>
    obtain ⟨name, value⟩ := header
    cases hn : checkAscii name with
    | error f' =>
      simp only [sent, hn, bind, Except.bind, Except.error.injEq] at h
      exact h ▸ hascii hn
    | ok name' =>
      cases hv : sentValue value with
      | error f' =>
        simp only [sent, hn, hv, bind, Except.bind, Except.error.injEq] at h
        exact h ▸ hvalue hv
      | ok value' =>
        cases hr : sent rest with
        | error f' =>
          simp only [sent, hn, hv, hr, bind, Except.bind, Except.error.injEq] at h
          exact ih (h ▸ hr)
        | ok hs => simp [sent, hn, hv, hr, bind, Except.bind, pure, Except.pure] at h

/-- A request that cannot be put together is no trouble in the network. -/
theorem Request.isTrouble_of_prepare {method : Method} {url : String} {headers : Headers}
    {body : Option String} {timeout : Option Number} {f : Fault}
    (h : Request.prepare method url headers body timeout = .error f) : f.isTrouble = false := by
  unfold Request.prepare at h
  cases ha : Address.readTarget url with
  | error e =>
    simp only [ha, Except.mapError, bind, Except.bind, Except.error.injEq] at h
    rw [← h]
    rfl
  | ok address =>
    cases hs : headers.sent with
    | error f' =>
      simp only [ha, hs, Except.mapError, bind, Except.bind, Except.error.injEq] at h
      exact h ▸ Headers.isTrouble_of_sent hs
    | ok sent => simp [ha, hs, Except.mapError, bind, Except.bind, pure, Except.pure] at h

namespace Exchange

/-- What becomes of what comes back. -/
def settle (o : Outgoing) : Return → Flow TransportResult
  | .ok r => settleResponse o r
  | .error (.inl f) => settleFault o f
  | .error (.inr failure) => .escape (.inr failure)

/-- What a response brings back. One that leads to a further request goes on with it when the session
does so. -/
def responded (follows : Bool) (request : Request) (next : Request → Flow Return)
    (response : Response) : Flow Return :=
  match response.location? with
  | none => .finish (.ok response)
  | some location =>
    match request.redirected response.status location with
    | .error f => .finish (.error (.inl f))
    | .ok r => if follows then next r else .finish (.ok response)

/-- What an answer brings back. -/
def returned (session : SessionView) (request : Request) (next : Request → Flow Return) :
    Answer → Flow Return
  | .interruption => .interrupt
  | .fault cause => .finish (.error cause)
  | .response status headers body =>
    let response : Response := ⟨status, request.address, headers, body⟩
    if request.address.scheme.isEmpty then .finish (.error (.inl (ownerFault request.address)))
    else .hear session.place response (responded session.followsRedirects request next response)

/-- A request with all that redirects make of it. -/
def journey (session : SessionView) : Nat → Request → Flow Return
  | 0, request =>
    .send session.place request
      (returned session request fun _ => .finish (.error (.inl redirectFault)))
  | more + 1, request =>
    .send session.place request (returned session request (journey session more))

/-- What the session does with a request. -/
def session (o : Outgoing) (body : Option String) : Flow Return :=
  .session fun view => .client fun c =>
    match Request.prepare o.method o.url o.headers body c.timeout with
    | .error f => .finish (.error (.inl f))
    | .ok request =>
      if view.isClosed then .finish (.error (.inl closedFault))
      else journey view Request.redirectLimit request

variable {o : Outgoing}

theorem settleFault_eq {f : Fault} (h : f.isTrouble = false) : settleFault o f = Flow.failWith f := by
  rcases f with ⟨kind, message⟩
  cases kind with
  | timeout phase => cases h
  | network trouble => cases h
  | _ => rfl

theorem afterResponse_eq (o : Outgoing) (follows : Bool) (request : Request)
    (next : Request → Flow Return) (r : Response) :
    afterResponse o follows request (fun r => (next r).bind (settle o)) r =
      (responded follows request next r).bind (settle o) := by
  unfold afterResponse responded
  cases r.location? with
  | none => rfl
  | some location =>
    dsimp only
    cases request.redirected r.status location with
    | error f => rfl
    | ok r => cases follows <;> rfl

theorem afterAnswer_eq (o : Outgoing) (session : SessionView) (request : Request)
    (next : Request → Flow Return) (a : Answer) :
    afterAnswer o session request (fun r => (next r).bind (settle o)) a =
      (returned session request next a).bind (settle o) := by
  cases a with
  | interruption => rfl
  | fault cause =>
    cases cause with
    | inl f => rfl
    | inr failure => rfl
  | response status headers body =>
    unfold afterAnswer returned
    dsimp only
    split
    · rfl
    · exact congrArg (Flow.hear _ _) (afterResponse_eq o _ request next _)

theorem follow_eq (o : Outgoing) (session : SessionView) (more : Nat) (request : Request) :
    follow o session more request = (journey session more request).bind (settle o) := by
  induction more generalizing request with
  | zero =>
    refine congrArg (Flow.send session.place request) (funext fun a => ?_)
    exact afterAnswer_eq o session request (fun _ => .finish (.error (.inl redirectFault))) a
  | succ more ih =>
    refine congrArg (Flow.send session.place request) (funext fun a => ?_)
    rw [← afterAnswer_eq, funext ih]

/-- A request whose document can be written is announced, and settled when the session returns. -/
theorem flow_eq {body : Option String} (h : writeContent o = .ok body) :
    flow o = .log { level := .debug, source := .client, message := o.description }
      ((session o body).bind (settle o)) := by
  unfold flow
  rw [h]
  refine congrArg (Flow.log _) (congrArg Flow.session (funext fun view => ?_))
  refine congrArg Flow.client (funext fun c => ?_)
  dsimp only
  cases hr : Request.prepare o.method o.url o.headers body c.timeout with
  | error f => exact (settleFault_eq (Request.isTrouble_of_prepare hr)).symm
  | ok request =>
    cases view.isClosed with
    | true => rfl
    | false => exact follow_eq o _ _ _

/-! What the flow of a request comes to -/

theorem journey_hears {session : SessionView} {more : Nat} {request : Request} {as : List Answer}
    {x : Except (Fault ⊕ Failure) Return} (h : (journey session more request).Hears as x) :
    ∃ ret, x = .ok ret := by
  have hback (next : Request → Flow Return) {request : Request} {a : Answer} {as : List Answer}
      (hnext : ∀ r as, (next r).Hears as x → ∃ ret, x = .ok ret)
      (h : (returned session request next a).Hears as x) : ∃ ret, x = .ok ret := by
    cases a with
    | interruption => exact h.elim
    | fault cause => exact ⟨_, h.2⟩
    | response status headers body =>
      unfold returned at h
      dsimp only at h
      split at h
      · exact ⟨_, h.2⟩
      · unfold responded at h
        split at h
        · exact ⟨_, h.2⟩
        · split at h
          · exact ⟨_, h.2⟩
          · split at h
            · exact hnext _ _ h
            · exact ⟨_, h.2⟩
  induction more generalizing request as with
  | zero =>
    obtain ⟨a, rest, rfl, h⟩ := h
    exact hback (fun _ => .finish _) (fun _ _ h => ⟨_, h.2⟩) h
  | succ more ih =>
    obtain ⟨a, rest, rfl, h⟩ := h
    exact hback (journey session more) (fun _ _ h => ih h) h

/-- Whatever the session raises is returned. -/
theorem session_hears {body : Option String} {as : List Answer} {x : Except (Fault ⊕ Failure) Return}
    (h : (session o body).Hears as x) : ∃ ret, x = .ok ret := by
  obtain ⟨view, c, h⟩ := h
  dsimp only at h
  split at h
  · exact ⟨_, h.2⟩
  · split at h
    · exact ⟨_, h.2⟩
    · exact journey_hears h

/-- What a request comes to when the session has returned. -/
inductive Settles : Return → Except (Fault ⊕ Failure) TransportResult → Prop where
  | judged (r : Response) (t : TransportResult) (h : Judged r t) : Settles (.ok r) (.ok t)
  /-- The body cannot even be called malformed. -/
  | unread (r : Response) (f : Fault) (h : readDocument r.body = .error f) :
    Settles (.ok r) (.error (.inl f))
  | troubled (f : Fault) (failure : Failure) (h : f.isTrouble = true) (hkind : failure.kind = .network)
      (hcls : failure.cls = .timeout ∨ failure.cls = .connection) (hcode : failure.statusCode = none) :
    Settles (.error (.inl f)) (.ok ⟨none, none, some failure⟩)
  | raised (cause : Fault ⊕ Failure) (h : ∀ f, cause = .inl f → f.isTrouble = false) :
    Settles (.error cause) (.error cause)

theorem settle_hears {ret : Return} {as : List Answer} {x : Except (Fault ⊕ Failure) TransportResult}
    (h : (settle o ret).Hears as x) : as = [] ∧ Settles ret x := by
  cases ret with
  | ok r =>
    change (settleResponse o r).Hears as x at h
    unfold settleResponse at h
    rcases classify_cases o r with ⟨f, hf, hc⟩ | ⟨line, t, hc, hj⟩
    · rw [hc] at h
      obtain ⟨rfl, rfl⟩ := h
      exact ⟨rfl, .unread r f hf⟩
    · rw [hc] at h
      obtain ⟨rfl, rfl⟩ := h
      exact ⟨rfl, .judged r t hj⟩
  | error cause =>
    cases cause with
    | inr failure =>
      obtain ⟨rfl, rfl⟩ := h
      exact ⟨rfl, .raised _ (by simp)⟩
    | inl f =>
      change (settleFault o f).Hears as x at h
      unfold settleFault at h
      split at h
      · rename_i phase hk
        obtain ⟨c, rfl, rfl⟩ := h
        exact ⟨rfl, .troubled f _ (by simp [Fault.isTrouble, hk]) rfl (.inl rfl) rfl⟩
      · rename_i trouble hk
        obtain ⟨rfl, rfl⟩ := h
        exact ⟨rfl, .troubled f _ (by simp [Fault.isTrouble, hk]) rfl (.inr rfl) rfl⟩
      · rename_i ht hn
        obtain ⟨rfl, rfl⟩ := h
        refine ⟨rfl, .raised _ ?_⟩
        rintro _ ⟨⟩
        unfold Fault.isTrouble
        split
        · rename_i phase hk
          exact absurd hk (ht phase)
        · rename_i trouble hk
          exact absurd hk (hn trouble)
        · rfl

/-- A request comes to what becomes of the return of the session, which has got all the answers. -/
theorem flow_hears {body : Option String} (hw : writeContent o = .ok body) {as : List Answer}
    {x : Except (Fault ⊕ Failure) TransportResult} (h : (flow o).Hears as x) :
    ∃ ret, (session o body).Hears as (.ok ret) ∧ Settles ret x := by
  rw [flow_eq hw] at h
  rcases Flow.Hears.of_bind h with ⟨ret, before, after, rfl, hret, hafter⟩ | ⟨cause, -, hcause⟩
  · obtain ⟨rfl, hx⟩ := settle_hears hafter
    exact ⟨ret, by rwa [List.append_nil], hx⟩
  · obtain ⟨ret, hret⟩ := session_hears hcause
    cases hret

end Exchange

end Storefront
