import Storefront.Proofs.Classification
import Storefront.Proofs.Plays
import Storefront.Proofs.Redirects
import Storefront.Proofs.Unwritable

/-! Bodies that cannot be sent. A body that becomes no document is refused in the call. A body whose
document has a part without a written form is accepted, and what is wrong with it is delivered as the
result of the request. -/
namespace Storefront

/-! Tasks that end with something unhandled as soon as they go on -/

/-- A task that stands there ends so, or is cancelled before. -/
def Stand.Escapes (cause : Fault ⊕ Failure) : Stand → Prop
  | .going f => f = .escape cause ∨ f = .interrupt
  | .ended e => e = .escaped cause ∨ e = .interrupted

structure Scene.Escapes (s : Scene) (i : Nat) (cause : Fault ⊕ Failure) : Prop where
  stand : ∃ σ, s.stand? i = some σ ∧ σ.Escapes cause
  deeds : s.loop.deeds i = []
  length : i < s.loop.jobs.length

theorem Turn.escapes {l : Loop} {σ σ' : Stand} {ds : List Deed} {cause : Fault ⊕ Failure}
    (m : Turn l σ ds σ') (h : σ.Escapes cause) : ds = [] ∧ σ'.Escapes cause := by
  cases m with
  | rest => exact ⟨rfl, h⟩
  | interrupt f => exact ⟨rfl, .inr rfl⟩
  | ending f e he =>
    refine ⟨rfl, ?_⟩
    rcases h with rfl | rfl
    · exact .inl (Option.some.inj he).symm
    · exact .inr (Option.some.inj he).symm
  | _ => rcases h with h | h <;> cases h

theorem Step.escapes {s s' : Scene} (hs : Step s s') {i : Nat} {cause : Fault ⊕ Failure}
    (h : s.Escapes i cause) : s'.Escapes i cause := by
  obtain ⟨σ, hσ, he⟩ := h.stand
  have ht := hs.turns h.length
  obtain ⟨ds, σ', hσ', hd, hm, -⟩ := ht.turn σ hσ
  obtain ⟨rfl, he'⟩ := hm.escapes he
  refine ⟨⟨σ', hσ', he'⟩, ?_, ht.length⟩
  rw [hd, h.deeds]
  rfl

theorem Steps.escapes {s s' : Scene} (hs : Steps s s') {i : Nat} {cause : Fault ⊕ Failure}
    (h : s.Escapes i cause) : s'.Escapes i cause :=
  hs.invariant (fun _ _ hs h => Step.escapes hs h) h

theorem Scene.Opens.escapes {s : Scene} {i : Nat} {st : Start} {cause : Fault ⊕ Failure}
    (h : s.Opens i st) (hst : st.flow = .escape cause) : s.Escapes i cause :=
  ⟨⟨_, h.stand?, .inl hst⟩, h.deeds, h.length⟩

/-- When nothing is left to do, such a task has ended. -/
theorem Scene.Escapes.ended {s : Scene} {i : Nat} {cause : Fault ⊕ Failure} (h : s.Escapes i cause)
    (hr : Reachable s) (hidle : s.focus = .idle) (hempty : s.loop.ready = []) :
    ∃ e, s.stand? i = some (.ended e) := by
  obtain ⟨σ, hσ, he⟩ := h.stand
  have hb : s.focus.task? ≠ some i := by simp [hidle, Focus.task?]
  obtain ⟨j, hj, rfl⟩ := Scene.job_of_stand? hσ hb
  rcases hr.rests hj hidle hempty with ⟨e, hp⟩ | ⟨w, hp⟩
  · exact ⟨e, by rw [hσ, hp]; rfl⟩
  · rw [hp] at he
    rcases he with he | he
    · cases w <;> cases he
    · cases w <;> cases he

/-! What becomes of a call -/

/-- The session does not send a request of this text at all. -/
def Exchange.IsUnsendable (o : Outgoing) (text : Option String) (f : Fault) : Prop :=
  (∃ timeout, Request.prepare o.method o.url o.headers text timeout = .error f) ∨ f = closedFault

namespace Exchange

theorem journey_not_unanswered (view : SessionView) (more : Nat) (r : Request)
    {x : Except (Fault ⊕ Failure) Return} : ¬ (journey view more r).Hears [] x := by
  cases more with
  | zero =>
    rintro ⟨a, rest, h, -⟩
    cases h
  | succ more =>
    rintro ⟨a, rest, h, -⟩
    cases h

theorem session_unanswered {o : Outgoing} {text : Option String} {ret : Return}
    (h : (session o text).Hears [] (.ok ret)) :
    ∃ f, ret = .error (.inl f) ∧ f.isTrouble = false ∧ IsUnsendable o text f := by
  obtain ⟨view, c, h⟩ := h
  dsimp only at h
  split at h
  · rename_i f hf
    exact ⟨f, Except.ok.inj h.2, Request.isTrouble_of_prepare hf, .inl ⟨_, hf⟩⟩
  · split at h
    · exact ⟨closedFault, Except.ok.inj h.2, rfl, .inr rfl⟩
    · exact absurd h (journey_not_unanswered _ _ _)

end Exchange

/-- Whoever has sent nothing was not answered. -/
theorem AnsweredSteps.length_answers {i : Nat} {s₀ s : Scene} {answers : List Answer}
    (h : AnsweredSteps i s₀ answers s) (h₀ : s₀.loop.deeds i = []) :
    answers.length = (s.loop.requests i).length := by
  induction h with
  | refl =>
    unfold Loop.requests
    rw [h₀]
    rfl
  | tail as s s' ds h hs hd ih =>
    unfold Loop.requests at ih ⊢
    rw [hd, List.filterMap_append, List.length_append, List.length_append, List.length_map, ih]

/-- What a request delivers that ends with a fault. -/
def Outgoing.failed (o : Outgoing) (callback : Option Callback) (f : Fault) : Delivery :=
  .transport ((Loop.requestTicket o callback).resultOf (.error (.inl f)))

/-- A request is sent with its text. Unless it is cancelled, it is not sent only when the session
cannot send it, and then it delivers what the session has said. It does deliver once its answers have
come. -/
structure Scene.Sends (s : Scene) (i : Nat) (o : Outgoing) (callback : Option Callback)
    (text : Option String) : Prop where
  sent : ∀ r, (s.loop.requests i).head? = some r → r.body = text
  unsent : s.loop.requests i = [] → ∀ d, s.loop.outcome? i = some d →
    s.loop.isCancelled i = false →
    ∃ f, Exchange.IsUnsendable o text f ∧ d = o.failed callback f
  delivers : callback ≠ some .abort → s.focus = .idle → s.loop.ready = [] → ¬ s.loop.Lacks i →
    ∃ d, s.loop.outcome? i = some d

/-- A request is not sent. Unless it is cancelled, it delivers a fault, at the latest when nothing is
left to do. -/
structure Scene.Reports (s : Scene) (i : Nat) (o : Outgoing) (callback : Option Callback)
    (f : Fault) : Prop where
  unsent : s.loop.requests i = []
  result : ∀ d, s.loop.outcome? i = some d → s.loop.isCancelled i = false → d = o.failed callback f
  delivers : callback ≠ some .abort → s.focus = .idle → s.loop.ready = [] →
    ∃ d, s.loop.outcome? i = some d

section
variable {s₀ s : Scene} {i : Nat} {o : Outgoing} {callback : Option Callback}

theorem Steps.sends (hs : Steps s₀ s) (hr : Reachable s₀) (ho : s₀.Opens i (.request o callback))
    {text : Option String} (hw : Exchange.writeContent o = .ok text) :
    s.Sends i o callback text := by
  obtain ⟨answers, ha⟩ := hs.answered i
  refine ⟨?_, ?_, ha.request_delivers hr ho⟩
  · intro r hsent
    obtain ⟨body, timeout, hb, hprepare⟩ := (ho.trail rfl hs).prepared hsent
    obtain rfl := Except.ok.inj (hb.symm.trans hw)
    exact Request.prepare_body hprepare
  · intro hnone d hd hn
    have hlength := ha.length_answers ho.deeds
    rw [hnone] at hlength
    obtain rfl := List.length_eq_zero_iff.mp hlength
    obtain ⟨ret, x, hret, hsettles, -, rfl⟩ := ha.request_delivered hr ho hw hd hn
    obtain ⟨f, rfl, hf, hunsendable⟩ := Exchange.session_unanswered hret
    refine ⟨f, hunsendable, ?_⟩
    cases hsettles with
    | troubled _ failure ht => cases ht.symm.trans hf
    | raised cause => rfl

theorem Start.request_escapes {f : Fault} (hw : Exchange.writeContent o = .error f) :
    (request o callback).flow = .escape (.inl f) := by
  unfold request Exchange.flow
  rw [hw]
  rfl

theorem Steps.reports (hs : Steps s₀ s) (hr : Reachable s₀) (ho : s₀.Opens i (.request o callback))
    {f : Fault} (hw : Exchange.writeContent o = .error f) : s.Reports i o callback f := by
  have hescapes := hs.escapes (ho.escapes (Start.request_escapes hw))
  refine ⟨?_, ?_, ?_⟩
  · unfold Loop.requests
    rw [hescapes.deeds]
    rfl
  · intro d hd hn
    obtain ⟨answers, ha⟩ := hs.answered i
    obtain ⟨x, -, hears, rfl⟩ := ha.delivered hr ho hd hn
    rw [Start.request_escapes hw] at hears
    obtain ⟨-, rfl⟩ := hears
    rfl
  · intro hc hidle hempty
    have hr' := hr.trans hs
    obtain ⟨e, he⟩ := hescapes.ended hr' hidle hempty
    have hticket := (Steps.ticket? hs ho.length).trans ho.ticket?
    exact ⟨_, hr'.delivers he hticket hc hidle hempty⟩

end

theorem Client.startCall_eq (c : Client) (call : Call) (callback : Option Callback) :
    c.startCall call callback = match call.body.content? with
      | .error e => .error (.body e)
      | .ok content => .ok (.request (c.outgoing call content) callback) := by
  unfold startCall
  rw [prepare_eq]
  cases call.body.content? with
  | error e => rfl
  | ok content => rfl

/-- In every run, for every body. A body that becomes no document is refused in the call, and nothing
has happened then. A body whose document has no part that cannot be written is sent as it is written.
A body with such a part, at whatever depth, is accepted nevertheless: nothing is sent, and the fault
of a part is delivered as the result of the request. -/
theorem unwritable_body_is_delivered {s : Scene} (hr : Reachable s) (hf : s.focus.IsFree) (call : Call)
    (callback : Option Callback) :
    (∀ e, call.body.content? = .error e → (e.kind = .badType ∨ ∃ dump, e = .dump dump) ∧
      s.loop.attempt true (s.loop.client.startCall call callback) = (.error (.body e), s.loop) ∧
      s.play (.request call callback) = s) ∧
    ∀ content, call.body.content? = .ok content → ∀ s', Steps (s.play (.request call callback)) s' →
      ((∀ u, ¬ call.body.Has u) → ∃ text,
        Exchange.writeContent (s.loop.client.outgoing call content) = .ok text ∧
        s'.Sends s.loop.jobs.length (s.loop.client.outgoing call content) callback text) ∧
      ((∃ u, call.body.Has u) → ∃ u, call.body.Has u ∧
        s'.Reports s.loop.jobs.length (s.loop.client.outgoing call content) callback u.fault) := by
  constructor
  · intro e he
    refine ⟨?_, ?_, ?_⟩
    · cases e with
      | dump dump => exact .inr ⟨dump, rfl⟩
      | notSerializable typeName => exact .inl rfl
      | notCallable typeName => exact .inl rfl
    · rw [Client.startCall_eq, he]
      rfl
    · change s.open? (s.loop.client.startCall call callback) = s
      rw [Client.startCall_eq, he]
      rfl
  · intro content hc s' hs
    have hplay : s.play (.request call callback) =
        ⟨(s.loop.start (.request (s.loop.client.outgoing call content) callback)).2, s.focus⟩ := by
      change s.open? (s.loop.client.startCall call callback) = _
      rw [Client.startCall_eq, hc]
      exact s.open?_of_free hf _
    rw [hplay] at hs
    have ho := Scene.Opens.start (l := s.loop) (f := s.focus) hr hf
      (.request (s.loop.client.outgoing call content) callback)
    have hr' : Reachable _ := hr.act hf (.start (.request (s.loop.client.outgoing call content) callback))
    obtain ⟨hwrites, hfails⟩ := Client.writeContent_outgoing (c := s.loop.client) hc
    constructor
    · intro hnot
      obtain ⟨text, hw⟩ := hwrites hnot
      exact ⟨text, hw, hs.sends hr' ho hw⟩
    · intro hhas
      obtain ⟨u, hu, hw⟩ := hfails hhas
      exact ⟨u, hu, hs.reports hr' ho hw⟩

/-! Bodies with a set in them -/

/-- A call that writes something about a customer. -/
def Call.writing (body : Body) : Call where
  method := .post
  url := "https://shop.example/api/customers"
  body := body

/-- A table that has a list with a set in it. -/
def Body.nested : Body := .members [(.text "tags", .items [.scalar (.str "a"), .foreign "set"])]

def Content.nested : Content :=
  .members [(.text "tags", .items [.scalar (.str "a"), .foreign "set"])]

theorem Content.nested_has {room : Nat} {u : Unwritable} :
    nested.Has (room + 2) u ↔ u = .value "set" := by
  constructor
  · intro h
    cases h with
    | key _ _ k c _ hm hk =>
      obtain ⟨rfl, -⟩ := Prod.mk.inj (List.mem_singleton.mp hm)
      cases hk
    | member _ _ k c _ hm h =>
      obtain ⟨-, rfl⟩ := Prod.mk.inj (List.mem_singleton.mp hm)
      cases h with
      | item _ _ c _ hc h =>
        rcases List.mem_pair.mp hc with rfl | rfl
        · cases h with
          | scalar _ v e h => cases h
        · cases h
          rfl
  · rintro rfl
    refine .member _ _ _ _ _ List.mem_cons_self (.item _ _ (.foreign "set") _ ?_ (.value _ "set"))
    exact List.mem_cons_of_mem _ List.mem_cons_self

theorem Body.nested_has {u : Unwritable} : nested.Has u ↔ u = .value "set" := by
  have hnested := @Content.nested_has 898 u
  constructor
  · rintro ⟨c, hc, h⟩
    obtain rfl := Option.some.inj (Except.ok.inj hc)
    exact hnested.mp h
  · intro h
    exact ⟨.nested, rfl, hnested.mpr h⟩

/-- The request for a body that becomes a document. -/
def Outgoing.writing (body : Body) (content : Content) : Outgoing :=
  Client.outgoing (.named "alice") (.writing body) (some content)

/-- The end of a call with such a body. -/
def Scene.written (body : Body) (content : Content) : Scene :=
  .closing (.named "alice") [] (.request (.writing body content) none)

def Fault.ofSet : Fault := ⟨.badType, "Object of type set is not JSON serializable"⟩

/-- The set in a table is reported, and nothing is sent. -/
theorem unwritable_body_is_delivered_of_nested_set :
    (Scene.written .nested .nested).loop.requests 0 = [] ∧
    (Scene.written .nested .nested).loop.outcome? 0 =
      some ((Outgoing.writing .nested .nested).failed none .ofSet) := by
  obtain ⟨-, haccepted⟩ := unwritable_body_is_delivered (Reachable.initial (.named "alice") true [])
    trivial (.writing .nested) none
  obtain ⟨-, hhas⟩ := haccepted _ rfl _ (Scene.closing_steps (.named "alice") []
    (.request (.writing .nested .nested) none))
  obtain ⟨u, hu, hreports⟩ := hhas ⟨.value "set", Body.nested_has.mpr rfl⟩
  obtain rfl := Body.nested_has.mp hu
  obtain ⟨d, hd⟩ := hreports.delivers (by simp) rfl (by decide +kernel)
  exact ⟨hreports.unsent, hd.trans (congrArg some (hreports.result d hd (by decide +kernel)))⟩

/-- An object whose document is a set is accepted as well, and what is wrong with it is not raised in
the call but delivered as a failure. -/
theorem set_is_not_refused : ∃ f,
    Client.startCall (.named "alice") (.writing (.producer (.foreign "set"))) none =
      .ok (.request (.writing (.producer (.foreign "set")) (.foreign "set")) none) ∧
    Reachable (.written (.producer (.foreign "set")) (.foreign "set")) ∧
    (Scene.written (.producer (.foreign "set")) (.foreign "set")).loop.outcome? 0 =
      some (.transport ⟨none, none, some f⟩) ∧
    f.kind = .unexpected ∧ f.cause = some (.inl .ofSet) := by
  have hreports := (Scene.closing_steps (.named "alice") [] (.request (.writing (.producer
    (.foreign "set")) (.foreign "set")) none)).reports (f := .ofSet) (Scene.opening_reachable _ _ _)
      (Scene.opening_opens _ _ _) rfl
  obtain ⟨d, hd⟩ := hreports.delivers (by simp) rfl (by decide +kernel)
  obtain rfl := hreports.result d hd (by decide +kernel)
  exact ⟨_, rfl, (Scene.opening_reachable _ _ _).trans (Scene.closing_steps _ _ _), hd, rfl, rfl⟩

end Storefront
