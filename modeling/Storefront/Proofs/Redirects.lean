import Storefront.Proofs.Binding
import Storefront.Proofs.Openings

/-! What is sent for a request. The first thing sent is the request itself, and everything after it is
where a redirect leads, so nothing is sent a second time of its own accord, and whatever is sent
carries the token headers of the request. -/
namespace Storefront

/-- What a task has sent, in order. -/
def Loop.requests (l : Loop) (task : Nat) : List Request := (l.deeds task).filterMap Deed.request?

/-- Whatever a flow sends, it extends what was sent before in an allowed way. -/
def Flow.Extends {α : Type} (T : List Request → Prop) : Flow α → List Request → Prop
  | .finish _, _ => True
  | .escape _, _ => True
  | .interrupt, _ => True
  | .log _ next, rs => next.Extends T rs
  | .client next, rs => ∀ c, (next c).Extends T rs
  | .session next, rs => ∀ v, (next v).Extends T rs
  | .send _ r next, rs => T (rs ++ [r]) ∧ ∀ a, (next a).Extends T (rs ++ [r])
  | .hear _ _ next, rs => next.Extends T rs
  | .call _ next, rs => ∀ r, (next r).Extends T rs
  | .join _ next, rs => ∀ d, (next d).Extends T rs
  | .gate _ _ next, rs => next.Extends T rs

theorem Flow.Extends.bind {α β : Type} {T : List Request → Prop} {f : Flow α} {g : α → Flow β}
    {rs : List Request} (hf : f.Extends T rs) (hg : ∀ a rs, (g a).Extends T rs) :
    (f.bind g).Extends T rs := by
  induction f generalizing rs with
  | finish a => exact hg a rs
  | escape cause => trivial
  | interrupt => trivial
  | log line next ih => exact ih hf
  | client next ih => exact fun c => ih c (hf c)
  | session next ih => exact fun v => ih v (hf v)
  | send place r next ih => exact ⟨hf.1, fun a => ih a (hf.2 a)⟩
  | hear place r next ih => exact ih hf
  | call o next ih => exact fun r => ih r (hf r)
  | join id next ih => exact fun d => ih d (hf d)
  | gate name stubborn next ih => exact ih hf

/-- What a task has sent is allowed, and whatever it still sends will be. -/
structure Scene.Extends (s : Scene) (task : Nat) (T : List Request → Prop) : Prop where
  sent : T (s.loop.requests task)
  stand : ∀ f, s.stand? task = some (.going f) → f.Extends T (s.loop.requests task)
  length : task < s.loop.jobs.length

theorem Turn.extends {T : List Request → Prop} {l : Loop} {σ σ' : Stand} {ds : List Deed}
    {rs : List Request} (m : Turn l σ ds σ') (h : ∀ f, σ = .going f → f.Extends T rs) (hT : T rs) :
    T (rs ++ ds.filterMap Deed.request?) ∧
      ∀ f, σ' = .going f → f.Extends T (rs ++ ds.filterMap Deed.request?) := by
  have hquiet {ds : List Deed} {σ' : Stand} (hn : ds.filterMap Deed.request? = [])
      (hg : ∀ f, σ' = .going f → f.Extends T rs) : T (rs ++ ds.filterMap Deed.request?) ∧
        ∀ f, σ' = .going f → f.Extends T (rs ++ ds.filterMap Deed.request?) := by
    rw [hn, List.append_nil]
    exact ⟨hT, hg⟩
  cases m with
  | send place r next p =>
    obtain ⟨hsent, hnext⟩ := h _ rfl
    refine ⟨hsent, ?_⟩
    rintro f ⟨⟩
    unfold Reply.answered
    split
    · exact hnext p.answer
    · exact hnext p.answer
  | rest => exact hquiet rfl h
  | log line next =>
    refine hquiet rfl ?_
    rintro f ⟨⟩
    exact h (.log line next) rfl
  | client next =>
    refine hquiet rfl ?_
    rintro f ⟨⟩
    exact h _ rfl l.client
  | session next v =>
    refine hquiet rfl ?_
    rintro f ⟨⟩
    exact h _ rfl v
  | hear place r next =>
    refine hquiet rfl ?_
    rintro f ⟨⟩
    exact h (.hear place r next) rfl
  | call o next =>
    refine hquiet rfl ?_
    rintro f ⟨⟩ d
    exact h _ rfl d.asTransport
  | join id next d hd =>
    refine hquiet rfl ?_
    rintro f ⟨⟩
    exact h _ rfl d
  | gate name stubborn next =>
    refine hquiet rfl ?_
    rintro f ⟨⟩
    exact h (.gate name stubborn next) rfl
  | interrupt f =>
    refine hquiet rfl ?_
    rintro f ⟨⟩
    trivial
  | ending f e he =>
    refine hquiet rfl ?_
    rintro f ⟨⟩

theorem Step.extends {s s' : Scene} (hs : Step s s') {i : Nat} {T : List Request → Prop}
    (h : s.Extends i T) : s'.Extends i T := by
  have ht := hs.turns h.length
  obtain ⟨σ, hσ⟩ := Scene.exists_stand? h.length
  obtain ⟨ds, σ', hσ', hd, hm, -⟩ := ht.turn σ hσ
  have hrequests : s'.loop.requests i = s.loop.requests i ++ ds.filterMap Deed.request? := by
    unfold Loop.requests
    rw [hd, List.filterMap_append]
  obtain ⟨hsent, hstand⟩ := hm.extends (fun f hf => h.stand f (by rw [hσ, hf])) h.sent
  refine ⟨hrequests ▸ hsent, fun f hf => ?_, ht.length⟩
  rw [hrequests]
  exact hstand f (Option.some.inj (hσ'.symm.trans hf))

theorem Scene.Opens.extends {s : Scene} {i : Nat} {st : Start} {T : List Request → Prop}
    (h : s.Opens i st) (hT : T []) (hst : st.flow.Extends T []) : s.Extends i T := by
  have hnone : s.loop.requests i = [] := by
    unfold Loop.requests
    rw [h.deeds]
    rfl
  refine ⟨hnone ▸ hT, fun f hf => ?_, h.length⟩
  rw [hnone, ← Stand.going.inj (Option.some.inj (h.stand?.symm.trans hf))]
  exact hst

theorem Request.prepare_body {method : Method} {url : String} {headers : Headers}
    {body : Option String} {timeout : Option Number} {r : Request}
    (h : Request.prepare method url headers body timeout = .ok r) : r.body = body := by
  obtain ⟨_, hr⟩ := Request.prepare_ok h
  exact hr.body

/-- A redirect keeps the body or leaves it behind. -/
theorem Request.redirected_body {r r' : Request} {status : Int} {location : String}
    (h : r.redirected status location = .ok r') : r'.body = r.body ∨ r'.body = none := by
  unfold Request.redirected at h
  cases ha : Request.locate r.address location with
  | error f => simp [ha, bind, Except.bind] at h
  | ok address =>
    simp only [ha, bind, Except.bind, pure, Except.pure] at h
    split at h
    · rw [← Except.ok.inj h]
      exact .inr rfl
    · rw [← Except.ok.inj h]
      exact .inl rfl

namespace Exchange

/-- What can be sent for a request: the request, then where a redirect of it leads, and so on. -/
inductive Trail (o : Outgoing) : List Request → Prop where
  | none : Trail o []
  | first (body : Option String) (timeout : Option Number) (r : Request)
      (hb : writeContent o = .ok body)
      (h : Request.prepare o.method o.url o.headers body timeout = .ok r) : Trail o [r]
  | next (rs : List Request) (r r' : Request) (response : Response) (location : String)
      (h : Trail o (rs ++ [r])) (hl : response.location? = some location)
      (hr : r.redirected response.status location = .ok r') : Trail o (rs ++ [r] ++ [r'])

variable {o : Outgoing}

theorem settleFault_extends (f : Fault) (rs : List Request) :
    (settleFault o f).Extends (Trail o) rs := by
  unfold settleFault
  split
  · exact fun _ => trivial
  · trivial
  · trivial

theorem settleResponse_extends (r : Response) (rs : List Request) :
    (settleResponse o r).Extends (Trail o) rs := by
  unfold settleResponse
  split
  · trivial
  · trivial

theorem afterResponse_extends (follows : Bool) {request : Request} {rs : List Request}
    (h : Trail o (rs ++ [request])) {next : Request → Flow TransportResult}
    (hnext : ∀ r, Trail o (rs ++ [request] ++ [r]) → (next r).Extends (Trail o) (rs ++ [request]))
    (response : Response) :
    (afterResponse o follows request next response).Extends (Trail o) (rs ++ [request]) := by
  unfold afterResponse
  split
  · exact settleResponse_extends _ _
  · rename_i location hl
    split
    · exact settleFault_extends _ _
    · rename_i r hr
      split
      · exact hnext r (.next rs request r _ location h hl hr)
      · exact settleResponse_extends _ _

theorem afterAnswer_extends (session : SessionView) {request : Request} {rs : List Request}
    (h : Trail o (rs ++ [request])) {next : Request → Flow TransportResult}
    (hnext : ∀ r, Trail o (rs ++ [request] ++ [r]) → (next r).Extends (Trail o) (rs ++ [request]))
    (a : Answer) : (afterAnswer o session request next a).Extends (Trail o) (rs ++ [request]) := by
  cases a with
  | interruption => trivial
  | fault cause =>
    cases cause with
    | inl f => exact settleFault_extends f _
    | inr failure => trivial
  | response status headers body =>
    unfold afterAnswer
    dsimp only
    split
    · exact settleFault_extends _ _
    · exact afterResponse_extends _ h hnext _

theorem follow_extends (session : SessionView) (more : Nat) {request : Request} {rs : List Request}
    (h : Trail o (rs ++ [request])) : (follow o session more request).Extends (Trail o) rs := by
  -- on the redirects that may still be followed; each adds one request to what was sent
  induction more generalizing request rs with
  | zero => exact ⟨h, afterAnswer_extends session h fun _ _ => settleFault_extends redirectFault _⟩
  | succ more ih => exact ⟨h, afterAnswer_extends session h fun _ hr => ih hr⟩

theorem flow_extends (o : Outgoing) : (flow o).Extends (Trail o) [] := by
  unfold flow
  cases hb : writeContent o with
  | error f => trivial
  | ok body =>
    intro v c
    dsimp only
    split
    · trivial
    · rename_i request hr
      split
      · trivial
      · exact follow_extends _ _ (.first body c.timeout request hb hr)

/-- The first thing sent is the request itself. -/
theorem Trail.prepared {rs : List Request} (h : Trail o rs) {r : Request} (hr : rs.head? = some r) :
    ∃ body timeout, writeContent o = .ok body ∧
      Request.prepare o.method o.url o.headers body timeout = .ok r := by
  induction h with
  | none => cases hr
  | first body timeout r' hb h =>
    obtain rfl := Option.some.inj hr
    exact ⟨body, timeout, hb, h⟩
  | next rs r₁ r₂ response location h hl hr' ih =>
    apply ih
    rwa [List.head?_append_of_ne_nil _ (by simp)] at hr

/-- What a redirect does not leave behind is in everything that is sent. -/
theorem Trail.values {rs : List Request} (h : Trail o rs) {name : String}
    (hname : Headers.isDropped name = false) :
    ∀ r ∈ rs, Headers.valuesIn name r.headers = o.headers.values name := by
  induction h with
  | none => simp
  | first body timeout r hb h =>
    have hne : Headers.lowerName "Authorization" ≠ Headers.lowerName name := by
      intro he
      have hnot := List.any_eq_false.mp hname "Authorization" (by simp)
      exact hnot (beq_iff_eq.mpr he)
    simpa using Request.prepare_values h (.inl hne)
  | next rs r r' response location h hl hr ih =>
    have hlast := ih r (by simp)
    intro x hx
    rcases List.mem_append.mp hx with hx | hx
    · exact ih x hx
    · rw [List.mem_singleton.mp hx, Request.redirected_values hr hname, hlast]

theorem Trail.tokens {rs : List Request} (h : Trail o rs) : ∀ r ∈ rs, r.tokens = o.tokens :=
  h.values (by decide +kernel)

/-- Whatever is sent for a request says what the request says, or nothing. -/
theorem Trail.body {rs : List Request} (h : Trail o rs) :
    ∀ r ∈ rs, writeContent o = .ok r.body ∨ r.body = Option.none := by
  induction h with
  | none => simp
  | first body timeout r hb h =>
    intro x hx
    rw [List.mem_singleton.mp hx, Request.prepare_body h]
    exact .inl hb
  | next rs r r' response location h hl hr ih =>
    intro x hx
    rcases List.mem_append.mp hx with hx | hx
    · exact ih x hx
    · rw [List.mem_singleton.mp hx]
      rcases Request.redirected_body hr with he | he
      · rw [he]
        exact ih r (by simp)
      · exact .inr he

end Exchange

/-- What was sent for a request that was started. -/
theorem Scene.Opens.trail {s₀ s : Scene} {i : Nat} {st : Start} (ho : s₀.Opens i st) {o : Outgoing}
    (hflow : st.flow = .transport <$> Exchange.flow o) (hs : Steps s₀ s) :
    Exchange.Trail o (s.loop.requests i) := by
  have hextends : st.flow.Extends (Exchange.Trail o) [] := by
    rw [hflow]
    exact (Exchange.flow_extends o).bind fun _ _ => trivial
  have hrun : s.Extends i (Exchange.Trail o) :=
    Steps.invariant (fun _ _ hs h => Step.extends hs h) hs (ho.extends .none hextends)
  exact hrun.sent

/-- What was sent for a request that a task has made of its own. -/
theorem Reachable.trail {s : Scene} (hr : Reachable s) {i k : Nat} {o : Outgoing}
    (h : .call k o ∈ s.loop.deeds i) : Exchange.Trail o (s.loop.requests k) := by
  obtain ⟨s₀, -, hs, hopen⟩ := hr.born h
  exact hopen.trail rfl hs

end Storefront
