import Storefront.Proofs.Contract
import Storefront.Proofs.Lasting
import Storefront.Proofs.TokenHeader

/-! What can come of a request. It sends only what was prepared for it and what redirects make of
that, and it ends with what its response holds or with a failure that stands for none. -/
namespace Storefront

namespace Exchange

/-- What the result of a request can be. -/
inductive Answers (o : Outgoing) : TransportResult → Prop where
  | answered (response : Response) (line : Log.Line) (r : TransportResult)
      (h : classify o response = .ok (line, r)) : Answers o r
  | failed (f : Failure) (h : f.cls ≠ .tokenDerivation) : Answers o ⟨none, none, some f⟩

/-- A request starts no other requests. -/
def contract (P : Request → Prop) (o : Outgoing) : Contract TransportResult where
  sends := P
  calls _ := False
  ends := Answers o

/-- What redirects make of a request is like the request. -/
def Survives (P : Request → Prop) : Prop :=
  ∀ r status location r', P r → r.redirected status location = .ok r' → P r'

variable {P : Request → Prop} {o : Outgoing}

theorem settleFault_obeys (f : Fault) : (settleFault o f).Obeys (contract P o) := by
  unfold settleFault
  split
  · exact fun c => .failed _ (by simp [timeoutFailure])
  · exact .failed _ (by simp [connectionFailure])
  · trivial

theorem settleResponse_obeys (r : Response) : (settleResponse o r).Obeys (contract P o) := by
  unfold settleResponse
  split
  · trivial
  · rename_i line result h
    exact .answered r line result h

theorem afterResponse_obeys (hP : Survives P) (follows : Bool) (request : Request) (h : P request)
    {next : Request → Flow TransportResult} (hnext : ∀ r, P r → (next r).Obeys (contract P o))
    (response : Response) : (afterResponse o follows request next response).Obeys (contract P o) := by
  unfold afterResponse
  split
  · exact settleResponse_obeys _
  · split
    · exact settleFault_obeys _
    · rename_i r hr
      split
      · exact hnext r (hP _ _ _ _ h hr)
      · exact settleResponse_obeys _

theorem afterAnswer_obeys (hP : Survives P) (session : SessionView) (request : Request)
    (h : P request) {next : Request → Flow TransportResult}
    (hnext : ∀ r, P r → (next r).Obeys (contract P o)) (a : Answer) :
    (afterAnswer o session request next a).Obeys (contract P o) := by
  cases a with
  | interruption => trivial
  | fault cause =>
    cases cause with
    | inl f => exact settleFault_obeys f
    | inr failure => trivial
  | response status headers body =>
    unfold afterAnswer
    dsimp only
    split
    · exact settleFault_obeys _
    · exact afterResponse_obeys hP _ request h hnext _

theorem follow_obeys (hP : Survives P) (session : SessionView) (more : Nat) (request : Request)
    (h : P request) : (follow o session more request).Obeys (contract P o) := by
  induction more generalizing request with
  | zero =>
    exact ⟨h, afterAnswer_obeys hP session request h fun _ _ => settleFault_obeys redirectFault⟩
  | succ more ih => exact ⟨h, afterAnswer_obeys hP session request h ih⟩

theorem flow_obeys (hP : Survives P)
    (hprep : ∀ body timeout r, Request.prepare o.method o.url o.headers body timeout = .ok r → P r) :
    (flow o).Obeys (contract P o) := by
  unfold flow
  cases writeContent o with
  | error f => trivial
  | ok body =>
    intro v c
    dsimp only
    split
    · trivial
    · rename_i request hr
      split
      · trivial
      · exact follow_obeys hP _ _ request (hprep _ _ _ hr)

end Exchange

/-- What a task does that runs a request: what it sends carries the token of the request, and what it
delivers comes of the request. -/
def Exchange.taskContract (o : Outgoing) : Contract Delivery where
  sends r := r.token? = o.token?
  calls _ := False
  ends d := ∃ r, d = .transport r ∧ Exchange.Answers o r

theorem Exchange.task_obeys (o : Outgoing) :
    (Delivery.transport <$> Exchange.flow o).Obeys (Exchange.taskContract o) := by
  have hP : Exchange.Survives fun r => r.token? = o.token? := fun r status location r' h hr =>
    (Request.redirected_token? hr).trans h
  have hflow : (Exchange.flow o).Obeys (Exchange.contract (fun r => r.token? = o.token?) o) :=
    Exchange.flow_obeys hP fun body timeout r hr => Request.prepare_token? hr
  exact hflow.map (fun _ h => h) (fun _ h => h) fun r hr => ⟨r, rfl, hr⟩

/-- The requests that tasks make of their own run as requests do. -/
structure Scene.Fosters (s : Scene) : Prop where
  running : ∀ i, s.focus.task? = some i → i < s.loop.jobs.length
  unborn : ∀ i, s.loop.jobs.length ≤ i → s.loop.deeds i = []
  child : ∀ i k o, .call k o ∈ s.loop.deeds i →
    s.Keeps k (Exchange.taskContract o) ∧ s.loop.ticket? k = some (Loop.requestTicket o none)

theorem Scene.Fosters.initial (c : Client) (owned : Bool) (server : Server) (keeper : CookieKeeper) :
    (Scene.initial c owned server keeper).Fosters where
  running i h := by cases h
  unborn i _ := rfl
  child i k o h := by cases h

theorem Turn.call_mem {l : Loop} {σ σ' : Stand} {ds : List Deed} (m : Turn l σ ds σ') {k : Nat}
    {o : Outgoing} (h : .call k o ∈ ds) : k = l.jobs.length := by
  cases m with
  | call o next => exact (Deed.call.inj (List.mem_singleton.mp h)).1
  | _ => simp at h

theorem Step.fosters {s s' : Scene} (hs : Step s s') (h : s.Fosters) : s'.Fosters := by
  have hlen := hs.length
  refine ⟨?_, ?_, ?_⟩
  · intro i hi
    rcases hs.running hi with hi | hi
    · have := h.running i hi
      omega
    · omega
  · intro i hi
    have hne : s.focus.task? ≠ some i := by
      intro he
      have := h.running i he
      omega
    rw [hs.deeds hne]
    exact h.unborn i (by omega)
  · intro i k o hk
    by_cases hi : i < s.loop.jobs.length
    · obtain ⟨σ, hσ⟩ := Scene.exists_stand? hi
      obtain ⟨ds, σ', -, hd, hm, hstarts⟩ := (hs.turns hi).turn σ hσ
      rw [hd] at hk
      rcases List.mem_append.mp hk with hk | hk
      · obtain ⟨hkeeps, htick⟩ := h.child i k o hk
        exact ⟨hs.keeps hkeeps, (hs.turns hkeeps.length).ticket.trans htick⟩
      · obtain ⟨hstand, htick, hlt⟩ := hstarts k o hk
        obtain rfl := hm.call_mem hk
        have hne : s.focus.task? ≠ some s.loop.jobs.length := fun he =>
          Nat.lt_irrefl _ (h.running _ he)
        refine ⟨⟨?_, ?_, hlt⟩, htick⟩
        · intro τ hτ
          obtain rfl := Option.some.inj (hstand.symm.trans hτ)
          exact Exchange.task_obeys o
        · rw [hs.deeds hne, h.unborn _ (Nat.le_refl _)]
          simp
    · have hne : s.focus.task? ≠ some i := fun he => hi (h.running i he)
      rw [hs.deeds hne, h.unborn i (by omega)] at hk
      cases hk

theorem Reachable.fosters {s : Scene} (h : Reachable s) : s.Fosters :=
  h.invariant Scene.Fosters.initial fun _ _ hs => hs.fosters

/-- A request that a task has made of its own delivers what can come of it. -/
theorem Reachable.answers {s : Scene} (hr : Reachable s) {i k : Nat} {o : Outgoing} {d : Delivery}
    (hc : .call k o ∈ s.loop.deeds i) (ho : s.loop.outcome? k = some d) :
    ∃ r, d = .transport r ∧ Exchange.Answers o r := by
  obtain ⟨hkeeps, htick⟩ := hr.fosters.child i k o hc
  obtain ⟨t, e, hd, -, -, -, ho'⟩ := (hr.inOrder.books k).delivered (.inr (by simp [ho]))
  have ht : t = Loop.requestTicket o none :=
    Option.some.inj ((Loop.ticket?_of_due? hd).1.symm.trans htick)
  have hend := hkeeps.stand _ (hr.inOrder.stand?_of_due? hd)
  rw [← Option.some.inj (ho'.symm.trans ho), ht]
  cases e with
  | finished d' => exact hend
  | escaped cause => exact ⟨_, rfl, .failed _ (by simp [Loop.unexpectedFailure])⟩
  | interrupted => exact ⟨_, rfl, .failed _ (by simp [Loop.cancelledFailure])⟩

end Storefront
