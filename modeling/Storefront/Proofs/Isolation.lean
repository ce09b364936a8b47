import Storefront.Proofs.Undisturbed

/-! Operations that run at the same time do not disturb each other. What a task comes to on its own is
computed from its flow, the client and the shop; a task that is not cancelled comes to the same in
every run, whatever else goes on there. -/
namespace Storefront

namespace Flow

variable {α β : Type}

theorem Apart.bind {f : Flow α} {g : α → Flow β} (hf : f.Apart) (hg : ∀ a, (g a).Apart) :
    (f.bind g).Apart := by
  induction f with
  | finish a => exact hg a
  | escape cause => trivial
  | interrupt => trivial
  | log line next ih => exact ih hf
  | client next ih => exact fun c => ih c (hf c)
  | session next ih => exact fun v => ih v (hf v)
  | send place r next ih => exact fun a => ih a (hf a)
  | hear place r next ih => exact ih hf
  | call o next ih => exact fun r => ih r (hf r)
  | join id next ih => exact hf.elim
  | gate name stubborn next ih => exact ih hf

end Flow

namespace Exchange

theorem settleFault_apart (o : Outgoing) (f : Fault) : (settleFault o f).Apart := by
  unfold settleFault
  split
  · exact fun _ => trivial
  · trivial
  · trivial

theorem settleResponse_apart (o : Outgoing) (r : Response) : (settleResponse o r).Apart := by
  unfold settleResponse
  split
  · trivial
  · trivial

theorem afterResponse_apart (o : Outgoing) (follows : Bool) (request : Request)
    {next : Request → Flow TransportResult} (hnext : ∀ r, (next r).Apart) (r : Response) :
    (afterResponse o follows request next r).Apart := by
  unfold afterResponse
  split
  · exact settleResponse_apart o _
  · split
    · exact settleFault_apart o _
    · split
      · exact hnext _
      · exact settleResponse_apart o _

theorem afterAnswer_apart (o : Outgoing) (session : SessionView) (request : Request)
    {next : Request → Flow TransportResult} (hnext : ∀ r, (next r).Apart) (a : Answer) :
    (afterAnswer o session request next a).Apart := by
  cases a with
  | interruption => trivial
  | fault cause =>
    cases cause with
    | inl f => exact settleFault_apart o f
    | inr failure => trivial
  | response status headers body =>
    unfold afterAnswer
    dsimp only
    split
    · exact settleFault_apart o _
    · exact afterResponse_apart o _ request hnext _

theorem follow_apart (o : Outgoing) (session : SessionView) (more : Nat) (request : Request) :
    (follow o session more request).Apart := by
  induction more generalizing request with
  | zero => exact afterAnswer_apart o session request fun _ => settleFault_apart o redirectFault
  | succ more ih => exact afterAnswer_apart o session request ih

theorem flow_apart (o : Outgoing) : (flow o).Apart := by
  unfold flow
  cases writeContent o with
  | error f => trivial
  | ok body =>
    intro v c
    dsimp only
    split
    · trivial
    · split
      · trivial
      · exact follow_apart o _ _ _

end Exchange

theorem Start.Offered.apart {st : Start} (h : st.Offered) : st.flow.Apart := by
  have hrequest (o : Outgoing) : (Delivery.transport <$> Exchange.flow o).Apart :=
    (Exchange.flow_apart o).bind fun _ => trivial
  cases h with
  | call c call callback st h =>
    obtain ⟨o, -, hflow⟩ := Client.startCall_ok h
    rw [hflow]
    exact hrequest o
  | operation c op callback st h =>
    obtain ⟨url, -, hflow, -⟩ := Operation.flow_ok (Client.startOperation_ok h)
    rw [hflow]
    exact (op.body_conduct url).apart
  | own o => exact hrequest o

/-! What a task comes to on its own -/

/-- The requests that are sent for a task to its end, and that end. -/
structure Course where
  sent : List Request
  ending : Ending

def Course.after (c : Course) (rs : List Request) : Course := ⟨rs ++ c.sent, c.ending⟩

/-- What a request of its own delivers to a task. -/
def Course.delivery (c : Course) (o : Outgoing) : Delivery :=
  Loop.deliveryOf (Loop.requestTicket o none) c.ending

section

variable (w : Surroundings) (shop : Shop)

/-- What a flow comes to where nobody disturbs it, when its own requests come to something. -/
def Flow.alone (own : Outgoing → Course) : Flow Delivery → Course
  | .finish d => ⟨[], .finished d⟩
  | .escape cause => ⟨[], .escaped cause⟩
  | .interrupt => ⟨[], .interrupted⟩
  | .log _ next => next.alone own
  | .client next => (next w.client).alone own
  | .session next => (next w.view).alone own
  | .send _ r next => ((next (shop r)).alone own).after [r]
  | .hear _ _ next => next.alone own
  | .call o next => ((next ((own o).delivery o).asTransport).alone own).after (own o).sent
  | .join _ _ => ⟨[], .interrupted⟩
  | .gate _ _ next => next.alone own

/-- What a request comes to, which makes no requests of its own. -/
def Outgoing.alone (o : Outgoing) : Course :=
  (Delivery.transport <$> Exchange.flow o).alone w shop fun _ => ⟨[], .interrupted⟩

def Start.alone (st : Start) : Course := st.flow.alone w shop (Outgoing.alone w shop)

end

theorem Course.after_after (c : Course) (rs rs' : List Request) :
    (c.after rs').after rs = c.after (rs ++ rs') := by
  simp [after]

variable {w : Surroundings} {shop : Shop}

theorem Reply.answered_alone {p : Reply} {r : Request} (h : p.answer = shop r)
    (own : Outgoing → Course) (next : Answer → Flow Delivery) :
    (p.answered next).alone w shop own = (next (shop r)).alone w shop own := by
  unfold answered
  rw [h]
  split <;> rfl

theorem Reply.answered_apart {p : Reply} {next : Answer → Flow Delivery}
    (h : ∀ a, (next a).Apart) : (p.answered next).Apart := by
  unfold answered
  split
  · exact h p.answer
  · exact h p.answer

theorem Flow.alone_ending {f : Flow Delivery} {e : Ending} (h : f.ending? = some e)
    (own : Outgoing → Course) : f.alone w shop own = ⟨[], e⟩ := by
  cases f with
  | finish d => rw [← Option.some.inj h]; rfl
  | escape cause => rw [← Option.some.inj h]; rfl
  | interrupt => rw [← Option.some.inj h]; rfl
  | _ => cases h

/-! How far a task has come on its course -/

/-- Requests of a task that have ended. -/
def Scene.Settled (s : Scene) (ds : List Deed) : Prop :=
  ∀ k o, .call k o ∈ ds → ∃ e, s.stand? k = some (.ended e)

/-- What was sent for requests that have ended stays as it is. -/
theorem Step.settled {s s' : Scene} (hs : Step s s') (hr : Reachable s) {i : Nat} {ds : List Deed}
    (hsub : ∀ d ∈ ds, d ∈ s.loop.deeds i) (h : s.Settled ds) :
    s'.Settled ds ∧ ds.flatMap (Deed.sent s'.loop) = ds.flatMap (Deed.sent s.loop) := by
  have hchild {k : Nat} {o : Outgoing} (hk : .call k o ∈ ds) : k < s.loop.jobs.length :=
    (hr.fosters.child i k o (hsub _ hk)).1.length
  refine ⟨?_, ?_⟩
  · intro k o hk
    obtain ⟨e, he⟩ := h k o hk
    exact ⟨e, hs.ended (hchild hk) he⟩
  · rw [List.flatMap_def, List.flatMap_def]
    refine congrArg List.flatten (List.map_congr_left fun d hd => ?_)
    cases d with
    | request r => rfl
    | call k o =>
      obtain ⟨e, he⟩ := h k o hd
      obtain ⟨ds', σ, -, hdeeds, hm, -⟩ := (hs.turns (hchild hd)).turn _ he
      cases hm with
      | rest =>
        change (s'.loop.deeds k).filterMap _ = (s.loop.deeds k).filterMap _
        rw [hdeeds, List.append_nil]

theorem Steps.deeds_grow {s s' : Scene} (hs : Steps s s') (i : Nat) :
    s.loop.deeds i <+: s'.loop.deeds i := by
  induction hs with
  | refl => exact List.prefix_refl _
  | tail _ hs ih =>
    obtain ⟨es, hes⟩ := hs.trace
    refine ih.trans ?_
    unfold Loop.deeds
    rw [hes, List.filterMap_append]
    exact List.prefix_append _ _

/-- A task is on a course, when its own requests come to something. -/
inductive Scene.Heads (s : Scene) (w : Surroundings) (shop : Shop) (own : Outgoing → Course)
    (i : Nat) (c : Course) : Prop where
  | going (f : Flow Delivery) (hσ : s.stand? i = some (.going f)) (hf : f.Apart)
      (hk : s.Settled (s.loop.deeds i)) (hc : c = (f.alone w shop own).after (s.loop.sentFor i))
  | asking (ds : List Deed) (k : Nat) (o : Outgoing) (next : TransportResult → Flow Delivery)
      (hσ : s.stand? i = some (.going (.join k fun d => next d.asTransport)))
      (hd : s.loop.deeds i = ds ++ [.call k o]) (hf : ∀ r, (next r).Apart) (hk : s.Settled ds)
      (hc : c = ((Flow.call o next).alone w shop own).after (ds.flatMap (Deed.sent s.loop)))
  | ended (hσ : s.stand? i = some (.ended c.ending)) (hk : s.Settled (s.loop.deeds i))
      (hc : s.loop.sentFor i = c.sent)

theorem Scene.Opens.heads {s : Scene} {i : Nat} {st : Start} (h : s.Opens i st)
    (hf : st.flow.Apart) (own : Outgoing → Course) :
    s.Heads w shop own i (st.flow.alone w shop own) := by
  refine .going st.flow h.stand? hf ?_ ?_
  · intro k o hk
    rw [h.deeds] at hk
    cases hk
  · rw [Loop.sentFor, h.deeds]
    rfl

/-- A task that is not asked to end early stays on its course. -/
theorem Step.heads {s s' : Scene} (hs : Step s s') (hr : Reachable s) {i : Nat}
    (hi : i < s.loop.jobs.length) (hw : s.loop.surroundings = w) (ha : s.AnswersAs shop)
    (hu : s.loop.Unasked i) {own : Outgoing → Course} {c : Course}
    (hown : ∀ k o d, .call k o ∈ s.loop.deeds i → s.loop.outcome? k = some d →
      s.loop.requests k = (own o).sent ∧ d = (own o).delivery o)
    (h : s.Heads w shop own i c) : s'.Heads w shop own i c := by
  cases h with
  | going f hσ hf hk hc =>
    obtain ⟨ds, σ', hσ', hd, hm⟩ := hs.stride hi hw ha hu hσ
    obtain ⟨hk', hsame⟩ := hs.settled hr (fun d hd => hd) hk
    have hquiet (hn : s'.loop.deeds i = s.loop.deeds i ++ []) :
        s'.Settled (s'.loop.deeds i) ∧ s'.loop.sentFor i = s.loop.sentFor i := by
      rw [List.append_nil] at hn
      unfold Loop.sentFor
      rw [hn]
      exact ⟨hk', hsame⟩
    cases hm with
    | rest => exact .going f hσ' hf (hquiet hd).1 ((hquiet hd).2 ▸ hc)
    | log line next => exact .going next hσ' hf (hquiet hd).1 ((hquiet hd).2 ▸ hc)
    | client next => exact .going _ hσ' (hf _) (hquiet hd).1 ((hquiet hd).2 ▸ hc)
    | session next => exact .going _ hσ' (hf _) (hquiet hd).1 ((hquiet hd).2 ▸ hc)
    | gate name stubborn next => exact .going next hσ' hf (hquiet hd).1 ((hquiet hd).2 ▸ hc)
    | join id next d ho => exact hf.elim
    | send place r next p hp =>
      refine .going _ hσ' (Reply.answered_apart hf) ?_ ?_
      · intro k o hmem
        rw [hd] at hmem
        exact hk' k o (by simpa using hmem)
      · have hsent : s'.loop.sentFor i = s.loop.sentFor i ++ [r] := by
          unfold Loop.sentFor
          rw [hd, List.flatMap_append, hsame]
          rfl
        rw [Reply.answered_alone hp, hsent, ← Course.after_after]
        exact hc
    | hear place r next => exact .going next hσ' hf (hquiet hd).1 ((hquiet hd).2 ▸ hc)
    | call o next => exact .asking _ _ o next hσ' hd hf hk' (hsame.symm ▸ hc)
    | ending _ e he =>
      rw [Flow.alone_ending he] at hc
      subst hc
      exact .ended hσ' (hquiet hd).1 ((hquiet hd).2.trans (List.append_nil _).symm)
  | asking ds k o next hσ hd hf hk hc =>
    obtain ⟨ds', σ', hσ', hd', hm⟩ := hs.stride hi hw ha hu hσ
    have hcall : .call k o ∈ s.loop.deeds i := by simp [hd]
    obtain ⟨hk', hsame⟩ := hs.settled hr (i := i) (fun d hmem => by simp [hd, hmem]) hk
    cases hm with
    | rest =>
      rw [List.append_nil] at hd'
      exact .asking ds k o next hσ' (hd'.trans hd) hf hk' (hsame.symm ▸ hc)
    | join _ _ d ho =>
      -- the request has ended, and what was sent for it stays as it is from now on
      obtain ⟨t, e, hdue, -⟩ := (hr.inOrder.books k).delivered (.inr (by simp [ho]))
      have hall : s.Settled (s.loop.deeds i) := by
        intro k' o' hmem
        rw [hd] at hmem
        rcases List.mem_append.mp hmem with hmem | hmem
        · exact hk k' o' hmem
        · obtain ⟨rfl, -⟩ := Deed.call.inj (List.mem_singleton.mp hmem)
          exact ⟨e, hr.inOrder.stand?_of_due? hdue⟩
      obtain ⟨hall', hsame'⟩ := hs.settled hr (fun d hmem => hmem) hall
      obtain ⟨hrequests, rfl⟩ := hown k o d hcall ho
      rw [List.append_nil] at hd'
      refine .going _ hσ' (hf _) (hd' ▸ hall') ?_
      have hsent : s'.loop.sentFor i = ds.flatMap (Deed.sent s.loop) ++ (own o).sent := by
        unfold Loop.sentFor
        rw [hd', hsame', hd, List.flatMap_append, ← hrequests]
        simp [Deed.sent, Loop.requests]
      rw [hsent, ← Course.after_after]
      exact hc
    | ending _ e he => cases he
  | ended hσ hk hc =>
    obtain ⟨ds, σ', hσ', hd, hm⟩ := hs.stride hi hw ha hu hσ
    obtain ⟨hk', hsame⟩ := hs.settled hr (fun d hd => hd) hk
    cases hm with
    | rest =>
      rw [List.append_nil] at hd
      exact .ended hσ' (hd ▸ hk') (by unfold Loop.sentFor; rw [hd, hsame]; exact hc)

/-- A task on a course delivers what the course comes to. -/
theorem Scene.Heads.delivered {s : Scene} {own : Outgoing → Course} {i : Nat} {c : Course}
    (h : s.Heads w shop own i c) (hin : s.InOrder) {t : Ticket} (ht : s.loop.ticket? i = some t)
    {d : Delivery} (ho : s.loop.outcome? i = some d) :
    d = Loop.deliveryOf t c.ending ∧ s.loop.sentFor i = c.sent := by
  obtain ⟨t', e, hd, -, -, -, ho'⟩ := (hin.books i).delivered (.inr (by simp [ho]))
  have hstand := hin.stand?_of_due? hd
  obtain rfl := Option.some.inj (ht.symm.trans (Loop.ticket?_of_due? hd).1)
  cases h with
  | going f hσ => cases hstand.symm.trans hσ
  | asking ds k o next hσ => cases hstand.symm.trans hσ
  | ended hσ hk hc =>
    obtain rfl := Stand.ended.inj (Option.some.inj (hstand.symm.trans hσ))
    exact ⟨Option.some.inj (ho.symm.trans ho'), hc⟩

/-- What was sent for a task on a course is the beginning of what the course sends. -/
theorem Scene.Heads.sent_begins {s : Scene} {own : Outgoing → Course} {i : Nat} {c : Course}
    (h : s.Heads w shop own i c)
    (hown : ∀ k o, .call k o ∈ s.loop.deeds i → s.loop.requests k <+: (own o).sent) :
    s.loop.sentFor i <+: c.sent := by
  cases h with
  | going f hσ hf hk hc =>
    rw [hc]
    exact List.prefix_append _ _
  | asking ds k o next hσ hd hf hk hc =>
    obtain ⟨more, hmore⟩ := hown k o (by simp [hd])
    have hsent : s.loop.sentFor i = ds.flatMap (Deed.sent s.loop) ++ s.loop.requests k := by
      unfold Loop.sentFor
      rw [hd, List.flatMap_append]
      simp [Deed.sent, Loop.requests]
    rw [hsent, hc]
    refine (List.prefix_append_right_inj _).mpr ?_
    change _ <+: (own o).sent ++ _
    rw [← hmore, List.append_assoc]
    exact List.prefix_append _ _
  | ended hσ hk hc => exact hc.symm ▸ List.prefix_refl _

/-! Tasks that are left alone with all their requests -/

/-- A step that leaves a task alone: nobody changes the configuration, requests are answered as the
shop answers them, and neither the task nor a request of its own is cancelled. -/
structure Scene.LeavesAlone (shop : Shop) (i : Nat) (s s' : Scene) : Prop where
  unchanging : s.Unchanging s'
  answers : s.AnswersAs shop
  uncancelled : ¬ s.Cancels i s'
  requests : ∀ k o, .call k o ∈ s.loop.deeds i → ¬ s.Cancels k s'

theorem Scene.LeavesAlone.step {i : Nat} {s s' : Scene} (h : s.LeavesAlone shop i s') : Step s s' :=
  h.unchanging.1

/-- A run that leaves a task alone. Any other may be cancelled, and all of them may go on in any
order. -/
def SecludedSteps (shop : Shop) (i : Nat) : Scene → Scene → Prop :=
  Relation.ReflTransGen (Scene.LeavesAlone shop i)

theorem SecludedSteps.steps {i : Nat} {s s' : Scene} (h : SecludedSteps shop i s s') : Steps s s' :=
  Relation.ReflTransGen.mono (fun _ _ h => h.step) _ _ h

theorem Loop.sentFor_of_requests {l : Loop} {i : Nat} (h : ∀ k o, .call k o ∉ l.deeds i) :
    l.sentFor i = l.requests i := by
  unfold sentFor requests
  generalize l.deeds i = ds at h
  induction ds with
  | nil => rfl
  | cons d ds ih =>
    have hds := ih fun k o hk => h k o (List.mem_cons_of_mem d hk)
    cases d with
    | request r cookies => simpa [Deed.sent, Deed.request?] using hds
    | call k o => exact absurd List.mem_cons_self (h k o)

/-- A task and its requests are on their courses, and none of them was asked to end early. -/
structure Scene.Isolated (s : Scene) (w : Surroundings) (shop : Shop) (i : Nat) (c : Course) :
    Prop where
  surroundings : s.loop.surroundings = w
  length : i < s.loop.jobs.length
  unasked : s.loop.Unasked i
  heads : s.Heads w shop (Outgoing.alone w shop) i c
  requests : ∀ k o, .call k o ∈ s.loop.deeds i → s.loop.Unasked k ∧
    s.Heads w shop (fun _ => ⟨[], .interrupted⟩) k (o.alone w shop)

theorem Reachable.request_calls {s : Scene} (hr : Reachable s) {i k : Nat} {o : Outgoing}
    (hk : .call k o ∈ s.loop.deeds i) (k' : Nat) (o' : Outgoing) : .call k' o' ∉ s.loop.deeds k :=
  fun h => (hr.fosters.child i k o hk).1.deeds _ h

theorem Scene.Isolated.comes {s : Scene} {i : Nat} {c : Course} (h : s.Isolated w shop i c)
    (hr : Reachable s) (k : Nat) (o : Outgoing) (d : Delivery) (hk : .call k o ∈ s.loop.deeds i)
    (ho : s.loop.outcome? k = some d) :
    s.loop.requests k = (o.alone w shop).sent ∧ d = (o.alone w shop).delivery o := by
  obtain ⟨hd, hsent⟩ := (h.requests k o hk).2.delivered hr.inOrder (hr.fosters.child i k o hk).2 ho
  exact ⟨(Loop.sentFor_of_requests (hr.request_calls hk)).symm.trans hsent, hd⟩

theorem Scene.Isolated.sent_begins {s : Scene} {i : Nat} {c : Course} (h : s.Isolated w shop i c)
    (hr : Reachable s) : s.loop.sentFor i <+: c.sent := by
  refine h.heads.sent_begins fun k o hk => ?_
  have hnone := hr.request_calls hk
  rw [← Loop.sentFor_of_requests hnone]
  exact (h.requests k o hk).2.sent_begins fun k' o' hk' => absurd hk' (hnone k' o')

theorem Scene.LeavesAlone.isolated {s s' : Scene} {i : Nat} {c : Course}
    (hs : s.LeavesAlone shop i s') (hr : Reachable s) (h : s.Isolated w shop i c) :
    s'.Isolated w shop i c where
  surroundings := hs.unchanging.surroundings.trans h.surroundings
  length := (hs.step.turns h.length).length
  unasked := hs.step.unasked h.length hs.uncancelled h.unasked
  heads := hs.step.heads hr h.length h.surroundings hs.answers h.unasked (h.comes hr) h.heads
  requests k o hk := by
    rcases hs.step.births hr hk with hk | hopens
    · obtain ⟨hunasked, hheads⟩ := h.requests k o hk
      have hlt := (hr.fosters.child i k o hk).1.length
      refine ⟨hs.step.unasked hlt (hs.requests k o hk) hunasked, ?_⟩
      exact hs.step.heads hr hlt h.surroundings hs.answers hunasked
        (fun k' o' d hk' => absurd hk' (hr.request_calls hk k' o')) hheads
    · exact ⟨hopens.unasked, hopens.heads (Start.Offered.own o).apart _⟩

theorem SecludedSteps.isolated {s s' : Scene} {i : Nat} {c : Course}
    (hs : SecludedSteps shop i s s') (hr : Reachable s) (h : s.Isolated w shop i c) :
    s'.Isolated w shop i c := by
  induction hs with
  | refl => exact h
  | tail hrun hs ih => exact hs.isolated (hr.trans (SecludedSteps.steps hrun)) ih

theorem Scene.Opens.isolated {s : Scene} {i : Nat} {st : Start} (h : s.Opens i st)
    (hst : st.Offered) : s.Isolated s.loop.surroundings shop i (st.alone s.loop.surroundings shop) where
  surroundings := rfl
  length := h.length
  unasked := h.unasked
  heads := h.heads hst.apart _
  requests k o hk := by
    rw [h.deeds] at hk
    cases hk

end Storefront
