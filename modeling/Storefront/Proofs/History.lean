import Storefront.Proofs.Transport
import Storefront.Proofs.Runs

/-! What a task delivers is decided by its exchanges: the requests of its own that it made, with what
each of them came to. A run is followed along the flow of the task from its first step to its end. -/
namespace Storefront

/-- Requests with their results, in order. -/
abbrev Exchanges := List (Outgoing × TransportResult)

/-- A flow can end so after these exchanges, while the client stays as it is. -/
def Flow.Yields {α : Type} (c : Client) : Flow α → Exchanges → Except (Fault ⊕ Failure) α → Prop
  | .finish a, h, x => h = [] ∧ x = .ok a
  | .escape cause, h, x => h = [] ∧ x = .error cause
  | .interrupt, _, _ => False
  | .log _ next, h, x => next.Yields c h x
  | .client next, h, x => (next c).Yields c h x
  | .session next, h, x => ∃ v, (next v).Yields c h x
  | .send _ _ next, h, x => ∃ a, (next a).Yields c h x
  | .hear _ _ next, h, x => next.Yields c h x
  | .call o next, h, x => ∃ r h', h = (o, r) :: h' ∧ (next r).Yields c h' x
  | .join _ next, h, x => ∃ d, (next d).Yields c h x
  | .gate _ _ next, h, x => next.Yields c h x

/-- What follows a flow has the rest of the exchanges. -/
theorem Flow.Yields.of_bind {α β : Type} {c : Client} {f : Flow α} {g : α → Flow β} {h : Exchanges}
    {x : Except (Fault ⊕ Failure) β} (hx : (f.bind g).Yields c h x) :
    (∃ a h₁ h₂, h = h₁ ++ h₂ ∧ f.Yields c h₁ (.ok a) ∧ (g a).Yields c h₂ x) ∨
      ∃ cause, x = .error cause ∧ f.Yields c h (.error cause) := by
  induction f generalizing h with
  | finish a => exact .inl ⟨a, [], h, rfl, ⟨rfl, rfl⟩, hx⟩
  | escape cause =>
    obtain ⟨rfl, rfl⟩ := hx
    exact .inr ⟨cause, rfl, rfl, rfl⟩
  | interrupt => exact absurd hx (by simp [bind, Yields])
  | log line next ih => exact ih hx
  | client next ih => exact ih c hx
  | session next ih =>
    obtain ⟨v, hv⟩ := hx
    rcases ih v hv with ⟨a, h₁, h₂, rfl, hf, hg⟩ | ⟨cause, rfl, hf⟩
    · exact .inl ⟨a, h₁, h₂, rfl, ⟨v, hf⟩, hg⟩
    · exact .inr ⟨cause, rfl, v, hf⟩
  | send place r next ih =>
    obtain ⟨a, ha⟩ := hx
    rcases ih a ha with ⟨b, h₁, h₂, rfl, hf, hg⟩ | ⟨cause, rfl, hf⟩
    · exact .inl ⟨b, h₁, h₂, rfl, ⟨a, hf⟩, hg⟩
    · exact .inr ⟨cause, rfl, a, hf⟩
  | hear place r next ih => exact ih hx
  | call o next ih =>
    obtain ⟨r, h', rfl, hr⟩ := hx
    rcases ih r hr with ⟨a, h₁, h₂, rfl, hf, hg⟩ | ⟨cause, rfl, hf⟩
    · exact .inl ⟨a, (o, r) :: h₁, h₂, rfl, ⟨r, h₁, rfl, hf⟩, hg⟩
    · exact .inr ⟨cause, rfl, r, h', rfl, hf⟩
  | join id next ih =>
    obtain ⟨d, hd⟩ := hx
    rcases ih d hd with ⟨a, h₁, h₂, rfl, hf, hg⟩ | ⟨cause, rfl, hf⟩
    · exact .inl ⟨a, h₁, h₂, rfl, ⟨d, hf⟩, hg⟩
    · exact .inr ⟨cause, rfl, d, hf⟩
  | gate name stubborn next ih => exact ih hx

def Deed.call? : Deed → Option (Nat × Outgoing)
  | .call k o => some (k, o)
  | .request _ _ => none

namespace Loop

/-- The requests of its own that a task has made, in order. -/
def calls (l : Loop) (task : Nat) : List (Nat × Outgoing) := (l.deeds task).filterMap Deed.call?

theorem mem_calls {l : Loop} {task k : Nat} {o : Outgoing} :
    (k, o) ∈ l.calls task ↔ .call k o ∈ l.deeds task := by
  unfold calls
  rw [List.mem_filterMap]
  constructor
  · rintro ⟨d, hd, hk⟩
    cases d with
    | request r => cases hk
    | call k' o' =>
      obtain ⟨rfl, rfl⟩ := Prod.mk.inj (Option.some.inj hk)
      exact hd
  · exact fun h => ⟨_, h, rfl⟩

theorem calls_of_deeds {l l' : Loop} {task : Nat} {ds : List Deed}
    (h : l'.deeds task = l.deeds task ++ ds) :
    l'.calls task = l.calls task ++ ds.filterMap Deed.call? := by
  unfold calls
  rw [h, List.filterMap_append]

/-- A request with its result, once that is delivered. -/
def exchange? (l : Loop) (call : Nat × Outgoing) : Option (Outgoing × TransportResult) :=
  (l.outcome? call.1).map fun d => (call.2, d.asTransport)

/-- The exchanges of a task as far as they are complete. -/
def exchanges (l : Loop) (task : Nat) : Exchanges := (l.calls task).filterMap l.exchange?

theorem filterMap_exchange? {l : Loop} {calls : List (Nat × Outgoing)} {h : Exchanges}
    (hs : calls.map l.exchange? = h.map some) : calls.filterMap l.exchange? = h := by
  have hid : calls.filterMap l.exchange? = (calls.map l.exchange?).filterMap id := by
    rw [List.filterMap_map]
    rfl
  rw [hid, hs, List.filterMap_map]
  simp

theorem exchanges_eq {l : Loop} {task : Nat} {h : Exchanges}
    (hs : (l.calls task).map l.exchange? = h.map some) : l.exchanges task = h :=
  filterMap_exchange? hs

/-- Where all exchanges are complete they are those of all requests. -/
theorem calls_of_exchange? {l : Loop} {calls : List (Nat × Outgoing)} {h : Exchanges}
    (hs : calls.map l.exchange? = h.map some) : calls.map (·.2) = h.map (·.1) := by
  induction calls generalizing h with
  | nil =>
    cases h with
    | nil => rfl
    | cons p h => cases hs
  | cons call calls ih =>
    cases h with
    | nil => cases hs
    | cons p h =>
      obtain ⟨hp, hrest⟩ := List.cons.inj hs
      obtain ⟨d, -, hd⟩ := Option.map_eq_some_iff.mp hp
      rw [List.map_cons, List.map_cons, ih hrest, ← hd]

/-- Complete exchanges stay as they are. -/
theorem exchange?_lasts {l l' : Loop} {calls : List (Nat × Outgoing)} {h : Exchanges}
    (ho : ∀ k d, l.outcome? k = some d → l'.outcome? k = some d)
    (hs : calls.map l.exchange? = h.map some) : calls.map l'.exchange? = h.map some := by
  rw [← hs]
  refine List.map_congr_left fun p hp => ?_
  have hmem : l.exchange? p ∈ h.map some := hs ▸ List.mem_map_of_mem hp
  obtain ⟨y, -, hy⟩ := List.mem_map.mp hmem
  obtain ⟨d, hd, -⟩ := Option.map_eq_some_iff.mp hy.symm
  unfold exchange?
  rw [hd, ho p.1 d hd]

end Loop

/-- A step leaves complete exchanges as they are. -/
theorem Step.exchanged {s s' : Scene} (hs : Step s s') (hin : s.InOrder)
    {calls : List (Nat × Outgoing)} {h : Exchanges}
    (hc : calls.map s.loop.exchange? = h.map some) : calls.map s'.loop.exchange? = h.map some :=
  Loop.exchange?_lasts (fun _ _ ho => (hs.delivered hin ho).1) hc

/-- How far a task has come along its flow, with the exchanges on the way. -/
inductive Scene.Follows (s : Scene) (c : Client) (task : Nat) (F : Flow Delivery) : Prop where
  | going (h : Exchanges) (f : Flow Delivery) (hσ : s.stand? task = some (.going f))
      (hc : (s.loop.calls task).map s.loop.exchange? = h.map some)
      (hf : ∀ h' x, f.Yields c h' x → F.Yields c (h ++ h') x)
  | asking (h : Exchanges) (cs : List (Nat × Outgoing)) (k : Nat) (o : Outgoing)
      (next : TransportResult → Flow Delivery)
      (hσ : s.stand? task = some (.going (.join k fun d => next d.asTransport)))
      (hk : s.loop.calls task = cs ++ [(k, o)]) (hc : cs.map s.loop.exchange? = h.map some)
      (hf : ∀ h' x, (Flow.call o next).Yields c h' x → F.Yields c (h ++ h') x)
  | finished (h : Exchanges) (d : Delivery) (hσ : s.stand? task = some (.ended (.finished d)))
      (hc : (s.loop.calls task).map s.loop.exchange? = h.map some) (hf : F.Yields c h (.ok d))
  | escaped (h : Exchanges) (cause : Fault ⊕ Failure)
      (hσ : s.stand? task = some (.ended (.escaped cause)))
      (hc : (s.loop.calls task).map s.loop.exchange? = h.map some) (hf : F.Yields c h (.error cause))
  | stopped (hσ : s.stand? task = some (.going .interrupt))
  | interrupted (hσ : s.stand? task = some (.ended .interrupted))

theorem Step.follows {s s' : Scene} (hs : Step s s') (hin : s.InOrder) {c : Client}
    (hclient : s.loop.client = c) {task : Nat} {F : Flow Delivery}
    (hlt : task < s.loop.jobs.length) (hF : s.Follows c task F) : s'.Follows c task F := by
  have hturn := (hs.turns hlt).turn
  have hquiet {ds : List Deed} (hd : s'.loop.deeds task = s.loop.deeds task ++ ds)
      (hn : ds.filterMap Deed.call? = []) : s'.loop.calls task = s.loop.calls task := by
    rw [Loop.calls_of_deeds hd, hn, List.append_nil]
  cases hF with
  | going h f hσ hc hf =>
    obtain ⟨ds, σ', hσ', hd, hm, -⟩ := hturn _ hσ
    have hsame (hn : ds.filterMap Deed.call? = []) :
        (s'.loop.calls task).map s'.loop.exchange? = h.map some := by
      rw [hquiet hd hn]
      exact hs.exchanged hin hc
    cases hm with
    | rest => exact .going h f hσ' (hsame rfl) hf
    | log line next => exact .going h next hσ' (hsame rfl) hf
    | client next => exact .going h _ hσ' (hsame rfl) fun h' x hx => hf h' x (hclient ▸ hx)
    | session next v => exact .going h _ hσ' (hsame rfl) fun h' x hx => hf h' x ⟨v, hx⟩
    | send place r next p =>
      refine .going h _ hσ' (hsame rfl) fun h' x hx => hf h' x ⟨p.answer, ?_⟩
      unfold Reply.answered at hx
      split at hx
      · exact hx
      · exact hx
    | hear place r next => exact .going h next hσ' (hsame rfl) hf
    | call o next =>
      exact .asking h (s.loop.calls task) s.loop.jobs.length o next hσ' (Loop.calls_of_deeds hd)
        (hs.exchanged hin hc) hf
    | join id next d ho => exact .going h _ hσ' (hsame rfl) fun h' x hx => hf h' x ⟨d, hx⟩
    | gate name stubborn next => exact .going h next hσ' (hsame rfl) hf
    | interrupt => exact .stopped hσ'
    | ending _ e he =>
      cases f with
      | finish d =>
        obtain rfl := Option.some.inj he
        exact .finished h d hσ' (hsame rfl) (h.append_nil ▸ hf [] (.ok d) ⟨rfl, rfl⟩)
      | escape cause =>
        obtain rfl := Option.some.inj he
        exact .escaped h cause hσ' (hsame rfl) (h.append_nil ▸ hf [] (.error cause) ⟨rfl, rfl⟩)
      | interrupt =>
        obtain rfl := Option.some.inj he
        exact .interrupted hσ'
      | _ => cases he
  | asking h cs k o next hσ hk hc hf =>
    obtain ⟨ds, σ', hσ', hd, hm, -⟩ := hturn _ hσ
    cases hm with
    | rest =>
      exact .asking h cs k o next hσ' ((hquiet hd rfl).trans hk) (hs.exchanged hin hc) hf
    | join _ _ d ho =>
      refine .going (h ++ [(o, d.asTransport)]) _ hσ' ?_ ?_
      · rw [hquiet hd rfl, hk, List.map_append, List.map_append,
          hs.exchanged hin hc]
        simp [Loop.exchange?, (hs.delivered hin ho).1]
      · intro h' x hx
        rw [List.append_assoc]
        exact hf _ x ⟨d.asTransport, h', rfl, hx⟩
    | interrupt => exact .stopped hσ'
    | ending _ e he => cases he
  | finished h d hσ hc hf =>
    obtain ⟨ds, σ', hσ', hd, hm, -⟩ := hturn _ hσ
    cases hm with
    | rest => exact .finished h d hσ' (by rw [hquiet hd rfl]; exact hs.exchanged hin hc) hf
  | escaped h cause hσ hc hf =>
    obtain ⟨ds, σ', hσ', hd, hm, -⟩ := hturn _ hσ
    cases hm with
    | rest =>
      exact .escaped h cause hσ' (by rw [hquiet hd rfl]; exact hs.exchanged hin hc) hf
  | stopped hσ =>
    obtain ⟨ds, σ', hσ', hd, hm, -⟩ := hturn _ hσ
    cases hm with
    | rest => exact .stopped hσ'
    | interrupt => exact .stopped hσ'
    | ending _ e he =>
      obtain rfl := Option.some.inj he
      exact .interrupted hσ'
  | interrupted hσ =>
    obtain ⟨ds, σ', hσ', hd, hm, -⟩ := hturn _ hσ
    cases hm with
    | rest => exact .interrupted hσ'

/-- A run in which the client stays as it is follows the flow of every task. -/
theorem StillSteps.follows {s s' : Scene} {c : Client} (hr : StillSteps c s s') (hin : s.InOrder)
    (hclient : s.loop.client = c) {task : Nat} {F : Flow Delivery}
    (hlt : task < s.loop.jobs.length) (hF : s.Follows c task F) : s'.Follows c task F := by
  have hrun : s'.InOrder ∧ s'.loop.client = c ∧ task < s'.loop.jobs.length ∧
      s'.Follows c task F := by
    induction hr with
    | refl => exact ⟨hin, hclient, hlt, hF⟩
    | tail _ hs ih =>
      obtain ⟨hin', hclient', hlt', hF'⟩ := ih
      exact ⟨hs.1.inOrder hin', hs.2, (hs.1.turns hlt').length,
        hs.1.follows hin' hclient' hlt' hF'⟩
  exact hrun.2.2.2

theorem Scene.Follows.start {l : Loop} {f : Focus} (hr : Reachable ⟨l, f⟩) (hf : f.IsFree) (c : Client)
    (st : Start) : Scene.Follows ⟨(l.start st).2, f⟩ c l.jobs.length st.flow := by
  refine .going [] st.flow ?_ ?_ fun h' x hx => hx
  · exact (Scene.stand?_of_free hf _ _).trans (l.spawn_stand? _ _)
  · have hdeeds : (l.start st).2.deeds l.jobs.length = [] := hr.fosters.unborn _ (Nat.le_refl _)
    change ((l.start st).2.calls l.jobs.length).map _ = _
    unfold Loop.calls
    rw [hdeeds]
    rfl

/-- How a task can have ended that has delivered. -/
theorem Scene.Follows.delivered {s : Scene} {c : Client} {task : Nat} {F : Flow Delivery}
    (hF : s.Follows c task F) (hin : s.InOrder) {d : Delivery}
    (ho : s.loop.outcome? task = some d) (hn : s.loop.isCancelled task = false) :
    (s.loop.calls task).map (·.2) = (s.loop.exchanges task).map (·.1) ∧
      (F.Yields c (s.loop.exchanges task) (.ok d) ∨
        ∃ cause t, F.Yields c (s.loop.exchanges task) (.error cause) ∧
          s.loop.ticket? task = some t ∧ d = t.kind.failed (Loop.unexpectedFailure t cause)) := by
  obtain ⟨t, e, hd, -, -, -, ho'⟩ := (hin.books task).delivered (.inr (by simp [ho]))
  have hstand := hin.stand?_of_due? hd
  have hdel : d = Loop.deliveryOf t e := Option.some.inj (ho.symm.trans ho')
  cases hF with
  | going h f hσ => exact absurd (hstand.symm.trans hσ) (by simp)
  | asking h cs k o next hσ => exact absurd (hstand.symm.trans hσ) (by simp)
  | stopped hσ => exact absurd (hstand.symm.trans hσ) (by simp)
  | finished h d' hσ hc hf =>
    obtain rfl := Stand.ended.inj (Option.some.inj (hstand.symm.trans hσ))
    rw [Loop.exchanges_eq hc, hdel]
    exact ⟨Loop.calls_of_exchange? hc, .inl hf⟩
  | escaped h cause hσ hc hf =>
    obtain rfl := Stand.ended.inj (Option.some.inj (hstand.symm.trans hσ))
    rw [Loop.exchanges_eq hc]
    exact ⟨Loop.calls_of_exchange? hc, .inr ⟨cause, t, hf, (Loop.ticket?_of_due? hd).1, hdel⟩⟩
  | interrupted hσ => exact absurd (Scene.isCancelled_of_stand? hσ) (by simp [hn])

/-- What is known of the exchanges of a task holds of what can come of their requests. -/
theorem Reachable.exchange_answers {s : Scene} (hr : Reachable s) {task : Nat} {o : Outgoing}
    {r : TransportResult} (h : (o, r) ∈ s.loop.exchanges task) : Exchange.Answers o r := by
  obtain ⟨call, hcall, he⟩ := List.mem_filterMap.mp h
  obtain ⟨d, hd, hp⟩ := Option.map_eq_some_iff.mp he
  obtain ⟨ho, hresult⟩ := Prod.mk.inj hp
  obtain ⟨r', rfl, ha⟩ := hr.answers (Loop.mem_calls.mp hcall) hd
  rw [← ho, ← hresult]
  exact ha

end Storefront
