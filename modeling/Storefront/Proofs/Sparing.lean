import Storefront.Proofs.Binding
import Storefront.Proofs.Cancellation

/-! Tasks that are left alone, and what becomes of those that are not. As long as no cancellation of a
task is accepted, and no session breaks its requests off, it ends as its flow says. -/
namespace Storefront

/-- A session breaks the request of a task off, as if the task had been cancelled. -/
def Scene.BreaksOff (task : Nat) (s : Scene) : Prop :=
  ∃ place r next, s.focus = .running task (.send place r next) ∧
    (s.loop.server.take r).1.answer = .interruption

/-- A run in which nobody succeeds in cancelling a task, and no session breaks its requests off. -/
def SparingSteps (task : Nat) : Scene → Scene → Prop :=
  Relation.ReflTransGen fun s s' => Step s s' ∧ ¬ s.Cancels task s' ∧ ¬ s.BreaksOff task

theorem SparingSteps.steps {task : Nat} {s s' : Scene} (h : SparingSteps task s s') : Steps s s' :=
  Relation.ReflTransGen.mono (fun _ _ h => h.1) _ _ h

/-- A task was not asked to end early, and it will not do so of itself. -/
structure Job.Spared (j : Job) : Prop where
  unasked : j.cancelRequested = false
  called : ∀ w, j.phase ≠ .woken w true
  stand : j.phase.stand.Complies False

namespace Job.Spared

variable {j : Job}

theorem next? (h : j.Spared) {f : Flow Delivery} (hf : j.next? = some f) : f.Complies False := by
  have hstand := h.stand
  unfold Job.next? at hf
  rw [h.unasked] at hf
  split at hf
  · rename_i flow hp
    rw [hp] at hstand
    rw [← Option.some.inj hf]
    exact hstand
  · rename_i w b hp
    obtain rfl : b = false := by
      cases b with
      | false => rfl
      | true => exact absurd hp (h.called w)
    rw [hp] at hstand
    rw [← Option.some.inj hf]
    cases w with
    | gate name stubborn next =>
      obtain ⟨rfl, hnext⟩ := hstand
      exact hnext
    | task id next => exact hstand
  · cases hf

theorem abandoned? (h : j.Spared) : j.abandoned? = none := by
  unfold Job.abandoned?
  split
  · rename_i id next b hp
    cases b with
    | false => simp [h.unasked]
    | true => exact absurd hp (h.called _)
  · rfl

end Job.Spared

/-- A task that was left alone. -/
inductive Scene.Spared (s : Scene) (i : Nat) : Prop where
  | resting (j : Job) (hj : s.loop.jobs[i]? = some j) (hb : s.focus.task? ≠ some i) (h : j.Spared)
  | running (f : Flow Delivery) (hf : s.focus = .running i f) (hc : f.Complies False) (j : Job)
      (hj : s.loop.jobs[i]? = some j) (hn : j.cancelRequested = false)

theorem Scene.Opens.spared {s : Scene} {i : Nat} {st : Start} (h : s.Opens i st)
    (hc : st.flow.Complies False) : s.Spared i :=
  .resting _ h.job h.still ⟨rfl, by simp, hc⟩

theorem Reply.answered_complies {p : Reply} {next : Answer → Flow Delivery}
    (h : ∀ a, (next a).Complies (False ∨ a = .interruption)) (ha : p.answer ≠ .interruption) :
    (p.answered next).Complies False := by
  have hnext : (next p.answer).Complies False :=
    (h p.answer).mono fun hor => hor.elim id fun he => ha he
  unfold Reply.answered
  split
  · exact hnext
  · exact ⟨rfl, hnext⟩

theorem Step.spared {s s' : Scene} (hs : Step s s') {i : Nat} (hcancel : ¬ s.Cancels i s')
    (hbreak : ¬ s.BreaksOff i) (h : s.Spared i) : s'.Spared i := by
  cases h with
  | resting j hj hb h =>
    -- others can settle its result or call it back with news; that it is asked is excluded
    rcases hs.meets hj hb with ⟨hb', j', hj', hm⟩ | ⟨place, f, hf, rfl⟩
    · cases hm with
      | same => exact .resting j hj' hb' h
      | settled d => exact .resting _ hj' hb' ⟨h.unasked, h.called, h.stand⟩
      | called w hw =>
        have hstand := h.stand
        rw [hw] at hstand
        exact .resting _ hj' hb' ⟨h.unasked, by simp, hstand⟩
      | asked ha _ => exact absurd ha hcancel
    · refine .running f rfl (h.next? hf) { j with cancelRequested := false } ?_ rfl
      change ((s.loop.drop place).pickUp i j).jobs[i]? = _
      unfold Loop.pickUp
      dsimp only
      rw [h.abandoned?, Loop.getElem?_update_self, Loop.drop_jobs, hj]
      rfl
  | running f hf hc j hj hn =>
    obtain ⟨l, focus⟩ := s
    obtain rfl : focus = .running i f := hf
    cases hs with
    | log _ _ line next => exact .running next rfl hc j hj hn
    | client _ _ next => exact .running _ rfl (hc l.client) j hj hn
    | session _ _ next => exact .running _ rfl (hc l.sessions.touch.view) j hj hn
    | send _ _ place r next =>
      refine .running _ rfl (Reply.answered_complies hc fun ha => ?_) j hj hn
      exact hbreak ⟨place, r, next, rfl, ha⟩
    | hear _ _ place r next => exact .running next rfl hc j hj hn
    | call _ _ o next =>
      refine .running _ rfl (fun d => hc d.asTransport) j ?_ hn
      have hspawn : (l.startRequest o none).2.jobs[i]? = l.jobs[i]? :=
        List.getElem?_append_left (List.getElem?_eq_some_iff.mp hj).1
      exact hspawn.trans hj
    | join _ _ id next d hd => exact .running _ rfl (hc d) j hj hn
    | gate _ _ name stubborn next ho => exact .running _ rfl hc.2 j hj hn
    | park _ _ w hw =>
      refine .resting { j with phase := .parked w } ?_ (by simp [Focus.task?])
        ⟨hn, by simp, hc⟩
      change (l.setPhase i (.parked w)).jobs[i]? = _
      rw [Loop.setPhase, Loop.getElem?_update_self, hj]
      rfl
    | ending _ _ _ e he =>
      refine .resting { j with phase := .ended e } ?_ (by simp [Focus.task?])
        ⟨hn, by simp, ?_⟩
      · change (l.finish i e).jobs[i]? = _
        rw [Loop.finish_jobs, Loop.setPhase, Loop.getElem?_update_self, hj]
        rfl
      · rintro rfl
        cases f with
        | interrupt => exact hc
        | _ => cases he
    | act _ _ a hfree => exact hfree.elim

theorem SparingSteps.spared {s s' : Scene} {i : Nat} (hr : SparingSteps i s s') (h : s.Spared i) :
    s'.Spared i := by
  induction hr with
  | refl => exact h
  | tail _ hs ih => exact hs.1.spared hs.2.1 hs.2.2 ih

theorem Scene.Spared.stand {s : Scene} {i : Nat} (h : s.Spared i) {e : Ending}
    (he : s.stand? i = some (.ended e)) : e ≠ .interrupted := by
  rintro rfl
  cases h with
  | resting j hj hb h =>
    have hstand := h.stand
    rw [Option.some.inj ((Scene.stand?_of_job hj hb).symm.trans he)] at hstand
    exact hstand rfl
  | running f hf hc =>
    unfold Scene.stand? at he
    rw [hf] at he
    simp at he

/-- A task that was left alone delivers what it came to. -/
theorem Scene.Spared.delivered {s : Scene} {i : Nat} (h : s.Spared i) (hin : s.InOrder)
    {d : Delivery} (ho : s.loop.outcome? i = some d) : s.loop.isCancelled i = false ∧
      (s.stand? i = some (.ended (.finished d)) ∨ ∃ cause t, s.loop.ticket? i = some t ∧
        s.stand? i = some (.ended (.escaped cause)) ∧
        d = t.kind.failed (Loop.unexpectedFailure t cause)) := by
  obtain ⟨t, e, hd, -, -, -, ho'⟩ := (hin.books i).delivered (.inr (by simp [ho]))
  have hstand := hin.stand?_of_due? hd
  have hdel : d = Loop.deliveryOf t e := Option.some.inj (ho.symm.trans ho')
  have hne := h.stand hstand
  refine ⟨?_, ?_⟩
  · rw [Bool.eq_false_iff]
    exact fun hc => hne ((Scene.isCancelled_iff hstand).mp hc)
  · cases e with
    | finished d' =>
      obtain rfl : d = d' := hdel
      exact .inl hstand
    | escaped cause => exact .inr ⟨cause, t, (Loop.ticket?_of_due? hd).1, hstand, hdel⟩
    | interrupted => exact absurd rfl hne

/-- In a run at whose end a task does not have to end early, it was left alone. -/
theorem Steps.sparing {s₀ s : Scene} (hr : Steps s₀ s) {i : Nat} (hi : i < s₀.loop.jobs.length)
    (hc : ∀ σ, s₀.stand? i = some σ → σ.Complies True) (hn : ¬ s.Doomed i)
    (hb : ∀ s₁, Steps s₀ s₁ → ¬ s₁.BreaksOff i) : SparingSteps i s₀ s := by
  induction hr with
  | refl => exact .refl
  | tail hr hs ih =>
    have hlt := Nat.lt_of_lt_of_le hi (Steps.length hr)
    have hspare := ih fun hd => hn (hs.doomed hlt hd)
    refine hspare.tail ⟨hs, fun hcancel => hn (hcancel.doomed ?_), hb _ hr⟩
    exact Steps.complies hr hi hc

theorem Scene.Keeps.not_breaksOff {s : Scene} {i : Nat} {K : Contract Delivery} (h : s.Keeps i K)
    (hK : ∀ r, ¬ K.sends r) : ¬ s.BreaksOff i := by
  rintro ⟨place, r, next, hf, -⟩
  have hσ : s.stand? i = some (.going (.send place r next)) := by
    unfold Scene.stand?
    rw [hf]
    exact if_pos rfl
  exact hK r (h.stand _ hσ).1

/-- A result that says of a task that it was cancelled, and nothing else. -/
structure Delivery.TellsCancelled (d : Delivery) (t : Ticket) : Prop where
  kind : d.kind = t.kind
  failure : ∃ f, d.HoldsOnly f ∧ f.cls = .requestCancelled ∧ f.kind = .cancelled
  status : ∀ r, d = .recovery r → r.status = .networkFailure

theorem Ticket.failed_tellsCancelled (t : Ticket) :
    (t.kind.failed (Loop.cancelledFailure t)).TellsCancelled t where
  kind := t.kind.failed_kind _
  failure := ⟨Loop.cancelledFailure t, t.kind.failed_holdsOnly _, rfl, rfl⟩
  status r hr := by
    cases hk : t.kind with
    | recovery =>
      rw [hk] at hr
      rw [← Delivery.recovery.inj hr]
      rfl
    | _ => simp [hk, ResultKind.failed] at hr

/-- What cancelling decides, for every task and in every run. Once a cancellation of the task was
accepted, the task is cancelled and delivers, whatever was on its way to it, that it was cancelled,
and it does deliver. If none was accepted, and no session breaks a request of the task off by itself,
it is not cancelled and delivers what it came to. -/
theorem cancellation_decides_result {s₀ : Scene} {i : Nat} {st : Start} (hr : Reachable s₀)
    (ho : s₀.Opens i st) (hst : st.Offered) :
    (∀ s₁ s₂ s, Steps s₀ s₁ → s₁.Cancels i s₂ → Steps s₂ s →
      (∀ d, s.loop.outcome? i = some d →
        d.TellsCancelled st.ticket ∧ s.loop.isCancelled i = true) ∧
      (st.ticket.callback ≠ some .abort → s.focus = .idle → s.loop.ready = [] →
        ∃ d, s.loop.outcome? i = some d)) ∧
    ∀ s, SparingSteps i s₀ s → ∀ d, s.loop.outcome? i = some d → s.loop.isCancelled i = false ∧
      (s.stand? i = some (.ended (.finished d)) ∨ ∃ cause, s.stand? i = some (.ended (.escaped cause)) ∧
        d = st.ticket.kind.failed (Loop.unexpectedFailure st.ticket cause)) := by
  have hticket {s : Scene} (hs : Steps s₀ s) : s.loop.ticket? i = some st.ticket :=
    (Steps.ticket? hs ho.length).trans ho.ticket?
  refine ⟨?_, ?_⟩
  · intro s₁ s₂ s h₁ hcancel h₂
    have hs : Steps s₀ s := (h₁.tail hcancel.step).trans h₂
    have hlt : i < s₂.loop.jobs.length :=
      Nat.lt_of_lt_of_le ho.length (Steps.length (h₁.tail hcancel.step))
    have hdoomed : s.Doomed i :=
      Steps.doomed h₂ hlt (hcancel.doomed (Steps.complies h₁ ho.length (ho.complies hst)))
    constructor
    · intro d hd
      obtain ⟨hcancelled, t, ht, rfl⟩ := hdoomed.delivered (hr.trans hs).inOrder hd
      obtain rfl := Option.some.inj ((hticket hs).symm.trans ht)
      exact ⟨st.ticket.failed_tellsCancelled, hcancelled⟩
    · exact fun hc => hdoomed.delivers (hr.trans hs) (hticket hs) hc
  · intro s hs d hd
    have hspared : s.Spared i := hs.spared (ho.spared hst.complies)
    obtain ⟨hgoes, hend | ⟨cause, t, ht, hend, hfail⟩⟩ :=
      hspared.delivered (hr.trans hs.steps).inOrder hd
    · exact ⟨hgoes, .inl hend⟩
    · obtain rfl := Option.some.inj ((hticket hs.steps).symm.trans ht)
      exact ⟨hgoes, .inr ⟨cause, hend, hfail⟩⟩

/-- The shop that answers the question only when its gate is open. -/
def Loop.slowShop : Loop :=
  .ofClient (.named "alice") true
    [{ Reply.ofDocument 200 (.obj [("customer", .obj [("id", .int 1)])]) with gate := some "door" }]

/-- The question there, when its answer has come and was not yet handed over. -/
def Loop.answeredShop : Loop := (Loop.slowShop.start .lookup).2.settle.release "door"

/-- The end of the question when it is cancelled at that moment. -/
def Scene.cancelledLookup : Scene := ⟨(Loop.answeredShop.act (.cancel 0)).settle, .idle⟩

/-- The end of the question when nobody cancels it. -/
def Scene.foundLookup : Scene := ⟨Loop.answeredShop.settle, .idle⟩

theorem cancellation_decides_result_of_answered_lookup :
    (∃ d, Scene.cancelledLookup.loop.outcome? 0 = some d ∧ d.TellsCancelled Start.lookup.ticket ∧
      Scene.cancelledLookup.loop.isCancelled 0 = true) ∧
    ∃ d, Scene.foundLookup.loop.outcome? 0 = some d ∧
      Scene.foundLookup.stand? 0 = some (.ended (.finished d)) := by
  have hop : Loop.slowShop.client.startOperation (.getCustomer (.text "1")) none = .ok .lookup := by
    rfl
  have hshop : Reachable ⟨.slowShop, .idle⟩ := .initial _ _ _
  have hr : Reachable ⟨(Loop.slowShop.start .lookup).2, .idle⟩ := hshop.act trivial (.start .lookup)
  have ho : Scene.Opens ⟨(Loop.slowShop.start .lookup).2, .idle⟩ 0 .lookup :=
    Scene.Opens.start hshop trivial .lookup
  have hoffered : Start.lookup.Offered := .operation _ _ _ _ hop
  have hsettle := ((Loop.slowShop.start .lookup).2.settle_steps).steps
  have hanswer : Steps ⟨(Loop.slowShop.start .lookup).2, .idle⟩ ⟨.answeredShop, .idle⟩ :=
    hsettle.tail (.act _ .idle (.release "door") trivial)
  obtain ⟨hcut, hgo⟩ := cancellation_decides_result hr ho hoffered
  constructor
  · have hcancel : Scene.Cancels 0 ⟨.answeredShop, .idle⟩
        ⟨Loop.answeredShop.act (.cancel 0), .idle⟩ := .call _ .idle trivial (by decide +kernel)
    have hend : Steps ⟨Loop.answeredShop.act (.cancel 0), .idle⟩ .cancelledLookup :=
      (Loop.answeredShop.act (.cancel 0)).settle_steps.steps
    have hready : Scene.cancelledLookup.loop.ready = [] := by
      rw [← List.isEmpty_iff]
      decide +kernel
    obtain ⟨htells, hdone⟩ := hcut _ _ _ hanswer hcancel hend
    obtain ⟨d, hd⟩ := hdone (by simp [Start.lookup]) rfl hready
    exact ⟨d, hd, htells d hd⟩
  · have hend : Steps ⟨(Loop.slowShop.start .lookup).2, .idle⟩ .foundLookup :=
      hanswer.trans Loop.answeredShop.settle_steps.steps
    have hgoes : Scene.foundLookup.loop.isCancelled 0 = false := by decide +kernel
    have hdone : (Scene.foundLookup.loop.outcome? 0).isSome = true := by decide +kernel
    have hfound : ((Scene.foundLookup.loop.outcome? 0).bind (·.failure?)).isNone = true := by
      decide +kernel
    obtain ⟨d, hd⟩ := Option.isSome_iff_exists.mp hdone
    have hspare : SparingSteps 0 ⟨(Loop.slowShop.start .lookup).2, .idle⟩ .foundLookup := by
      refine Steps.sparing hend ho.length (ho.complies hoffered) ?_ fun s₁ hs₁ => ?_
      · intro hdoomed
        have hcancelled := (hdoomed.delivered (hr.trans hend).inOrder hd).1
        exact absurd (hgoes.symm.trans hcancelled) (by simp)
      · obtain ⟨url, -, hobeys⟩ := Client.startOperation_obeys hop
        exact (Steps.keeps hs₁ (ho.keeps hobeys)).not_breaksOff fun _ hsends => hsends
    obtain ⟨-, hstand | ⟨cause, -, hfail⟩⟩ := hgo _ hspare d hd
    · exact ⟨d, hd, hstand⟩
    · rw [hd, hfail] at hfound
      cases hfound

end Storefront
