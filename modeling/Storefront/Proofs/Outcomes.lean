import Storefront.Proofs.Sparing

/-! What callers of operations can rely on when they take a result apart: it has everything or it has
a failure, and waiting for it raises nothing. -/
namespace Storefront

theorem Client.startOperation_ticket {c : Client} {op : Operation} {callback : Option Callback}
    {st : Start} (h : c.startOperation op callback = .ok st) : st.ticket.kind = op.kind := by
  unfold startOperation at h
  cases hf : op.flow c with
  | error e =>
    rw [hf] at h
    cases h
  | ok F =>
    rw [hf] at h
    rw [← Except.ok.inj h]

/-- A task that keeps a contract delivers what the contract allows, or a failure and nothing else. -/
theorem Scene.Keeps.delivered {s : Scene} {i : Nat} {K : Contract Delivery} (h : s.Keeps i K)
    (hin : s.InOrder) {d : Delivery} (ho : s.loop.outcome? i = some d) :
    K.ends d ∨ ∃ t f, s.loop.ticket? i = some t ∧ d = t.kind.failed f := by
  obtain ⟨t, e, hd, -, -, -, ho'⟩ := (hin.books i).delivered (.inr (by simp [ho]))
  have hend := h.stand _ (hin.stand?_of_due? hd)
  have hticket := (Loop.ticket?_of_due? hd).1
  rw [Option.some.inj (ho.symm.trans ho')]
  cases e with
  | finished d' => exact .inl hend
  | escaped cause => exact .inr ⟨t, _, hticket, rfl⟩
  | interrupted => exact .inr ⟨t, _, hticket, rfl⟩

/-- Whoever begins to wait for a task is not cancelled yet. -/
theorem Scene.Spared.listener {l : Loop} {f : Focus} (hf : f.IsFree) (task : Nat) :
    Scene.Spared ⟨(l.startWaiter task).2, f⟩ l.jobs.length :=
  .resting { phase := .fresh (.join task .finish) } (by simp [Loop.startWaiter])
    (by simp [hf.task?]) ⟨rfl, by simp, fun _ => trivial⟩

/-- Whoever waits for a result gets it, and nothing else ends the waiting but being cancelled. -/
theorem Scene.Listens.outcome {s₀ s : Scene} {waiter task : Nat} {d : Delivery}
    (hl : s.Listens waiter task) (hs : s₀.Spared waiter) (ho : s.loop.outcome? task = some d)
    {e : Ending} (he : s.stand? waiter = some (.ended e)) :
    e = .finished d ∨ e = .interrupted ∧ ¬ SparingSteps waiter s₀ s := by
  cases hl with
  | yet h => exact absurd (h.symm.trans he) (by simp)
  | heard d' _ h => exact absurd (h.symm.trans he) (by simp)
  | stopped h => exact absurd (h.symm.trans he) (by simp)
  | ended e' h hend =>
    obtain rfl := Stand.ended.inj (Option.some.inj (h.symm.trans he))
    rcases hend with rfl | ⟨d', rfl, ho'⟩
    · exact .inr ⟨rfl, fun hspare => (hspare.spared hs).stand he rfl⟩
    · obtain rfl := Option.some.inj (ho.symm.trans ho')
      exact .inl rfl

/-- What an operation delivers in any run, whatever it is answered, whatever fails, and whether or not
it is cancelled: a result of its own kind that has either all its parts and no failure, or a failure
and no part. Whoever waits for it ends with it, unless whoever waits is cancelled. -/
theorem operation_result_is_whole_or_bare {l : Loop} {f : Focus} {op : Operation}
    {callback : Option Callback} {st : Start} {s : Scene} {d : Delivery} (hr : Reachable ⟨l, f⟩)
    (hf : f.IsFree) (hop : op.kind ≠ .recovery)
    (hst : l.client.startOperation op callback = .ok st) (hs : Steps ⟨(l.start st).2, f⟩ s)
    (hd : s.loop.outcome? l.jobs.length = some d) :
    d.kind = op.kind ∧ (d.IsWhole ∧ ¬ d.IsBare ∨ d.IsBare ∧ ¬ d.IsWhole) ∧
    ∀ l₁ f₁, Reachable ⟨l₁, f₁⟩ → f₁.IsFree →
      Steps ⟨(l₁.startWaiter l.jobs.length).2, f₁⟩ s →
      (∀ e, s.stand? l₁.jobs.length = some (.ended e) → e = .finished d ∨ e = .interrupted ∧
        ¬ SparingSteps l₁.jobs.length ⟨(l₁.startWaiter l.jobs.length).2, f₁⟩ s) ∧
      (s.focus = .idle → s.loop.ready = [] →
        ∃ e, s.stand? l₁.jobs.length = some (.ended e)) := by
  have hopen := Scene.Opens.start hr hf st
  have hreach : Reachable s := (hr.act hf (.start st)).trans hs
  obtain ⟨url, -, hobeys⟩ := Client.startOperation_obeys hst
  have hshape : d.kind = op.kind ∧ (d.IsWhole ∨ d.IsBare) := by
    rcases (Steps.keeps hs (hopen.keeps hobeys)).delivered hreach.inOrder hd with
      ⟨hkind, hends⟩ | ⟨t, e, ht, rfl⟩
    · exact ⟨hkind, hends hop⟩
    · have hticket := (Steps.ticket? hs hopen.length).trans hopen.ticket?
      obtain rfl := Option.some.inj (ht.symm.trans hticket)
      rw [ResultKind.failed_kind, Client.startOperation_ticket hst]
      exact ⟨rfl, .inr ⟨e, ResultKind.failed_holdsOnly _ e⟩⟩
  refine ⟨hshape.1, ?_, ?_⟩
  · rcases hshape.2 with hw | hb
    · exact .inl ⟨hw, fun hb => Delivery.not_isWhole_of_isBare hb hw⟩
    · exact .inr ⟨hb, Delivery.not_isWhole_of_isBare hb⟩
  · intro l₁ f₁ hr₁ hf₁ hs₁
    have hlt : l₁.jobs.length < (l₁.startWaiter l.jobs.length).2.jobs.length := by
      simp [Loop.startWaiter]
    obtain ⟨-, -, hlisten⟩ :=
      Steps.listens hs₁ (hr₁.act hf₁ (.await l.jobs.length)).inOrder hlt (.start hf₁ _)
    constructor
    · exact fun e he => hlisten.outcome (.listener hf₁ _) hd he
    · intro hidle hempty
      rcases hlisten.hears hreach.awake hd with h | h | h | h | h
      · exact ⟨_, h⟩
      · exact ⟨_, h⟩
      · simp [hidle, Focus.task?] at h
      · simp [hempty] at h
      · simp [hempty] at h

/-- The end of the creation of an account whose login fails, with someone who waits for it. -/
def Scene.awaitedAccount : Scene :=
  ⟨((Loop.newShop.start .newAccount).2.startWaiter 0).2.settle, .idle⟩

theorem operation_result_is_whole_or_bare_without_login : ∃ d,
    Scene.awaitedAccount.loop.outcome? Loop.newShop.jobs.length = some d ∧ d.kind = .login ∧
      d.IsBare ∧ ¬ d.IsWhole ∧ Scene.awaitedAccount.stand? 1 = some (.ended (.finished d)) := by
  have hop : Loop.newShop.client.startOperation (.createCustomer .newcomer) none =
      .ok .newAccount := by rfl
  have hshop : Reachable ⟨.newShop, .idle⟩ := .initial _ _ _
  have hwait : Steps ⟨((Loop.newShop.start .newAccount).2.startWaiter 0).2, .idle⟩ .awaitedAccount :=
    ((Loop.newShop.start .newAccount).2.startWaiter 0).2.settle_steps.steps
  have hsteps : Steps ⟨(Loop.newShop.start .newAccount).2, .idle⟩ .awaitedAccount :=
    hwait.head (.act _ .idle (.await 0) trivial)
  have hdone : (Scene.awaitedAccount.loop.outcome? 0).isSome = true := by decide +kernel
  have hfailed : ((Scene.awaitedAccount.loop.outcome? 0).bind (·.failure?)).isSome = true := by
    decide +kernel
  have hgoes : Scene.awaitedAccount.loop.isCancelled 1 = false := by decide +kernel
  have hready : Scene.awaitedAccount.loop.ready = [] := by
    rw [← List.isEmpty_iff]
    decide +kernel
  obtain ⟨d, hd⟩ := Option.isSome_iff_exists.mp hdone
  obtain ⟨hkind, hshape, hawait⟩ := operation_result_is_whole_or_bare (l := .newShop) (f := .idle)
    hshop trivial (by simp [Operation.kind]) hop hsteps hd
  obtain ⟨hends, hend⟩ := hawait _ .idle (hshop.act trivial (.start .newAccount)) trivial hwait
  obtain ⟨e, he⟩ := hend rfl hready
  refine ⟨d, hd, hkind, ?_⟩
  rcases hshape with ⟨hwhole, -⟩ | ⟨hbare, hnot⟩
  · rw [hd, Option.bind_some, hwhole.failure?] at hfailed
    cases hfailed
  · refine ⟨hbare, hnot, ?_⟩
    rcases hends e he with rfl | ⟨rfl, -⟩
    · exact he
    · have hcut : Scene.awaitedAccount.loop.isCancelled 1 = true := Scene.isCancelled_of_stand? he
      exact absurd (hgoes.symm.trans hcut) (by simp)

end Storefront
