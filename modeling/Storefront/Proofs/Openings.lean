import Storefront.Proofs.Runs
import Storefront.Proofs.Transport

/-! The moments at which tasks are started. A caller starts a task, or a task starts a request of its
own; from then on both run in the same way. -/
namespace Storefront

/-- A task has just been started and has not gone on yet. -/
structure Scene.Opens (s : Scene) (i : Nat) (st : Start) : Prop where
  job : s.loop.jobs[i]? = some { phase := .fresh st.flow, ticket := some st.ticket }
  still : s.focus.task? ≠ some i
  deeds : s.loop.deeds i = []

theorem Focus.IsFree.task? {f : Focus} (h : f.IsFree) : f.task? = none := by
  cases f with
  | running id flow => exact h.elim
  | idle => rfl
  | inside id => rfl

theorem Scene.stand?_of_job {s : Scene} {i : Nat} {j : Job} (hj : s.loop.jobs[i]? = some j)
    (hb : s.focus.task? ≠ some i) : s.stand? i = some j.phase.stand := by
  have hl : s.loop.stand? i = some j.phase.stand := by
    unfold Loop.stand?
    rw [hj]
    rfl
  unfold Scene.stand?
  split
  · rename_i id flow hf
    have hne : id ≠ i := fun he => hb (by rw [hf, he]; rfl)
    rw [if_neg hne, hl]
  · exact hl

namespace Scene.Opens

variable {s : Scene} {i : Nat} {st : Start}

theorem length (h : s.Opens i st) : i < s.loop.jobs.length :=
  (List.getElem?_eq_some_iff.mp h.job).1

theorem stand? (h : s.Opens i st) : s.stand? i = some (.going st.flow) :=
  Scene.stand?_of_job h.job h.still

theorem ticket? (h : s.Opens i st) : s.loop.ticket? i = some st.ticket := by
  unfold Loop.ticket?
  rw [h.job]
  rfl

/-- What a caller starts. -/
theorem start {l : Loop} {f : Focus} (hr : Reachable ⟨l, f⟩) (hf : f.IsFree) (st : Start) :
    Opens ⟨(l.start st).2, f⟩ l.jobs.length st where
  job := by simp [Loop.start]
  still := by simp [hf.task?]
  deeds := hr.fosters.unborn _ (Nat.le_refl _)

/-- A flow that obeys a contract opens a task that keeps it. -/
theorem keeps {K : Contract Delivery} (h : s.Opens i st) (hK : st.flow.Obeys K) : s.Keeps i K where
  stand σ hσ := by
    rw [← Option.some.inj (h.stand?.symm.trans hσ)]
    exact hK
  deeds d hd := by
    rw [h.deeds] at hd
    cases hd
  length := h.length

end Scene.Opens

/-- Only a step of a task that asks for a request makes one. -/
theorem Step.of_call {s s' : Scene} (hs : Step s s') {l : Loop} {i : Nat} {o : Outgoing}
    {next : TransportResult → Flow Delivery} (h : s = ⟨l, .running i (.call o next)⟩) :
    s' = ⟨l.called i o, .running i (.join l.jobs.length fun d => next d.asTransport)⟩ := by
  cases hs with
  | call l task o next =>
    cases h
    rfl
  | park l task w hw => cases w <;> cases h
  | ending l task f e he =>
    cases h
    cases he
  | act l f a hf =>
    cases h
    exact hf.elim
  | _ => cases h

/-- A task that stands before a request of its own and makes it in a step takes that step. -/
theorem Step.births {s s' : Scene} (hs : Step s s') (hr : Reachable s) {i k : Nat} {o : Outgoing}
    (h : .call k o ∈ s'.loop.deeds i) : .call k o ∈ s.loop.deeds i ∨
      s'.Opens k ⟨.transport <$> Exchange.flow o, Loop.requestTicket o none⟩ := by
  -- only a task whose turn it is asks for anything
  by_cases hb : s.focus.task? = some i
  · have hi := hr.fosters.running i hb
    obtain ⟨σ, hσ⟩ := Scene.exists_stand? hi
    obtain ⟨ds, σ', -, hd, hm, -⟩ := (hs.turns hi).turn σ hσ
    rw [hd] at h
    rcases List.mem_append.mp h with h | h
    · exact .inl h
    · right
      cases hm with
      | call o' next =>
        obtain ⟨rfl, rfl⟩ := Deed.call.inj (List.mem_singleton.mp h)
        obtain ⟨l, focus⟩ := s
        cases focus with
        | running task flow =>
          obtain rfl := Option.some.inj hb
          have hflow : flow = .call o next :=
            Stand.going.inj (Option.some.inj ((if_pos rfl).symm.trans hσ))
          rw [hs.of_call (by rw [hflow])]
          have hne : task ≠ l.jobs.length := Nat.ne_of_lt hi
          refine ⟨by simp [Loop.called, Loop.startRequest], fun he => hne (Option.some.inj he), ?_⟩
          change (l.called task o).deeds l.jobs.length = []
          rw [Loop.called, Loop.record_deeds, Event.deed?, if_neg hne]
          exact (List.append_nil _).trans (hr.fosters.unborn _ (Nat.le_refl _))
        | idle => cases hb
        | inside task => cases hb
      | _ => simp at h
  · rw [hs.deeds hb] at h
    exact .inl h

/-- The requests that tasks make of their own were started at some moment. -/
theorem Reachable.born {s : Scene} (hr : Reachable s) {i k : Nat} {o : Outgoing}
    (h : .call k o ∈ s.loop.deeds i) : ∃ s₀, Reachable s₀ ∧ Steps s₀ s ∧
      s₀.Opens k ⟨.transport <$> Exchange.flow o, Loop.requestTicket o none⟩ := by
  obtain ⟨c, owned, server, keeper, hrun⟩ := hr
  induction hrun with
  | refl => cases h
  | @tail s₁ s₂ hrun hs ih =>
    have hr₁ : Reachable s₁ := ⟨c, owned, server, keeper, hrun⟩
    rcases hs.births hr₁ h with h | h
    · obtain ⟨s₀, hr₀, hs₀, hopens⟩ := ih h
      exact ⟨s₀, hr₀, hs₀.tail hs, hopens⟩
    · exact ⟨s₂, hr₁.trans (.single hs), .refl, h⟩

/-! Runs of a single task -/

namespace Scene

/-- A new loop in which a task has just been started. -/
def opening (c : Client) (server : Server) (st : Start) : Scene :=
  ⟨((Loop.ofClient c true server).start st).2, .idle⟩

/-- The end of the run from there in which nothing else happens. -/
def closing (c : Client) (server : Server) (st : Start) : Scene :=
  ⟨(opening c server st).loop.settle, .idle⟩

variable (c : Client) (server : Server) (st : Start)

theorem opening_reachable : Reachable (opening c server st) :=
  (Reachable.initial _ _ _).act trivial (.start st)

theorem opening_opens : (opening c server st).Opens 0 st :=
  Opens.start (.initial _ _ _) trivial st

theorem closing_steps : Steps (opening c server st) (closing c server st) :=
  (opening c server st).loop.settle_steps.steps

end Scene

end Storefront
