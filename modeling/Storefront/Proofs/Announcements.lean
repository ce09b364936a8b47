import Storefront.Proofs.Plays
import Storefront.Proofs.Redirects

/-! Requests are announced. Nothing is sent for a request before the log shows its method and its
whole address. -/
namespace Storefront

/-- A flow logs a line before it sends anything. -/
def Flow.Heralds {α : Type} (line : Log.Line) : Flow α → Prop
  | .finish _ => True
  | .escape _ => True
  | .interrupt => True
  | .log l next => l = line ∨ next.Heralds line
  | .client next => ∀ c, (next c).Heralds line
  | .session next => ∀ v, (next v).Heralds line
  | .send _ _ _ => False
  | .hear _ _ next => next.Heralds line
  | .call _ next => ∀ r, (next r).Heralds line
  | .join _ next => ∀ d, (next d).Heralds line
  | .gate _ _ next => next.Heralds line

theorem Flow.Heralds.bind {α β : Type} {line : Log.Line} {f : Flow α} {g : α → Flow β}
    (hf : f.Heralds line) (hg : ∀ a, (g a).Heralds line) : (f.bind g).Heralds line := by
  induction f with
  | finish a => exact hg a
  | escape cause => trivial
  | interrupt => trivial
  | log l next ih => exact hf.imp_right ih
  | client next ih => exact fun c => ih c (hf c)
  | session next ih => exact fun v => ih v (hf v)
  | send place r next ih => exact hf.elim
  | hear place r next ih => exact ih hf
  | call o next ih => exact fun r => ih r (hf r)
  | join id next ih => exact fun d => ih d (hf d)
  | gate name stubborn next ih => exact ih hf

/-- The line that announces a request. -/
def Outgoing.announcement (o : Outgoing) : Log.Line :=
  { level := .debug, source := .client, message := o.description }

theorem Exchange.flow_heralds (o : Outgoing) : (flow o).Heralds o.announcement := by
  unfold flow
  cases writeContent o with
  | error f => trivial
  | ok body => exact .inl rfl

/-- A task has logged a line, or it has sent nothing and will log the line before it does. -/
def Scene.Heralds (s : Scene) (i : Nat) (line : Log.Line) : Prop :=
  .log i line ∈ s.loop.trace ∨
    s.loop.requests i = [] ∧ ∀ f, s.stand? i = some (.going f) → f.Heralds line

theorem Step.trace_mem {s s' : Scene} (hs : Step s s') {e : Event} (h : e ∈ s.loop.trace) :
    e ∈ s'.loop.trace := by
  obtain ⟨es, hes⟩ := hs.trace
  rw [hes]
  exact List.mem_append_left _ h

/-- In a turn a task logs the line, or it sends nothing and still heralds the line. -/
theorem Turn.heralds {l : Loop} {σ σ' : Stand} {ds : List Deed} {line : Log.Line}
    (m : Turn l σ ds σ') (h : ∀ f, σ = .going f → f.Heralds line) :
    (∃ next, σ = .going (.log line next)) ∨
      ds.filterMap Deed.request? = [] ∧ ∀ f, σ' = .going f → f.Heralds line := by
  have hgoing {f : Flow Delivery} (hf : f.Heralds line) :
      ∀ f', Stand.going f = .going f' → f'.Heralds line := by
    rintro _ ⟨⟩
    exact hf
  cases m with
  | rest => exact .inr ⟨rfl, h⟩
  | log l next =>
    rcases h _ rfl with rfl | hn
    · exact .inl ⟨next, rfl⟩
    · exact .inr ⟨rfl, hgoing hn⟩
  | client next => exact .inr ⟨rfl, hgoing (h _ rfl l.client)⟩
  | session next v => exact .inr ⟨rfl, hgoing (h _ rfl v)⟩
  | send place r next p => exact (h _ rfl).elim
  | hear place r next =>
    have hn : next.Heralds line := h (.hear place r next) rfl
    exact .inr ⟨rfl, hgoing hn⟩
  | call o next => exact .inr ⟨rfl, hgoing fun d => h _ rfl d.asTransport⟩
  | join id next d hd => exact .inr ⟨rfl, hgoing (h _ rfl d)⟩
  | gate name stubborn next =>
    have hn : next.Heralds line := h (.gate name stubborn next) rfl
    exact .inr ⟨rfl, hgoing hn⟩
  | interrupt f =>
    have hn : (Flow.interrupt : Flow Delivery).Heralds line := trivial
    exact .inr ⟨rfl, hgoing hn⟩
  | ending f e he => exact .inr ⟨rfl, fun _ hf => by cases hf⟩

theorem Job.next_heralds {j : Job} {f : Flow Delivery} {line : Log.Line} (hf : j.next? = some f)
    (h : ∀ f, j.phase.stand = .going f → f.Heralds line) : f.Heralds line := by
  rcases Job.next?_cases hf with ⟨-, rfl⟩ | hg | ⟨name, stubborn, hg⟩
  · trivial
  · exact h f hg
  · have hgate : (Flow.gate name stubborn f).Heralds line := h _ hg
    exact hgate

/-- What a task heralds it keeps in every step. -/
theorem Step.heralds {s s' : Scene} (hs : Step s s') {i : Nat} {line : Log.Line}
    (hi : i < s.loop.jobs.length) (h : s.Heralds i line) : s'.Heralds i line := by
  rcases h with hlogged | ⟨hnone, hstand⟩
  · exact .inl (hs.trace_mem hlogged)
  · have ht := hs.turns hi
    obtain ⟨σ, hσ⟩ := Scene.exists_stand? hi
    by_cases hb : s.focus.task? = some i
    · obtain ⟨ds, σ', hσ', hd, hm, -⟩ := ht.turn σ hσ
      rcases hm.heralds fun f hf => hstand f (hσ.trans (congrArg some hf)) with
        ⟨next, rfl⟩ | ⟨hquiet, hstand'⟩
      · -- the line is logged in this step
        left
        obtain ⟨l, focus⟩ := s
        cases focus with
        | idle => cases hb
        | inside task => cases hb
        | running task f =>
          obtain rfl : task = i := Option.some.inj hb
          have hf : f = .log line next :=
            Stand.going.inj (Option.some.inj ((if_pos rfl).symm.trans hσ))
          rw [hs.of_running, hf]
          exact List.mem_append_right _ List.mem_cons_self
      · refine .inr ⟨?_, fun f hf => hstand' f (Option.some.inj (hσ'.symm.trans hf))⟩
        unfold Loop.requests at hnone ⊢
        rw [hd, List.filterMap_append, hnone, hquiet]
        rfl
    · have hsame : s'.loop.requests i = [] := by
        unfold Loop.requests at hnone ⊢
        rw [hs.deeds hb]
        exact hnone
      refine .inr ⟨hsame, fun f hf => ?_⟩
      rcases ht.held hb with hheld | ⟨j, f', hj, hnext, hf'⟩
      · exact hstand f (hheld.symm.trans hf)
      · obtain rfl := Stand.going.inj (Option.some.inj (hf'.symm.trans hf))
        refine Job.next_heralds hnext fun g hg => hstand g ?_
        rw [Scene.stand?_of_job hj hb, hg]

theorem Steps.heralds {s s' : Scene} (hs : Steps s s') {i : Nat} {line : Log.Line}
    (hi : i < s.loop.jobs.length) (h : s.Heralds i line) : s'.Heralds i line := by
  induction hs with
  | refl => exact h
  | tail hrun hstep ih =>
    exact hstep.heralds (Nat.lt_of_lt_of_le hi (Steps.length hrun)) ih

/-- A request of an operation of which anything was sent has been announced. -/
theorem Reachable.announced {s : Scene} (hr : Reachable s) {i k : Nat} {o : Outgoing}
    (hk : .call k o ∈ s.loop.deeds i) (hsent : s.loop.requests k ≠ []) :
    .log k o.announcement ∈ s.loop.trace := by
  obtain ⟨s₀, -, hs, hopens⟩ := hr.born hk
  have hheralds : s₀.Heralds k o.announcement := by
    refine .inr ⟨?_, fun f hf => ?_⟩
    · unfold Loop.requests
      rw [hopens.deeds]
      rfl
    · rw [← Stand.going.inj (Option.some.inj (hopens.stand?.symm.trans hf))]
      exact (Exchange.flow_heralds o).bind fun _ => trivial
  rcases Steps.heralds hs hopens.length hheralds with hlogged | ⟨hnone, -⟩
  · exact hlogged
  · exact absurd hnone hsent

end Storefront
