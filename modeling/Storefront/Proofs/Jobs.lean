import Mathlib.Data.List.Permutation
import Storefront.Proofs.Steps

/-! What the operations of a loop do to its tasks, its queue and its trace. -/
namespace Storefront

namespace Loop

@[simp] theorem record_jobs (l : Loop) (e : Event) : (l.record e).jobs = l.jobs := rfl
@[simp] theorem record_ready (l : Loop) (e : Event) : (l.record e).ready = l.ready := rfl
@[simp] theorem record_waiting (l : Loop) (e : Event) : (l.record e).waiting = l.waiting := rfl
@[simp] theorem record_client (l : Loop) (e : Event) : (l.record e).client = l.client := rfl
@[simp] theorem record_trace (l : Loop) (e : Event) : (l.record e).trace = l.trace ++ [e] := rfl

@[simp] theorem push_jobs (l : Loop) (h : Handle) : (l.push h).jobs = l.jobs := rfl
@[simp] theorem push_ready (l : Loop) (h : Handle) : (l.push h).ready = l.ready ++ [h] := rfl
@[simp] theorem push_waiting (l : Loop) (h : Handle) : (l.push h).waiting = l.waiting := rfl
@[simp] theorem push_client (l : Loop) (h : Handle) : (l.push h).client = l.client := rfl
@[simp] theorem push_trace (l : Loop) (h : Handle) : (l.push h).trace = l.trace := rfl

@[simp] theorem drop_jobs (l : Loop) (place : Nat) : (l.drop place).jobs = l.jobs := rfl
@[simp] theorem drop_ready (l : Loop) (place : Nat) :
    (l.drop place).ready = l.ready.eraseIdx place := rfl
@[simp] theorem drop_waiting (l : Loop) (place : Nat) : (l.drop place).waiting = l.waiting := rfl
@[simp] theorem drop_client (l : Loop) (place : Nat) : (l.drop place).client = l.client := rfl
@[simp] theorem drop_trace (l : Loop) (place : Nat) : (l.drop place).trace = l.trace := rfl

/-- The queue is what was taken from it and what is left. -/
theorem drop_perm {l : Loop} {place : Nat} {h : Handle} (hr : l.ready[place]? = some h) :
    (h :: (l.drop place).ready).Perm l.ready := by
  obtain ⟨hlt, hh⟩ := List.getElem?_eq_some_iff.mp hr
  exact hh ▸ List.getElem_cons_eraseIdx_perm hlt

@[simp] theorem update_ready (l : Loop) (task : Nat) (f : Job → Job) :
    (l.update task f).ready = l.ready := rfl
@[simp] theorem update_waiting (l : Loop) (task : Nat) (f : Job → Job) :
    (l.update task f).waiting = l.waiting := rfl
@[simp] theorem update_client (l : Loop) (task : Nat) (f : Job → Job) :
    (l.update task f).client = l.client := rfl
@[simp] theorem update_trace (l : Loop) (task : Nat) (f : Job → Job) :
    (l.update task f).trace = l.trace := rfl

theorem getElem?_update (l : Loop) (task i : Nat) (f : Job → Job) :
    (l.update task f).jobs[i]? = if task = i then l.jobs[i]?.map f else l.jobs[i]? := by
  rw [update, List.getElem?_modify]
  split <;> simp

theorem getElem?_update_self (l : Loop) (task : Nat) (f : Job → Job) :
    (l.update task f).jobs[task]? = l.jobs[task]?.map f := by
  rw [getElem?_update, if_pos rfl]

theorem getElem?_update_ne (l : Loop) {task i : Nat} (f : Job → Job) (h : task ≠ i) :
    (l.update task f).jobs[i]? = l.jobs[i]? := by
  rw [getElem?_update, if_neg h]

@[simp] theorem update_length (l : Loop) (task : Nat) (f : Job → Job) :
    (l.update task f).jobs.length = l.jobs.length := by
  simp [update]

theorem outcome?_update (l : Loop) (task i : Nat) (f : Job → Job)
    (hf : ∀ j, (f j).outcome = j.outcome) : (l.update task f).outcome? i = l.outcome? i := by
  unfold outcome?
  rw [getElem?_update]
  split
  · cases l.jobs[i]? with
    | none => rfl
    | some j => exact hf j
  · rfl

@[simp] theorem outcome?_setPhase (l : Loop) (task i : Nat) (p : Phase) :
    (l.setPhase task p).outcome? i = l.outcome? i :=
  outcome?_update l task i _ fun _ => rfl

@[simp] theorem spawn_fst (l : Loop) (flow : Flow Delivery) (t : Option Ticket) :
    (l.spawn flow t).1 = l.jobs.length := rfl
@[simp] theorem spawn_jobs (l : Loop) (flow : Flow Delivery) (t : Option Ticket) :
    (l.spawn flow t).2.jobs = l.jobs ++ [{ phase := .fresh flow, ticket := t }] := rfl
@[simp] theorem spawn_ready (l : Loop) (flow : Flow Delivery) (t : Option Ticket) :
    (l.spawn flow t).2.ready = l.ready ++ [.resume l.jobs.length] := rfl
@[simp] theorem spawn_waiting (l : Loop) (flow : Flow Delivery) (t : Option Ticket) :
    (l.spawn flow t).2.waiting = l.waiting := rfl
@[simp] theorem spawn_client (l : Loop) (flow : Flow Delivery) (t : Option Ticket) :
    (l.spawn flow t).2.client = l.client := rfl
@[simp] theorem spawn_trace (l : Loop) (flow : Flow Delivery) (t : Option Ticket) :
    (l.spawn flow t).2.trace = l.trace := rfl

theorem getElem?_spawn {l : Loop} {flow : Flow Delivery} {t : Option Ticket} {i : Nat} {j : Job}
    (hj : (l.spawn flow t).2.jobs[i]? = some j) :
    l.jobs[i]? = some j ∨ (i = l.jobs.length ∧ j = { phase := .fresh flow, ticket := t }) := by
  rw [spawn_jobs] at hj
  by_cases hi : i < l.jobs.length
  · exact .inl (List.getElem?_append_left hi ▸ hj)
  · rw [List.getElem?_append_right (Nat.le_of_not_lt hi)] at hj
    have hlt := (List.getElem?_eq_some_iff.mp hj).1
    simp only [List.length_cons, List.length_nil] at hlt
    have h0 : i - l.jobs.length = 0 := by omega
    rw [h0] at hj
    exact .inr ⟨by omega, (Option.some.inj hj).symm⟩

@[simp] theorem outcome?_spawn (l : Loop) (flow : Flow Delivery) (t : Option Ticket) (i : Nat) :
    (l.spawn flow t).2.outcome? i = l.outcome? i := by
  simp only [outcome?, spawn_jobs, List.getElem?_append]
  split
  · rfl
  · rename_i h
    rw [List.getElem?_eq_none (Nat.le_of_not_lt h)]
    cases i - l.jobs.length <;> rfl

theorem outcome?_deliver_ne (l : Loop) {task i : Nat} (d : Delivery) (h : task ≠ i) :
    (l.deliver task d).outcome? i = l.outcome? i := by
  simp only [outcome?, deliver, record_jobs, getElem?_update_ne l _ h]

theorem finish_client (l : Loop) (task : Nat) (e : Ending) : (l.finish task e).client = l.client := by
  unfold finish
  dsimp only
  split <;> rfl

theorem finish_sessions (l : Loop) (task : Nat) (e : Ending) :
    (l.finish task e).sessions = l.sessions := by
  unfold finish
  dsimp only
  split <;> rfl

theorem finish_jobs (l : Loop) (task : Nat) (e : Ending) :
    (l.finish task e).jobs = (l.setPhase task (.ended e)).jobs := by
  unfold finish
  dsimp only
  split <;> rfl

theorem finish_trace (l : Loop) (task : Nat) (e : Ending) : (l.finish task e).trace = l.trace := by
  unfold finish
  dsimp only
  split <;> rfl

theorem announce_jobs (l : Loop) (task : Nat) (t : Ticket) (e : Ending) :
    (l.announce task t e).jobs = l.jobs := by
  unfold announce
  split <;> rfl

theorem announce_ready (l : Loop) (task : Nat) (t : Ticket) (e : Ending) :
    (l.announce task t e).ready = l.ready := by
  unfold announce
  split <;> rfl

theorem announce_waiting (l : Loop) (task : Nat) (t : Ticket) (e : Ending) :
    (l.announce task t e).waiting = l.waiting := by
  unfold announce
  split <;> rfl

theorem announce_client (l : Loop) (task : Nat) (t : Ticket) (e : Ending) :
    (l.announce task t e).client = l.client := by
  unfold announce
  split <;> rfl

theorem announce_sessions (l : Loop) (task : Nat) (t : Ticket) (e : Ending) :
    (l.announce task t e).sessions = l.sessions := by
  unfold announce
  split <;> rfl

/-- A callback that aborts ends the delivery. After any other the result is delivered, and an error
is logged before. -/
theorem afterCallback_cases {l : Loop} {task : Nat} {t : Ticket} {c : Callback} {d : Delivery}
    {P : Loop → Prop} (abort : c = .abort → P l) (quiet : P (l.deliver task d))
    (loud : P ((l.record (.log task (callbackLine t))).deliver task d)) :
    P (l.afterCallback task t c d) := by
  have hlog : P ((if c.fails d then l.record (.log task (callbackLine t)) else l).deliver task d) := by
    split
    · exact loud
    · exact quiet
  cases c with
  | abort => exact abort rfl
  | accept => exact hlog
  | fail => exact hlog
  | probe => exact hlog
  | refuse => exact hlog

end Loop

theorem Job.ended_of_due? {j : Job} {t : Ticket} {e : Ending} (h : j.due? = some (t, e)) :
    j.ticket = some t ∧ j.phase = .ended e := by
  unfold Job.due? at h
  split at h
  · rename_i ht hp
    obtain ⟨rfl, rfl⟩ := Prod.mk.inj (Option.some.inj h)
    exact ⟨ht, hp⟩
  · cases h

/-! Calling back -/

/-- A task before and after it may have been called back or asked to end early. -/
structure Job.Stirred (j j' : Job) : Prop where
  ticket : j'.ticket = j.ticket
  outcome : j'.outcome = j.outcome
  phase : j'.phase = j.phase ∨ ∃ w b, j.phase = .parked w ∧ j'.phase = .woken w b

def Job.IsParked (j : Job) : Prop := ∃ w, j.phase = .parked w

/-- Two states of a loop between which tasks were only called back or asked to end early. -/
structure Loop.Stirred (l l' : Loop) : Prop where
  length : l'.jobs.length = l.jobs.length
  job : ∀ (i : Nat) (j : Job), l.jobs[i]? = some j → ∃ j', l'.jobs[i]? = some j' ∧ j.Stirred j'
  ready : ∃ hs, l'.ready = l.ready ++ hs ∧ ∀ h ∈ hs, ∃ t, h = .resume t
  woken : ∀ (i : Nat) (j j' : Job), l.jobs[i]? = some j → l'.jobs[i]? = some j' →
    j.IsParked → ¬ j'.IsParked →
    .resume i ∈ l'.ready
  waiting : ∀ (i : Nat) (j' : Job), l'.jobs[i]? = some j' → j'.IsParked →
    i ∈ l.waiting → i ∈ l'.waiting
  trace : l'.trace = l.trace
  client : l'.client = l.client
  sessions : l'.sessions = l.sessions
  keeper : l'.keeper = l.keeper
  heard : l'.heard = l.heard

theorem Job.Stirred.refl (j : Job) : j.Stirred j := ⟨rfl, rfl, .inl rfl⟩

theorem Job.Stirred.trans {a b c : Job} (h : a.Stirred b) (h' : b.Stirred c) : a.Stirred c := by
  refine ⟨h'.ticket.trans h.ticket, h'.outcome.trans h.outcome, ?_⟩
  rcases h.phase with hp | ⟨w, i, hw, hb⟩
  · rcases h'.phase with hp' | ⟨w, i, hw, hc⟩
    · exact .inl (hp'.trans hp)
    · exact .inr ⟨w, i, hp ▸ hw, hc⟩
  · rcases h'.phase with hp' | ⟨w', i', hw', _⟩
    · exact .inr ⟨w, i, hw, hp'.trans hb⟩
    · exact absurd (hb.symm.trans hw') (by simp)

theorem Job.Stirred.isParked {j j' : Job} (h : j.Stirred j') (hp : j'.IsParked) : j.IsParked := by
  obtain ⟨w, hw⟩ := hp
  rcases h.phase with h | ⟨v, b, _, hv⟩
  · exact ⟨w, h.symm.trans hw⟩
  · exact absurd (hv.symm.trans hw) (by simp)

namespace Loop.Stirred

theorem refl (l : Loop) : l.Stirred l where
  length := rfl
  job i j h := ⟨j, h, .refl j⟩
  ready := ⟨[], by simp, by simp⟩
  woken i j j' h h' hp hn := by
    rw [h] at h'
    exact absurd hp (Option.some.inj h' ▸ hn)
  waiting _ _ _ _ h := h
  trace := rfl
  client := rfl
  sessions := rfl
  keeper := rfl
  heard := rfl

theorem trans {a b c : Loop} (h : a.Stirred b) (h' : b.Stirred c) : a.Stirred c where
  length := h'.length.trans h.length
  job i j hj := by
    obtain ⟨k, hk, hjk⟩ := h.job i j hj
    obtain ⟨m, hm, hkm⟩ := h'.job i k hk
    exact ⟨m, hm, hjk.trans hkm⟩
  ready := by
    obtain ⟨hs, he, ht⟩ := h.ready
    obtain ⟨hs', he', ht'⟩ := h'.ready
    refine ⟨hs ++ hs', by rw [he', he, List.append_assoc], ?_⟩
    intro x hx
    rcases List.mem_append.mp hx with hx | hx
    · exact ht x hx
    · exact ht' x hx
  woken i j m hj hm hp hn := by
    obtain ⟨k, hk, _⟩ := h.job i j hj
    by_cases hkp : k.IsParked
    · exact h'.woken i k m hk hm hkp hn
    · obtain ⟨hs, he, _⟩ := h'.ready
      rw [he]
      exact List.mem_append_left _ (h.woken i j k hj hk hp hkp)
  waiting i m hm hp hi := by
    have hlt : i < b.jobs.length := by
      have := (List.getElem?_eq_some_iff.mp hm).1
      rw [h'.length] at this
      exact this
    have hk : b.jobs[i]? = some b.jobs[i] := List.getElem?_eq_getElem hlt
    obtain ⟨m', hm', hkm⟩ := h'.job i _ hk
    have hmm : m' = m := Option.some.inj (hm'.symm.trans hm)
    exact h'.waiting i m hm hp (h.waiting i _ hk (hkm.isParked (hmm ▸ hp)) hi)
  trace := h'.trace.trans h.trace
  client := h'.client.trans h.client
  sessions := h'.sessions.trans h.sessions
  keeper := h'.keeper.trans h.keeper
  heard := h'.heard.trans h.heard

theorem job' {l l' : Loop} (h : l.Stirred l') {i : Nat} {j' : Job} (hj' : l'.jobs[i]? = some j') :
    ∃ j, l.jobs[i]? = some j ∧ j.Stirred j' := by
  have hlt : i < l.jobs.length := by
    have := (List.getElem?_eq_some_iff.mp hj').1
    rw [h.length] at this
    exact this
  have hj : l.jobs[i]? = some l.jobs[i] := List.getElem?_eq_getElem hlt
  obtain ⟨k, hk, hs⟩ := h.job i _ hj
  exact ⟨_, hj, Option.some.inj (hk.symm.trans hj') ▸ hs⟩

theorem outcome? {l l' : Loop} (h : l.Stirred l') (i : Nat) : l'.outcome? i = l.outcome? i := by
  unfold Loop.outcome?
  cases hj' : l'.jobs[i]? with
  | none =>
    have : l.jobs[i]? = none := by
      rw [List.getElem?_eq_none_iff] at hj' ⊢
      rwa [← h.length]
    rw [this]
  | some j' =>
    obtain ⟨j, hj, hs⟩ := h.job' hj'
    rw [hj]
    exact hs.outcome

end Loop.Stirred

namespace Loop

theorem wake_stirred (l : Loop) (task : Nat) (b : Bool) : l.Stirred (l.wake task b) := by
  unfold wake
  split
  · rename_i w cr t o hj
    have hget (i : Nat) : (l.setPhase task (.woken w b)).jobs[i]? =
        if task = i then l.jobs[i]?.map fun j => { j with phase := .woken w b } else l.jobs[i]? :=
      getElem?_update l task i _
    refine ⟨update_length _ _ _, ?_, ⟨[.resume task], rfl, by simp⟩, ?_, ?_, rfl, rfl, rfl, rfl, rfl⟩
    · intro i j hi
      refine ⟨if task = i then { j with phase := .woken w b } else j, ?_, ?_⟩
      · change (l.setPhase task (.woken w b)).jobs[i]? = _
        rw [hget, hi]
        split <;> rfl
      · split
        · rename_i he
          subst he
          have hjj := Option.some.inj (hi.symm.trans hj)
          exact ⟨rfl, rfl, .inr ⟨w, b, by rw [hjj], rfl⟩⟩
        · exact .refl j
    · intro i j j' hi hi' hp hn
      by_cases he : task = i
      · subst he; simp
      · change (l.setPhase task (.woken w b)).jobs[i]? = _ at hi'
        rw [hget, if_neg he, hi] at hi'
        exact absurd hp (Option.some.inj hi' ▸ hn)
    · intro i j' hi' hp hi
      have hne : i ≠ task := by
        rintro rfl
        change (l.setPhase i (.woken w b)).jobs[i]? = _ at hi'
        rw [hget, if_pos rfl, hj] at hi'
        obtain ⟨v, hv⟩ := hp
        rw [← Option.some.inj hi'] at hv
        exact absurd hv (by simp)
      exact List.mem_filter.mpr ⟨hi, by simpa using hne⟩
  · exact .refl l

theorem mark_stirred (l : Loop) (task : Nat) (b : Bool) :
    l.Stirred (l.update task fun j => { j with cancelRequested := b }) where
  length := update_length _ _ _
  job i j hi := by
    rw [getElem?_update, hi]
    split
    · exact ⟨_, rfl, rfl, rfl, .inl rfl⟩
    · exact ⟨j, rfl, .refl j⟩
  ready := ⟨[], by simp, by simp⟩
  woken i j j' hi hi' hp hn := by
    rw [getElem?_update, hi] at hi'
    split at hi'
    · exact absurd hp (by rwa [← Option.some.inj hi'] at hn)
    · exact absurd hp (Option.some.inj hi' ▸ hn)
  waiting _ _ _ _ h := h
  trace := rfl
  client := rfl
  sessions := rfl
  keeper := rfl
  heard := rfl

theorem interruptJob_stirred (l : Loop) (task : Nat) : l.Stirred (l.interruptJob task).2 := by
  unfold interruptJob
  split
  · exact .refl l
  · split
    · exact .refl l
    · exact wake_stirred l task true
    · exact mark_stirred l task true

theorem cancel_stirred (l : Loop) (task : Nat) : l.Stirred (l.cancel task).2 := by
  unfold cancel
  split
  · exact .refl l
  · exact interruptJob_stirred l task

theorem relay_stirred (l : Loop) (waiter task : Nat) : l.Stirred (l.relay waiter task) := by
  unfold relay
  split
  · exact wake_stirred l waiter false
  · exact .refl l

theorem pickUp_stirred (l : Loop) (task : Nat) (j : Job) : l.Stirred (l.pickUp task j) := by
  have h := mark_stirred l task false
  unfold pickUp
  split
  · exact h.trans (cancel_stirred _ _)
  · exact h

private theorem wakes_stirred (sleepers : List Nat) (l : Loop) :
    l.Stirred (sleepers.foldl (fun l id => l.wake id false) l) := by
  induction sleepers generalizing l with
  | nil => exact .refl l
  | cons i rest ih => exact (wake_stirred l i false).trans (ih _)

theorem release_stirred (l : Loop) (gate : String) : l.Stirred (l.release gate) := by
  have hopen (gates : List String) : l.Stirred { l with openGates := gates } :=
    { Stirred.refl l with }
  unfold release
  exact (hopen _).trans (wakes_stirred _ _)

theorem cancel_of_ended {l : Loop} {task : Nat} {j : Job} {e : Ending}
    (hj : l.jobs[task]? = some j) (he : j.phase = .ended e) : l.cancel task = (false, l) := by
  unfold cancel
  split
  · rfl
  · simp only [interruptJob, hj, he]

theorem cancel_of_delivered {l : Loop} {task : Nat} {d : Delivery}
    (h : l.outcome? task = some d) : l.cancel task = (false, l) := by
  simp [cancel, h]

end Loop

end Storefront
