import Storefront.Proofs.Isolation

/-! What a task is answered. A run is noted with the answers to the requests that a task sends, in order;
how the task ends is then what its flow comes to with these answers. -/
namespace Storefront

/-- A flow can end so when its requests get these answers, in order. -/
def Flow.Hears {α : Type} : Flow α → List Answer → Except (Fault ⊕ Failure) α → Prop
  | .finish a, as, x => as = [] ∧ x = .ok a
  | .escape cause, as, x => as = [] ∧ x = .error cause
  | .interrupt, _, _ => False
  | .log _ next, as, x => next.Hears as x
  | .client next, as, x => ∃ c, (next c).Hears as x
  | .session next, as, x => ∃ v, (next v).Hears as x
  | .send _ _ next, as, x => ∃ a rest, as = a :: rest ∧ (next a).Hears rest x
  | .hear _ _ next, as, x => next.Hears as x
  | .call _ next, as, x => ∃ r, (next r).Hears as x
  | .join _ next, as, x => ∃ d, (next d).Hears as x
  | .gate _ _ next, as, x => next.Hears as x

/-- What follows a flow gets the rest of the answers. -/
theorem Flow.Hears.of_bind {α β : Type} {f : Flow α} {g : α → Flow β} {as : List Answer}
    {x : Except (Fault ⊕ Failure) β} (h : (f.bind g).Hears as x) :
    (∃ a before after, as = before ++ after ∧ f.Hears before (.ok a) ∧ (g a).Hears after x) ∨
      ∃ cause, x = .error cause ∧ f.Hears as (.error cause) := by
  induction f generalizing as with
  | finish a => exact .inl ⟨a, [], as, rfl, ⟨rfl, rfl⟩, h⟩
  | escape cause =>
    obtain ⟨rfl, rfl⟩ := h
    exact .inr ⟨cause, rfl, rfl, rfl⟩
  | interrupt => exact h.elim
  | log line next ih => exact ih h
  | client next ih =>
    obtain ⟨c, hc⟩ := h
    rcases ih c hc with ⟨a, before, after, rfl, hf, hg⟩ | ⟨cause, rfl, hf⟩
    · exact .inl ⟨a, before, after, rfl, ⟨c, hf⟩, hg⟩
    · exact .inr ⟨cause, rfl, c, hf⟩
  | session next ih =>
    obtain ⟨v, hv⟩ := h
    rcases ih v hv with ⟨a, before, after, rfl, hf, hg⟩ | ⟨cause, rfl, hf⟩
    · exact .inl ⟨a, before, after, rfl, ⟨v, hf⟩, hg⟩
    · exact .inr ⟨cause, rfl, v, hf⟩
  | send place r next ih =>
    obtain ⟨b, rest, rfl, hb⟩ := h
    rcases ih b hb with ⟨a, before, after, rfl, hf, hg⟩ | ⟨cause, rfl, hf⟩
    · exact .inl ⟨a, b :: before, after, rfl, ⟨b, before, rfl, hf⟩, hg⟩
    · exact .inr ⟨cause, rfl, b, rest, rfl, hf⟩
  | hear place r next ih => exact ih h
  | call o next ih =>
    obtain ⟨r, hr⟩ := h
    rcases ih r hr with ⟨a, before, after, rfl, hf, hg⟩ | ⟨cause, rfl, hf⟩
    · exact .inl ⟨a, before, after, rfl, ⟨r, hf⟩, hg⟩
    · exact .inr ⟨cause, rfl, r, hf⟩
  | join id next ih =>
    obtain ⟨d, hd⟩ := h
    rcases ih d hd with ⟨a, before, after, rfl, hf, hg⟩ | ⟨cause, rfl, hf⟩
    · exact .inl ⟨a, before, after, rfl, ⟨d, hf⟩, hg⟩
    · exact .inr ⟨cause, rfl, d, hf⟩
  | gate name stubborn next ih => exact ih h

theorem Flow.Hears.of_map {α β : Type} {f : Flow α} {g : α → β} {as : List Answer}
    {x : Except (Fault ⊕ Failure) β} (h : (g <$> f).Hears as x) :
    ∃ y, f.Hears as y ∧ x = g <$> y := by
  rcases Flow.Hears.of_bind h with ⟨a, before, after, rfl, hf, rfl, rfl⟩ | ⟨cause, rfl, hf⟩
  · exact ⟨.ok a, by rwa [List.append_nil], rfl⟩
  · exact ⟨.error cause, hf, rfl⟩

/-- The ending of a flow that has come to something. -/
def Ending.of : Except (Fault ⊕ Failure) Delivery → Ending
  | .ok d => .finished d
  | .error cause => .escaped cause

/-- A task that stands there can come to this. -/
def Stand.Hears : Stand → List Answer → Except (Fault ⊕ Failure) Delivery → Prop
  | .going f, as, x => f.Hears as x
  | .ended e, as, x => as = [] ∧ e = .of x

theorem Reply.hears_of_answered {p : Reply} {next : Answer → Flow Delivery} {as : List Answer}
    {x : Except (Fault ⊕ Failure) Delivery} (h : (p.answered next).Hears as x) :
    (next p.answer).Hears as x := by
  unfold answered at h
  split at h
  · exact h
  · exact h

theorem Stand.Hears.of_ending {f : Flow Delivery} {e : Ending} {as : List Answer}
    {x : Except (Fault ⊕ Failure) Delivery} (he : f.ending? = some e)
    (h : (Stand.ended e).Hears as x) : f.Hears as x := by
  obtain ⟨rfl, rfl⟩ := h
  cases f with
  | finish d =>
    cases x with
    | ok d' =>
      obtain rfl := Ending.finished.inj (Option.some.inj he)
      exact ⟨rfl, rfl⟩
    | error cause => cases he
  | escape cause =>
    cases x with
    | ok d => cases he
    | error cause' =>
      obtain rfl := Ending.escaped.inj (Option.some.inj he)
      exact ⟨rfl, rfl⟩
  | interrupt => cases x <;> cases he
  | _ => cases he

variable {as : List Answer} {x : Except (Fault ⊕ Failure) Delivery}

/-- What a task comes to after a turn, it comes to with the answers of that turn before it. -/
theorem Stride.hears {w : Surroundings} {shop : Shop} {l : Loop} {σ σ' : Stand} {ds : List Deed}
    (m : Stride w shop l σ ds σ') (h : σ'.Hears as x) :
    σ.Hears ((ds.filterMap Deed.request?).map shop ++ as) x := by
  cases m with
  | rest => exact h
  | log line next => exact h
  | client next => exact ⟨w.client, h⟩
  | session next => exact ⟨w.view, h⟩
  | send place r next p hp => exact ⟨shop r, as, rfl, hp ▸ Reply.hears_of_answered h⟩
  | hear place r next => exact h
  | call o next =>
    obtain ⟨d, hd⟩ := h
    exact ⟨d.asTransport, hd⟩
  | join id next d ho => exact ⟨d, h⟩
  | gate name stubborn next => exact h
  | ending f e he => exact Stand.Hears.of_ending he h

/-- A task that is called back is not answered by that. -/
theorem Turn.hears {l : Loop} {σ : Stand} {f : Flow Delivery} (m : Turn l σ [] (.going f))
    (h : f.Hears as x) : σ.Hears as x := by
  cases m with
  | rest => exact h
  | log line next => exact h
  | client next => exact ⟨l.client, h⟩
  | session next v => exact ⟨v, h⟩
  | hear place r next => exact h
  | join id next d ho => exact ⟨d, h⟩
  | gate name stubborn next => exact h
  | interrupt g => exact h.elim

/-- The answer that a request gets at this moment. -/
def Scene.answer (s : Scene) (r : Request) : Answer := (s.loop.server.take r).1.answer

/-- A run, with the answers that a task gets to its requests. -/
inductive AnsweredSteps (i : Nat) (s₀ : Scene) : List Answer → Scene → Prop where
  | refl : AnsweredSteps i s₀ [] s₀
  | tail (as : List Answer) (s s' : Scene) (ds : List Deed) (h : AnsweredSteps i s₀ as s)
      (hs : Step s s') (hd : s'.loop.deeds i = s.loop.deeds i ++ ds) :
      AnsweredSteps i s₀ (as ++ (ds.filterMap Deed.request?).map s.answer) s'

theorem AnsweredSteps.steps {i : Nat} {s₀ s : Scene} (h : AnsweredSteps i s₀ as s) :
    Steps s₀ s := by
  induction h with
  | refl => exact .refl
  | tail as s s' ds h hs hd ih => exact ih.tail hs

/-- Every run has its answers. -/
theorem Steps.answered {s₀ s : Scene} (hs : Steps s₀ s) (i : Nat) :
    ∃ as, AnsweredSteps i s₀ as s := by
  induction hs with
  | refl => exact ⟨[], .refl⟩
  | tail hrun hs ih =>
    obtain ⟨as, has⟩ := ih
    obtain ⟨ds, hd⟩ := Steps.deeds_grow (.single hs) i
    exact ⟨_, .tail as _ _ ds has hs hd.symm⟩

theorem Step.hears {s s' : Scene} (hs : Step s s') {i : Nat} (hi : i < s.loop.jobs.length)
    {σ : Stand} (hσ : s.stand? i = some σ) {ds : List Deed}
    (hd : s'.loop.deeds i = s.loop.deeds i ++ ds) : ∃ σ', s'.stand? i = some σ' ∧
      ∀ as x, σ'.Hears as x → σ.Hears ((ds.filterMap Deed.request?).map s.answer ++ as) x := by
  by_cases hb : s.focus.task? = some i
  · obtain ⟨l, focus⟩ := s
    cases focus with
    | running task f =>
      obtain rfl := Option.some.inj hb
      obtain rfl := Option.some.inj ((if_pos rfl).symm.trans hσ)
      have ha : (⟨l, .running task f⟩ : Scene).AnswersAs (Scene.answer ⟨l, .running task f⟩) := by
        rintro _ place r next ⟨⟩
        rfl
      obtain ⟨ds', σ', hσ', hd', hm⟩ := Loop.go_stride hi rfl ha
      rw [← hs.of_running] at hσ' hd'
      obtain rfl := List.append_cancel_left (hd'.symm.trans hd)
      exact ⟨σ', hσ', fun as x h => hm.hears h⟩
    | idle => cases hb
    | inside task => cases hb
  · have hnil : ds = [] := by
      rw [hs.deeds hb] at hd
      exact List.self_eq_append_right.mp hd
    subst hnil
    rcases (hs.turns hi).held hb with hsame | ⟨j, f, hj, hf, hσ'⟩
    · exact ⟨σ, hsame.trans hσ, fun as x h => h⟩
    · obtain ⟨k, hk, rfl⟩ := Scene.job_of_stand? hσ hb
      obtain rfl := Option.some.inj (hk.symm.trans hj)
      exact ⟨.going f, hσ', fun as x h => (Job.next_turn (l := s.loop) hf).hears h⟩

theorem AnsweredSteps.hears {i : Nat} {s₀ s : Scene} (h : AnsweredSteps i s₀ as s)
    (hi : i < s₀.loop.jobs.length) {σ₀ : Stand} (hσ₀ : s₀.stand? i = some σ₀) :
    ∃ σ, s.stand? i = some σ ∧ ∀ rest x, σ.Hears rest x → σ₀.Hears (as ++ rest) x := by
  induction h with
  | refl => exact ⟨σ₀, hσ₀, fun rest x h => h⟩
  | tail as s s' ds h hs hd ih =>
    obtain ⟨σ, hσ, hback⟩ := ih
    obtain ⟨σ', hσ', hstep⟩ := hs.hears (Nat.lt_of_lt_of_le hi (Steps.length h.steps)) hσ hd
    refine ⟨σ', hσ', fun rest x h => ?_⟩
    rw [List.append_assoc]
    exact hback _ x (hstep rest x h)

/-- A task that was not cancelled has delivered what its flow comes to with the answers that it got. -/
theorem AnsweredSteps.delivered {i : Nat} {s₀ s : Scene} {st : Start} {d : Delivery}
    (h : AnsweredSteps i s₀ as s) (hr : Reachable s₀) (ho : s₀.Opens i st)
    (hd : s.loop.outcome? i = some d) (hn : s.loop.isCancelled i = false) :
    ∃ x, s.stand? i = some (.ended (.of x)) ∧ st.flow.Hears as x ∧
      d = Loop.deliveryOf st.ticket (.of x) := by
  have hin : s.InOrder := (hr.trans h.steps).inOrder
  obtain ⟨t, e, hdue, -, -, -, ho'⟩ := (hin.books i).delivered (.inr (by simp [hd]))
  have hticket : t = st.ticket := by
    have ht := (Loop.ticket?_of_due? hdue).1
    exact Option.some.inj (ht.symm.trans ((Steps.ticket? h.steps ho.length).trans ho.ticket?))
  have hend := hin.stand?_of_due? hdue
  have hof : ∃ x, e = .of x := by
    cases e with
    | finished d' => exact ⟨.ok d', rfl⟩
    | escaped cause => exact ⟨.error cause, rfl⟩
    | interrupted => exact absurd (Scene.isCancelled_of_stand? hend) (by simp [hn])
  obtain ⟨x, rfl⟩ := hof
  obtain ⟨σ, hσ, hback⟩ := h.hears ho.length ho.stand?
  obtain rfl := Option.some.inj (hσ.symm.trans hend)
  refine ⟨x, hend, ?_, ?_⟩
  · rw [← as.append_nil]
    exact hback [] x ⟨rfl, rfl⟩
  · rw [← hticket]
    exact Option.some.inj (hd.symm.trans ho')

end Storefront
