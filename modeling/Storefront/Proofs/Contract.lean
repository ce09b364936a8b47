import Storefront.Proofs.Turns

/-! What a task may do, whatever it is answered: the requests it sends, the requests of its own that
it starts, and the result it ends with. A flow that obeys a contract makes a task that keeps it. -/
namespace Storefront

structure Contract (α : Type) where
  sends : Request → Prop
  calls : Outgoing → Prop
  ends : α → Prop

/-- A flow stays within a contract, whatever it is answered. -/
def Flow.Obeys {α : Type} (K : Contract α) : Flow α → Prop
  | .finish a => K.ends a
  | .escape _ => True
  | .interrupt => True
  | .log _ next => next.Obeys K
  | .client next => ∀ c, (next c).Obeys K
  | .session next => ∀ v, (next v).Obeys K
  | .send _ r next => K.sends r ∧ ∀ a, (next a).Obeys K
  | .hear _ _ next => next.Obeys K
  | .call o next => K.calls o ∧ ∀ r, (next r).Obeys K
  | .join _ next => ∀ d, (next d).Obeys K
  | .gate _ _ next => next.Obeys K

/-- What follows a flow may rely on its contract. -/
theorem Flow.Obeys.bind {α β : Type} {K : Contract α} {K' : Contract β} {f : Flow α}
    {g : α → Flow β} (hf : f.Obeys K) (hs : ∀ r, K.sends r → K'.sends r)
    (hc : ∀ o, K.calls o → K'.calls o) (hg : ∀ a, K.ends a → (g a).Obeys K') :
    (f.bind g).Obeys K' := by
  induction f with
  | finish a => exact hg a hf
  | escape cause => trivial
  | interrupt => trivial
  | log line next ih => exact ih hf
  | client next ih => exact fun c => ih c (hf c)
  | session next ih => exact fun v => ih v (hf v)
  | send place r next ih => exact ⟨hs r hf.1, fun a => ih a (hf.2 a)⟩
  | hear place r next ih => exact ih hf
  | call o next ih => exact ⟨hc o hf.1, fun r => ih r (hf.2 r)⟩
  | join id next ih => exact fun d => ih d (hf d)
  | gate name stubborn next ih => exact ih hf

theorem Flow.Obeys.map {α β : Type} {K : Contract α} {K' : Contract β} {f : Flow α} {g : α → β}
    (hf : f.Obeys K) (hs : ∀ r, K.sends r → K'.sends r) (hc : ∀ o, K.calls o → K'.calls o)
    (hg : ∀ a, K.ends a → K'.ends (g a)) : (g <$> f).Obeys K' :=
  hf.bind hs hc hg

def Stand.Obeys (K : Contract Delivery) : Stand → Prop
  | .going f => f.Obeys K
  | .ended (.finished d) => K.ends d
  | .ended _ => True

def Deed.Obeys (K : Contract Delivery) : Deed → Prop
  | .call _ o => K.calls o
  | .request r _ => K.sends r

/-- A task keeps a contract: it did so in the past and can do nothing else in the future. -/
structure Scene.Keeps (s : Scene) (task : Nat) (K : Contract Delivery) : Prop where
  stand : ∀ σ, s.stand? task = some σ → σ.Obeys K
  deeds : ∀ d ∈ s.loop.deeds task, d.Obeys K
  length : task < s.loop.jobs.length

theorem Flow.Obeys.ending {K : Contract Delivery} {f : Flow Delivery} {e : Ending}
    (h : f.Obeys K) (he : f.ending? = some e) : (Stand.ended e).Obeys K := by
  cases f with
  | finish d =>
    obtain rfl := Option.some.inj he
    exact h
  | escape cause =>
    obtain rfl := Option.some.inj he
    trivial
  | interrupt =>
    obtain rfl := Option.some.inj he
    trivial
  | _ => cases he

theorem Turn.obeys {K : Contract Delivery} {l : Loop} {σ σ' : Stand} {ds : List Deed}
    (m : Turn l σ ds σ') (h : σ.Obeys K) : σ'.Obeys K ∧ ∀ d ∈ ds, d.Obeys K := by
  cases m with
  | rest => exact ⟨h, by simp⟩
  | log line next => exact ⟨h, by simp⟩
  | client next => exact ⟨h l.client, by simp⟩
  | session next v => exact ⟨h v, by simp⟩
  | send place r next p =>
    refine ⟨?_, ?_⟩
    · change (p.answered next).Obeys K
      unfold Reply.answered
      split
      · exact h.2 p.answer
      · exact h.2 p.answer
    · intro d hd
      rw [List.mem_singleton.mp hd]
      exact h.1
  | hear place r next => exact ⟨h, by simp⟩
  | call o next =>
    refine ⟨fun d => h.2 d.asTransport, ?_⟩
    intro d hd
    rw [List.mem_singleton.mp hd]
    exact h.1
  | join id next d hd => exact ⟨h d, by simp⟩
  | gate name stubborn next => exact ⟨h, by simp⟩
  | interrupt f => exact ⟨trivial, by simp⟩
  | ending f e he => exact ⟨Flow.Obeys.ending h he, by simp⟩

theorem Scene.exists_stand? {s : Scene} {i : Nat} (hi : i < s.loop.jobs.length) :
    ∃ σ, s.stand? i = some σ := by
  have hl : ∃ σ, s.loop.stand? i = some σ := by
    unfold Loop.stand?
    rw [List.getElem?_eq_getElem hi]
    exact ⟨_, rfl⟩
  unfold Scene.stand?
  split
  · rename_i id flow _
    split
    · exact ⟨_, rfl⟩
    · exact hl
  · exact hl

theorem Step.keeps {s s' : Scene} (hs : Step s s') {i : Nat} {K : Contract Delivery}
    (h : s.Keeps i K) : s'.Keeps i K := by
  have ht := hs.turns h.length
  obtain ⟨σ, hσ⟩ := Scene.exists_stand? h.length
  obtain ⟨ds, σ', hσ', hd, hm, -⟩ := ht.turn σ hσ
  obtain ⟨hstand, hdeeds⟩ := hm.obeys (h.stand σ hσ)
  refine ⟨?_, ?_, ht.length⟩
  · intro σ'' hσ''
    rwa [← Option.some.inj (hσ'.symm.trans hσ'')]
  · intro d hmem
    rw [hd] at hmem
    rcases List.mem_append.mp hmem with hmem | hmem
    · exact h.deeds d hmem
    · exact hdeeds d hmem

theorem Steps.keeps {s s' : Scene} (hr : Steps s s') {i : Nat} {K : Contract Delivery}
    (h : s.Keeps i K) : s'.Keeps i K :=
  hr.invariant (fun _ _ hs => hs.keeps) h

end Storefront
