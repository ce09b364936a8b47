import Storefront.Proofs.Requests

/-! What the results of a task's own requests decide. A flow that only makes requests and leaves nothing
unhandled ends in a way that its results allow, and so does the task that runs it, whatever becomes of
the client in the meantime and whatever else happens in the loop, unless the task is cancelled. -/
namespace Storefront

/-- Anything may be asked and answered, the results are kept, and nothing is left unhandled. -/
def Policy.tally : Policy (List TransportResult) where
  clients _ := True
  answers _ _ := True
  asks _ _ := True
  after rs r := rs ++ [r]
  breaks _ := False

/-- How far a task has come on a flow whose end depends on its results. -/
inductive Scene.Tallies (s : Scene) (task : Nat) (ends : List TransportResult → Delivery → Prop) :
    Prop where
  | going (h : Exchanges) (f : Flow Delivery) (hσ : s.stand? task = some (.going f))
      (hc : (s.loop.calls task).map s.loop.exchange? = h.map some)
      (hf : f.Heeds .tally ends (h.map (·.2)))
  | asking (h : Exchanges) (cs : List (Nat × Outgoing)) (k : Nat) (o : Outgoing)
      (next : TransportResult → Flow Delivery)
      (hσ : s.stand? task = some (.going (.join k fun d => next d.asTransport)))
      (hk : s.loop.calls task = cs ++ [(k, o)]) (hc : cs.map s.loop.exchange? = h.map some)
      (hf : ∀ r, (next r).Heeds .tally ends (h.map (·.2) ++ [r]))
  | finished (h : Exchanges) (d : Delivery) (hσ : s.stand? task = some (.ended (.finished d)))
      (hc : (s.loop.calls task).map s.loop.exchange? = h.map some) (he : ends (h.map (·.2)) d)
  | cut (hσ : s.stand? task = some (.going .interrupt) ∨ s.stand? task = some (.ended .interrupted))

variable {ends : List TransportResult → Delivery → Prop} {task : Nat}

theorem Step.tallies {s s' : Scene} (hs : Step s s') (hin : s.InOrder)
    (hlt : task < s.loop.jobs.length) (ht : s.Tallies task ends) : s'.Tallies task ends := by
  have hturn := (hs.turns hlt).turn
  have hquiet {ds : List Deed} (hd : s'.loop.deeds task = s.loop.deeds task ++ ds)
      (hn : ds.filterMap Deed.call? = []) : s'.loop.calls task = s.loop.calls task := by
    rw [Loop.calls_of_deeds hd, hn, List.append_nil]
  cases ht with
  | going h f hσ hc hf =>
    obtain ⟨ds, σ', hσ', hd, hm, -⟩ := hturn _ hσ
    have hsame (hn : ds.filterMap Deed.call? = []) :
        (s'.loop.calls task).map s'.loop.exchange? = h.map some := by
      rw [hquiet hd hn]
      exact hs.exchanged hin hc
    cases hm with
    | rest => exact .going h f hσ' (hsame rfl) hf
    | log line next => exact .going h next hσ' (hsame rfl) hf
    | client next => exact .going h _ hσ' (hsame rfl) (hf s.loop.client trivial)
    | session next v => exact .going h _ hσ' (hsame rfl) (hf v)
    | send place r next p => exact hf.elim
    | hear place r next => exact hf.elim
    | call o next =>
      refine .asking h (s.loop.calls task) s.loop.jobs.length o next hσ' ?_ (hs.exchanged hin hc) ?_
      · exact Loop.calls_of_deeds hd
      · exact fun r => hf.2 r trivial
    | join id next d ho => exact hf.elim
    | gate name stubborn next => exact hf.elim
    | interrupt => exact .cut (.inl hσ')
    | ending _ e he =>
      cases f with
      | finish d =>
        obtain rfl := Option.some.inj he
        exact .finished h d hσ' (hsame rfl) hf
      | escape cause => exact hf.elim
      | interrupt => exact hf.elim
      | _ => cases he
  | asking h cs k o next hσ hk hc hf =>
    obtain ⟨ds, σ', hσ', hd, hm, -⟩ := hturn _ hσ
    have hc' := hs.exchanged hin hc
    cases hm with
    | rest => exact .asking h cs k o next hσ' ((hquiet hd rfl).trans hk) hc' hf
    | join _ _ d ho =>
      -- the request that it waited for is an exchange now
      refine .going (h ++ [(o, d.asTransport)]) _ hσ' ?_ ?_
      · rw [hquiet hd rfl, hk, List.map_append, List.map_append, hc']
        simp [Loop.exchange?, (hs.delivered hin ho).1]
      · rw [List.map_append]
        exact hf d.asTransport
    | interrupt => exact .cut (.inl hσ')
    | ending _ e he => cases he
  | finished h d hσ hc he =>
    obtain ⟨ds, σ', hσ', hd, hm, -⟩ := hturn _ hσ
    cases hm with
    | rest => exact .finished h d hσ' (by rw [hquiet hd rfl]; exact hs.exchanged hin hc) he
  | cut hσ =>
    rcases hσ with hσ | hσ
    · obtain ⟨ds, σ', hσ', hd, hm, -⟩ := hturn _ hσ
      cases hm with
      | rest => exact .cut (.inl hσ')
      | interrupt => exact .cut (.inl hσ')
      | ending _ e he =>
        obtain rfl := Option.some.inj he
        exact .cut (.inr hσ')
    · obtain ⟨ds, σ', hσ', hd, hm, -⟩ := hturn _ hσ
      cases hm with
      | rest => exact .cut (.inr hσ')

theorem Steps.tallies {s₀ s : Scene} (hs : Steps s₀ s) (hin : s₀.InOrder)
    (hlt : task < s₀.loop.jobs.length) (ht : s₀.Tallies task ends) : s.Tallies task ends := by
  have hrun : s.InOrder ∧ task < s.loop.jobs.length ∧ s.Tallies task ends := by
    induction hs with
    | refl => exact ⟨hin, hlt, ht⟩
    | tail _ hs ih =>
      obtain ⟨hin', hlt', ht'⟩ := ih
      exact ⟨hs.inOrder hin', (hs.turns hlt').length, hs.tallies hin' hlt' ht'⟩
  exact hrun.2.2

theorem Scene.Opens.tallies {s : Scene} {st : Start} (h : s.Opens task st)
    (hf : st.flow.Heeds .tally ends []) : s.Tallies task ends := by
  refine .going [] st.flow h.stand? ?_ hf
  rw [Loop.calls, h.deeds]
  rfl

/-- What a task delivers is allowed by its results, or the task was cancelled. -/
theorem Scene.Tallies.delivered {s : Scene} (ht : s.Tallies task ends) (hin : s.InOrder) {d : Delivery}
    (hd : s.loop.outcome? task = some d) :
    (s.loop.isCancelled task = false ∧ ends (s.loop.results task) d) ∨
      s.loop.isCancelled task = true ∧
        ∃ t, s.loop.ticket? task = some t ∧ d = t.kind.failed (Loop.cancelledFailure t) := by
  obtain ⟨t, e, hdue, -, -, -, ho⟩ := (hin.books task).delivered (.inr (by simp [hd]))
  have hstand := hin.stand?_of_due? hdue
  have hticket := (Loop.ticket?_of_due? hdue).1
  have hdelivery : d = Loop.deliveryOf t e := Option.some.inj (hd.symm.trans ho)
  have hcut (h : e = .interrupted) : s.loop.isCancelled task = true ∧
      ∃ t, s.loop.ticket? task = some t ∧ d = t.kind.failed (Loop.cancelledFailure t) := by
    subst h
    exact ⟨Scene.isCancelled_of_stand? hstand, t, hticket, hdelivery⟩
  cases ht with
  | going h f hσ => exact absurd (hstand.symm.trans hσ) (by simp)
  | asking h cs k o next hσ => exact absurd (hstand.symm.trans hσ) (by simp)
  | finished h d' hσ hc he =>
    obtain rfl := Stand.ended.inj (Option.some.inj (hstand.symm.trans hσ))
    left
    constructor
    · rw [← Bool.not_eq_true, Scene.isCancelled_iff hstand]
      simp
    · rw [Loop.results, Loop.exchanges_eq hc, hdelivery]
      exact he
  | cut hσ =>
    rcases hσ with hσ | hσ
    · exact absurd (hstand.symm.trans hσ) (by simp)
    · exact .inr (hcut (Stand.ended.inj (Option.some.inj (hstand.symm.trans hσ))))

end Storefront
