import Storefront.Proofs.LikeLoops

/-! Runs that cannot be told apart. Two runs in which the same is done, with data that differ in
secrets only, stay alike move by move, so the lines that they log are alike. -/
namespace Storefront

variable {ν : Variation}

theorem ResultKind.failed_alike (k : ResultKind) {f f' : Failure} (h : f.Alike ν f') :
    (k.failed f).Alike ν (k.failed f') := by
  cases k <;> exact ⟨⟨.none, .some h⟩, rfl⟩

namespace Ticket.Alike

variable {t t' : Ticket} {e e' : Ending}

theorem deliveryOf (h : t.Alike ν t') (he : e.Alike ν e') :
    (Loop.deliveryOf t e).Alike ν (Loop.deliveryOf t' e') := by
  cases he with
  | finished hd => exact hd
  | escaped cause =>
    unfold Loop.deliveryOf
    dsimp only
    rw [h.kind]
    exact t'.kind.failed_alike (.append (.joined (.joined (.same _) h.description) (.same _)) (.same _))
  | interrupted =>
    unfold Loop.deliveryOf
    dsimp only
    rw [h.kind]
    exact t'.kind.failed_alike (.append h.description (.same _))

theorem endingLine? (h : t.Alike ν t') (he : e.Alike ν e') :
    Option.Rel (Log.Line.Alike ν) (Loop.endingLine? t e) (Loop.endingLine? t' e') := by
  cases he with
  | escaped cause =>
    refine .some ⟨rfl, rfl, ?_, rfl⟩
    exact .append (.joined (.joined (.same _) h.description) (.same _)) (.same _)
  | _ => exact .none

theorem callbackLine (h : t.Alike ν t') :
    (Loop.callbackLine t).Alike ν (Loop.callbackLine t') :=
  ⟨rfl, rfl, .joined (.joined (.same _) h.description) (.same _), rfl⟩

end Ticket.Alike

theorem Delivery.Alike.fails {d d' : Delivery} (h : d.Alike ν d') (c : Callback) :
    c.fails d = c.fails d' := by
  cases c with
  | refuse => exact congrArg (!·) h.isEmpty
  | _ => rfl

namespace Loop.Alike

variable {l l' : Loop} {t t' : Ticket} {e e' : Ending}

theorem announce (h : l.Alike ν l') (task : Nat) (ht : t.Alike ν t') (he : e.Alike ν e') :
    (l.announce task t e).Alike ν (l'.announce task t' e') := by
  have hline := ht.endingLine? he
  unfold Loop.announce
  generalize Loop.endingLine? t e = x at hline ⊢
  generalize Loop.endingLine? t' e' = x' at hline ⊢
  cases hline with
  | none => exact h
  | some hline => exact h.record (.some hline)

theorem afterCallback (h : l.Alike ν l') (task : Nat) (ht : t.Alike ν t') (c : Callback)
    {d d' : Delivery} (hd : d.Alike ν d') :
    (l.afterCallback task t c d).Alike ν (l'.afterCallback task t' c d') := by
  have hlogged : (if c.fails d then l.record (.log task (callbackLine t)) else l).Alike ν
      (if c.fails d' then l'.record (.log task (callbackLine t')) else l') := by
    rw [hd.fails]
    split
    · exact h.record (.some ht.callbackLine)
    · exact h
  cases c with
  | abort => exact h
  | _ => exact hlogged.deliver task hd

theorem start (h : l.Alike ν l') {st st' : Start} (hst : st.Alike ν st') :
    (l.start st).2.Alike ν (l'.start st').2 := h.spawn hst.flow (.some hst.ticket)

end Loop.Alike

/-! Scenes -/

inductive Focus.Alike (ν : Variation) : Focus → Focus → Prop
  | idle : Focus.Alike ν .idle .idle
  | running (task : Nat) {f f' : Flow Delivery} (h : Flow.Alike ν (Delivery.Alike ν) f f') :
    Focus.Alike ν (.running task f) (.running task f')
  | inside (task : Nat) : Focus.Alike ν (.inside task) (.inside task)

structure Scene.Alike (ν : Variation) (s s' : Scene) : Prop where
  loop : s.loop.Alike ν s'.loop
  focus : s.focus.Alike ν s'.focus

/-- The tokens that requests of operations show can be sent. -/
def Loop.ShowsSendable (l : Loop) : Prop :=
  ∀ task k o, .call task k o ∈ l.trace → o.ShowsSendable

/-- What is done in the same way in both runs. -/
def Act.IsPlain : Act → Prop
  | .start _ => False
  | .assign _ => False
  | .prepareReply _ => False
  | _ => True

/-- The same act, or one with a client or a reply that is alike. -/
inductive Act.Alike (ν : Variation) : Act → Act → Prop
  | same {a : Act} (h : a.IsPlain) : Act.Alike ν a a
  | assign {c c' : Client} (h : c.Alike ν c') : Act.Alike ν (.assign c) (.assign c')
  | prepareReply {p p' : Reply} (h : p.Alike ν p') : Act.Alike ν (.prepareReply p) (.prepareReply p')

/-- The same move, with data that are alike. -/
inductive Move.Alike (ν : Variation) : Move → Move → Prop
  | go : Move.Alike ν .go .go
  | take (place : Nat) : Move.Alike ν (.take place) (.take place)
  | act {a a' : Act} (h : a.Alike ν a') : Move.Alike ν (.act a) (.act a')
  | operation {op op' : Operation} (h : op.Alike ν op') (callback : Option Callback) :
    Move.Alike ν (.operation op callback) (.operation op' callback)
  | request (method : Method) (url : String) {b b' : Body} (h : b.Alike b') (headers : Headers)
    (callback : Option Callback) : Move.Alike ν (.request ⟨method, url, b, headers⟩ callback)
      (.request ⟨method, url, b', headers⟩ callback)

theorem Reply.Alike.answered {p p' : Reply} (h : p.Alike ν p') {next next' : Answer → Flow Delivery}
    (hn : ∀ a a', a.Alike ν a' → Flow.Alike ν (Delivery.Alike ν) (next a) (next' a')) :
    Flow.Alike ν (Delivery.Alike ν) (p.answered next) (p'.answered next') := by
  unfold Reply.answered
  rw [h.gate]
  split
  · exact hn _ _ h.answer
  · exact .gate _ false (hn _ _ h.answer)

namespace Loop.Alike

variable {l l' : Loop}

theorem act (h : l.Alike ν l') {a a' : Act} (ha : a.Alike ν a') :
    (l.act a).Alike ν (l'.act a') := by
  cases ha with
  | assign hc => exact { h with client := hc }
  | prepareReply hp => exact { h with server := List.rel_append h.server (.cons hp .nil) }
  | @same a hplain =>
    cases a with
    | cancel task => exact h.cancel task
    | interrupt task => exact h.interruptJob task
    | start st => exact hplain.elim
    | await task =>
      exact h.spawn (.join task fun _ _ hd => .finish hd) .none
    | assign c => exact hplain.elim
    | note task seen => exact h.record .none
    | openSession => exact { h with sessions := congrArg SessionPool.touch h.sessions }
    | beginClose => exact { h with sessions := congrArg SessionPool.beginClose h.sessions }
    | finishClose => exact { h with sessions := congrArg SessionPool.finishClose h.sessions }
    | release gate => exact h.release gate
    | prepareReply p => exact hplain.elim

theorem sent (h : l.Alike ν l') (task place : Nat) {r r' : Request} (hr : r.Alike ν r') :
    (l.sent task place r).Alike ν (l'.sent task place r') := by
  have hserver : ({ l with server := (l.server.take r).2 } : Loop).Alike ν
      { l' with server := (l'.server.take r').2 } :=
    { h with server := (Server.take_alike h.server hr).2 }
  exact hserver.record .none

theorem hear (h : l.Alike ν l') (place : Nat) (r r' : Response) :
    (l.hear place r).Alike ν (l'.hear place r') := { h with }

theorem called (h : l.Alike ν l') (task : Nat) {o o' : Outgoing}
    (ho : o.Alike ν (fun _ => False) o') : (l.called task o).Alike ν (l'.called task o') :=
  (h.start (ho.start none)).record .none

/-- A task goes on alike in both runs. -/
theorem go (h : l.Alike ν l') (task : Nat) {f f' : Flow Delivery}
    (hf : Flow.Alike ν (Delivery.Alike ν) f f') (hs : (l.go task f).loop.ShowsSendable)
    (hs' : (l'.go task f').loop.ShowsSendable) : (l.go task f).Alike ν (l'.go task f') := by
  cases hf with
  | finish hd => exact ⟨h.finish task (.finished hd), .idle⟩
  | escape cause => exact ⟨h.finish task (.escaped cause), .idle⟩
  | interrupt => exact ⟨h.finish task .interrupted, .idle⟩
  | log hline hn => exact ⟨h.record (.some hline), .running task hn⟩
  | client hn => exact ⟨h, .running task (hn _ _ h.client)⟩
  | session hn =>
    refine ⟨{ h with sessions := congrArg SessionPool.touch h.sessions }, ?_⟩
    rw [Loop.go, Loop.go, h.sessions]
    exact .running task (hn _)
  | send place hr hn =>
    exact ⟨h.sent task place hr, .running task ((Server.take_alike h.server hr).1.answered hn)⟩
  | hear place r r' hn => exact ⟨h.hear place r r', .running task hn⟩
  | @call o o' next next' ho hn =>
    have ho' : o.Alike ν (fun _ => False) o' :=
      ho.closed (hs task l.jobs.length o (by simp [Loop.go, Loop.called]))
        (hs' task l'.jobs.length o' (by simp [Loop.go, Loop.called]))
    refine ⟨h.called task ho', ?_⟩
    rw [Loop.go, Loop.go, h.length]
    exact .running task (.join _ fun _ _ hd => hn _ _ hd.result)
  | join id hn =>
    have ho := h.outcome? id
    rw [Loop.go, Loop.go]
    generalize l.outcome? id = x at ho ⊢
    generalize l'.outcome? id = x' at ho ⊢
    cases ho with
    | none => exact ⟨h.park task (.task id hn), .idle⟩
    | some hd => exact ⟨h, .running task (hn _ _ hd)⟩
  | gate name stubborn hn =>
    have ho : l.isOpen name = l'.isOpen name := by
      unfold Loop.isOpen
      rw [h.openGates]
    rw [Loop.go, Loop.go, ho]
    split
    · exact ⟨h, .running task hn⟩
    · exact ⟨h.park task (.gate name stubborn hn), .idle⟩

theorem leave (h : l.Alike ν l') (task : Nat) : (l.leave task).Alike ν (l'.leave task) := by
  have hd := h.due? task
  unfold Loop.leave
  generalize l.due? task = x at hd ⊢
  generalize l'.due? task = x' at hd ⊢
  cases hd with
  | none => exact ⟨h, .inside task⟩
  | @some x x' hd =>
    obtain ⟨t, e⟩ := x
    obtain ⟨t', e'⟩ := x'
    obtain ⟨ht, he⟩ : t.Alike ν t' ∧ e.Alike ν e' := hd
    dsimp only
    rw [ht.callback]
    split
    · exact ⟨h.afterCallback task ht _ (ht.deliveryOf he), .idle⟩
    · exact ⟨h, .inside task⟩

theorem takeUp (h : l.Alike ν l') (x : Handle) : (l.takeUp x).Alike ν (l'.takeUp x) := by
  cases x with
  | resume task =>
    have hj := h.job? task
    unfold Loop.takeUp
    dsimp only
    generalize l.jobs[task]? = x at hj ⊢
    generalize l'.jobs[task]? = x' at hj ⊢
    cases hj with
    | none => exact ⟨h, .idle⟩
    | @some j j' hj =>
      have hn := hj.next?
      dsimp only
      generalize j.next? = f at hn ⊢
      generalize j'.next? = f' at hn ⊢
      cases hn with
      | none => exact ⟨h, .idle⟩
      | some hf => exact ⟨h.pickUp task hj, .running task hf⟩
  | complete task =>
    have hd := h.due? task
    unfold Loop.takeUp
    dsimp only
    generalize l.due? task = x at hd ⊢
    generalize l'.due? task = x' at hd ⊢
    cases hd with
    | none => exact ⟨h, .idle⟩
    | @some x x' hd =>
      obtain ⟨t, e⟩ := x
      obtain ⟨t', e'⟩ := x'
      obtain ⟨ht, he⟩ : t.Alike ν t' ∧ e.Alike ν e' := hd
      have hann := h.announce task ht he
      dsimp only
      rw [ht.callback]
      split
      · exact ⟨hann.deliver task (ht.deliveryOf he), .idle⟩
      · exact ⟨hann.record .none, .inside task⟩
  | relay waiter task => exact ⟨h.relay waiter task, .idle⟩

end Loop.Alike

namespace Scene.Alike

variable {s s' : Scene}

theorem actOut (h : s.Alike ν s') {a a' : Act}
    (ha : ∀ l l' : Loop, l.Alike ν l' → (l.act a).Alike ν (l'.act a')) :
    (s.actOut a).Alike ν (s'.actOut a') := by
  obtain ⟨l, f⟩ := s
  obtain ⟨l', f'⟩ := s'
  obtain ⟨hl, hf⟩ := h
  have hf' : f.Alike ν f' := hf
  cases hf' with
  | idle => exact ⟨ha l l' hl, .idle⟩
  | running task hflow => exact ⟨hl, .running task hflow⟩
  | inside task => exact ⟨ha l l' hl, .inside task⟩

theorem open? (h : s.Alike ν s') {st st' : Except CallError Start}
    (hst : Except.Rel Eq (Start.Alike ν) st st') : (s.open? st).Alike ν (s'.open? st') := by
  cases hst with
  | ok hst => exact h.actOut fun _ _ hl => hl.start hst
  | error _ => exact h

/-- Alike scenes stay alike when the same move is made in both. -/
theorem play (h : s.Alike ν s') {m m' : Move} (hm : m.Alike ν m')
    (hs : (s.play m).loop.ShowsSendable) (hs' : (s'.play m').loop.ShowsSendable) :
    (s.play m).Alike ν (s'.play m') := by
  cases hm with
  | act ha => exact h.actOut fun _ _ hl => hl.act ha
  | operation hop callback => exact h.open? (h.loop.client.startOperation hop callback)
  | request method url hb headers callback =>
    exact h.open? (h.loop.client.startCall method url hb headers callback)
  | go =>
    obtain ⟨l, f⟩ := s
    obtain ⟨l', f'⟩ := s'
    obtain ⟨hl, hf⟩ := h
    have hf' : f.Alike ν f' := hf
    cases hf' with
    | idle => exact ⟨hl, .idle⟩
    | running task hflow => exact Loop.Alike.go hl task hflow hs hs'
    | inside task => exact Loop.Alike.leave hl task
  | take place =>
    obtain ⟨l, f⟩ := s
    obtain ⟨l', f'⟩ := s'
    obtain ⟨hl, hf⟩ := h
    have hf' : f.Alike ν f' := hf
    cases hf' with
    | running task hflow => exact ⟨hl, .running task hflow⟩
    | inside task => exact ⟨hl, .inside task⟩
    | idle =>
      have hready : l.ready[place]? = l'.ready[place]? := by rw [hl.ready]
      unfold Scene.play Scene.takeAt
      dsimp only
      rw [hready]
      split
      · exact (Loop.Alike.drop hl place).takeUp _
      · exact ⟨hl, .idle⟩

theorem initial {c c' : Client} (hc : c.Alike ν c') (owned : Bool) {server server' : Server}
    (hserver : List.Forall₂ (Reply.Alike ν) server server') (keeper keeper' : CookieKeeper) :
    (Scene.initial c owned server keeper).Alike ν (.initial c' owned server' keeper') :=
  ⟨⟨hc, rfl, hserver, rfl, .nil, rfl, rfl, .nil⟩, .idle⟩

end Scene.Alike

/-- What requests have shown stays in the trace. -/
theorem Steps.showsSendable {s s' : Scene} (hs : Steps s s') (h : s'.loop.ShowsSendable) :
    s.loop.ShowsSendable := by
  have hgrows : s.loop.trace <+: s'.loop.trace := by
    refine Steps.invariant (P := fun s' => s.loop.trace <+: s'.loop.trace) ?_ hs List.prefix_rfl
    intro s₁ s₂ hstep h
    obtain ⟨es, hes⟩ := hstep.trace
    rw [hes]
    exact h.trans (List.prefix_append _ _)
  exact fun task k o hk => h task k o (hgrows.subset hk)

/-- Runs that begin alike and in which the same is done stay alike. -/
theorem Scene.Alike.plays {s s' : Scene} (h : s.Alike ν s') {ms ms' : List Move}
    (hm : List.Forall₂ (Move.Alike ν) ms ms') (hs : (s.plays ms).loop.ShowsSendable)
    (hs' : (s'.plays ms').loop.ShowsSendable) : (s.plays ms).Alike ν (s'.plays ms') := by
  induction hm generalizing s s' with
  | nil => exact h
  | @cons m m' ms ms' hmove _ ih =>
    have hnext := (s.play m).plays_steps ms
    have hnext' := (s'.play m').plays_steps ms'
    exact ih (h.play hmove (Steps.showsSendable hnext hs) (Steps.showsSendable hnext' hs')) hs hs'

end Storefront
