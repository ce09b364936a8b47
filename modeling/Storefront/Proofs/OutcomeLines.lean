import Storefront.Proofs.Classification
import Storefront.Proofs.Propagation

/-! The line about the outcome of a request. It is the last thing that the flow of the request does
before it ends, or it is logged by the task when the flow has left something unhandled. So there is one,
and its level tells what is delivered. -/
namespace Storefront

/-- The line that an event logs for a task, unless it is there to follow the work only. -/
def Event.outcomeLine? (task : Nat) : Event → Option Log.Line
  | .log id line => if id = task ∧ line.level ≠ .debug then some line else none
  | _ => none

/-- A line is about a request and has the level of its result. -/
structure TransportResult.IsToldBy (t : TransportResult) (o : Outgoing) (line : Log.Line) : Prop where
  info : line.level = .info ↔ t.failure = none
  warning : line.level = .warning ↔ t.failure ≠ none ∧ t.response ≠ none
  error : line.level = .error ↔ t.response = none
  names : ∃ before after : Str, line.message = before ++ o.description ++ after

theorem TransportResult.IsToldBy.not_debug {t : TransportResult} {o : Outgoing} {line : Log.Line}
    (h : t.IsToldBy o line) : line.level ≠ .debug := by
  intro hdebug
  have hf : t.failure ≠ none := fun hf => by simpa [hdebug] using h.info.mpr hf
  have hr : t.response ≠ none := fun hr => by simpa [hdebug] using h.error.mpr hr
  simpa [hdebug] using h.warning.mpr ⟨hf, hr⟩

/-! What a flow logs -/

namespace Flow

variable {α β : Type} {tells : α → Log.Line → Prop} {tells' : β → Log.Line → Prop}

/-- A flow logs a line that tells its result right before it ends with one, and before that only lines
to follow its work. -/
def Reports (tells : α → Log.Line → Prop) : Flow α → Prop
  | .finish _ => False
  | .escape _ => True
  | .interrupt => True
  | .log line next =>
    line.level = .debug ∧ next.Reports tells ∨ ∃ a, next = .finish a ∧ tells a line
  | .client next => ∀ c, (next c).Reports tells
  | .session next => ∀ v, (next v).Reports tells
  | .send _ _ next => ∀ a, (next a).Reports tells
  | .hear _ _ next => next.Reports tells
  | .call _ next => ∀ r, (next r).Reports tells
  | .join _ next => ∀ d, (next d).Reports tells
  | .gate _ _ next => next.Reports tells

theorem Reports.map {f : Flow α} {g : α → β} (hf : f.Reports tells)
    (hg : ∀ a line, tells a line → tells' (g a) line) : (g <$> f).Reports tells' := by
  change (f.bind fun a => .finish (g a)).Reports tells'
  induction f with
  | finish a => exact hf
  | escape cause => trivial
  | interrupt => trivial
  | log line next ih =>
    rcases hf with ⟨hdebug, hnext⟩ | ⟨a, rfl, ha⟩
    · exact .inl ⟨hdebug, ih hnext⟩
    · exact .inr ⟨g a, rfl, hg a line ha⟩
  | client next ih => exact fun c => ih c (hf c)
  | session next ih => exact fun v => ih v (hf v)
  | send place r next ih => exact fun a => ih a (hf a)
  | hear place r next ih => exact ih hf
  | call o next ih => exact fun r => ih r (hf r)
  | join id next ih => exact fun d => ih d (hf d)
  | gate name stubborn next ih => exact ih hf

end Flow

namespace Exchange

variable {o : Outgoing}

theorem classify_told {r : Response} {line : Log.Line} {t : TransportResult}
    (h : classify o r = .ok (line, t)) : t.IsToldBy o line := by
  unfold classify at h
  cases hb : readDocument r.body with
  | error f =>
    rw [hb] at h
    cases h
  | ok p =>
    obtain ⟨document, trouble⟩ := p
    simp only [hb, bind, Except.bind] at h
    split at h
    · split at h
      · cases h
      · rename_i failure hf
        obtain ⟨rfl, rfl⟩ := Prod.mk.inj (Except.ok.inj h)
        refine ⟨by simp, by simp, by simp, (s!"HTTP {r.status} for " : String),
          (": " : Str) ++ failure.message, ?_⟩
        simp [toString, Str.ofString_append, Str.append_assoc]
    · split at h
      · obtain ⟨rfl, rfl⟩ := Prod.mk.inj (Except.ok.inj h)
        refine ⟨by simp, by simp, by simp, "Malformed JSON from ", "", ?_⟩
        simp [toString, Str.ofString_append]
      · obtain ⟨rfl, rfl⟩ := Prod.mk.inj (Except.ok.inj h)
        refine ⟨by simp, by simp, by simp, (s!"HTTP {r.status} for " : String), "", ?_⟩
        simp [toString, Str.ofString_append, Str.append_assoc]

/-- A line of an error about a request tells a result without a response. -/
theorem told_without_response {f : Failure} {line : Log.Line} (hl : line.level = .error)
    (before after : Str) (hm : line.message = before ++ o.description ++ after) :
    TransportResult.IsToldBy ⟨none, none, some f⟩ o line :=
  ⟨by simp [hl], by simp [hl], by simp [hl], before, after, hm⟩

theorem settleFault_reports (f : Fault) : (settleFault o f).Reports (·.IsToldBy o ·) := by
  unfold settleFault
  split
  · exact fun c => .inr ⟨_, rfl, told_without_response rfl ""
      (s!" timed out after {c.timeoutText}s" : String)
      (by simp [toString, Str.ofString_append, Str.append_assoc])⟩
  · exact .inr ⟨_, rfl, told_without_response rfl "Connection failed for "
      (s!": {f.message}" : String) (by simp [toString, Str.ofString_append, Str.append_assoc])⟩
  · trivial

theorem settleResponse_reports (r : Response) : (settleResponse o r).Reports (·.IsToldBy o ·) := by
  unfold settleResponse
  split
  · trivial
  · rename_i hc
    exact .inr ⟨_, rfl, classify_told hc⟩

theorem afterResponse_reports (follows : Bool) (request : Request)
    {next : Request → Flow TransportResult} (hnext : ∀ r, (next r).Reports (·.IsToldBy o ·))
    (r : Response) : (afterResponse o follows request next r).Reports (·.IsToldBy o ·) := by
  unfold afterResponse
  split
  · exact settleResponse_reports _
  · split
    · exact settleFault_reports _
    · split
      · exact hnext _
      · exact settleResponse_reports _

theorem afterAnswer_reports (session : SessionView) (request : Request)
    {next : Request → Flow TransportResult} (hnext : ∀ r, (next r).Reports (·.IsToldBy o ·))
    (a : Answer) : (afterAnswer o session request next a).Reports (·.IsToldBy o ·) := by
  cases a with
  | interruption => trivial
  | fault cause =>
    cases cause with
    | inl f => exact settleFault_reports f
    | inr failure => trivial
  | response status headers body =>
    unfold afterAnswer
    dsimp only
    split
    · exact settleFault_reports _
    · exact afterResponse_reports _ request hnext _

theorem follow_reports (session : SessionView) (more : Nat) (request : Request) :
    (follow o session more request).Reports (·.IsToldBy o ·) := by
  induction more generalizing request with
  | zero => exact afterAnswer_reports session request fun _ => settleFault_reports redirectFault
  | succ more ih => exact afterAnswer_reports session request ih

theorem flow_reports (o : Outgoing) : (flow o).Reports (·.IsToldBy o ·) := by
  unfold flow
  cases writeContent o with
  | error f => trivial
  | ok body =>
    refine .inl ⟨rfl, fun v c => ?_⟩
    dsimp only
    split
    · trivial
    · split
      · trivial
      · exact follow_reports _ _ _

end Exchange

/-- What a line tells of a result of a task. -/
def Outgoing.Tells (o : Outgoing) (d : Delivery) (line : Log.Line) : Prop :=
  ∃ t, d = .transport t ∧ t.IsToldBy o line

theorem Exchange.task_reports (o : Outgoing) :
    (Delivery.transport <$> flow o).Reports o.Tells :=
  (flow_reports o).map fun t _ ht => ⟨t, rfl, ht⟩

theorem Job.next_reports {j : Job} {f : Flow Delivery} {tells : Delivery → Log.Line → Prop}
    (hf : j.next? = some f) (h : ∀ f, j.phase.stand = .going f → f.Reports tells) :
    f.Reports tells := by
  rcases Job.next?_cases hf with ⟨-, rfl⟩ | hg | ⟨name, stubborn, hg⟩
  · trivial
  · exact h f hg
  · have hgate : (Flow.gate name stubborn f).Reports tells := h _ hg
    exact hgate

/-! What a loop logs -/

namespace Loop

variable {l l' : Loop} {i : Nat}

/-- The lines about the outcome of a task. -/
def outcomeLines (l : Loop) (task : Nat) : List Log.Line :=
  l.trace.filterMap (Event.outcomeLine? task)

theorem outcomeLines_of_trace {es : List Event} (h : l'.trace = l.trace ++ es) :
    l'.outcomeLines i = l.outcomeLines i ++ es.filterMap (Event.outcomeLine? i) := by
  unfold outcomeLines
  rw [h, List.filterMap_append]

/-- The result of a task was handed on, to its callback or to whoever waits for it. -/
def HasClosed (l : Loop) (task : Nat) : Prop := l.handed task ≠ [] ∨ l.deliveries task ≠ []

theorem hasClosed_of_trace {es : List Event} (hes : l'.trace = l.trace ++ es) :
    l'.HasClosed i ↔ l.HasClosed i ∨ es.filterMap (Event.handed? i) ≠ [] ∨
      es.filterMap (Event.delivered? i) ≠ [] := by
  unfold HasClosed handed deliveries
  rw [hes, List.filterMap_append, List.filterMap_append, ne_eq, ne_eq, List.append_eq_nil_iff,
    List.append_eq_nil_iff]
  tauto

/-- The result of a task is handed on after it has ended, and only once. -/
theorem Books.not_hasClosed (h : l.Books i) (hq : l.due? i = none ∨ .complete i ∈ l.ready) :
    ¬ l.HasClosed i := by
  have hlater (hd : l.due? i ≠ none) : l.pending i ≠ 0 := pending_ne_zero (hq.resolve_left hd)
  unfold HasClosed
  obtain ⟨-, -, hh, hs, -⟩ | ⟨_, _, -, -, hh, hs, -⟩ | ⟨_, _, _, hd, -, hp, -⟩ | ⟨_, _, hd, hp, -⟩ := h
  · simp [hh, hs]
  · simp [hh, hs]
  · exact absurd hp (hlater (by simp [hd]))
  · exact absurd hp (hlater (by simp [hd]))

end Loop

namespace Scene

variable {s s' : Scene} {i : Nat} {o : Outgoing} {callback : Option Callback}

/-- What a step logs about the outcome of a task that does not go on: nothing, or how it has ended,
and then its result is handed on. -/
theorem Notes.outcomeLines {es : List Event} (h : s.Notes es) (hb : s.focus.task? ≠ some i)
    (hc : ∀ t e c d, s.loop.due? i = some (t, e) → t.callback = some c → c.fails d = false) :
    es.filterMap (Event.outcomeLine? i) = [] ∧ (s.focus = .inside i ∨
      es.filterMap (Event.handed? i) = [] ∧ es.filterMap (Event.delivered? i) = []) ∨
    ∃ t e, .complete i ∈ s.loop.ready ∧ s.loop.due? i = some (t, e) ∧
      es.filterMap (Event.outcomeLine? i) = (Loop.endingLine? t e).toList ∧
      (es.filterMap (Event.handed? i) ≠ [] ∨ es.filterMap (Event.delivered? i) ≠ []) := by
  cases h with
  | nothing => exact .inl ⟨rfl, .inr ⟨rfl, rfl⟩⟩
  | other e hp hl =>
    left
    cases e with
    | log id line => exact absurd rfl (hl id line)
    | callback id d => exact hp.elim
    | delivery id d => exact hp.elim
    | _ => exact ⟨rfl, .inr ⟨rfl, rfl⟩⟩
  | line id line next hf =>
    have hne : id ≠ i := fun he => hb (by rw [hf, he]; rfl)
    exact .inl ⟨by simp [Event.outcomeLine?, hne], .inr ⟨rfl, rfl⟩⟩
  | closing id t e last hq hd hlast =>
    by_cases he : id = i
    · subst he
      have hending : ((Loop.endingLine? t e).toList.map (.log id)).filterMap (Event.outcomeLine? id) =
          (Loop.endingLine? t e).toList := by
        cases e <;> simp [Loop.endingLine?, Event.outcomeLine?]
      refine .inr ⟨t, e, hq, hd, ?_, ?_⟩
      · rw [List.filterMap_append, hending]
        rcases hlast with ⟨-, rfl⟩ | ⟨-, rfl⟩ <;> simp [Event.outcomeLine?]
      · rcases hlast with ⟨-, rfl⟩ | ⟨-, rfl⟩
        · exact .inr (by simp [Event.delivered?])
        · exact .inl (by simp [Event.handed?])
    · left
      rcases hlast with ⟨-, rfl⟩ | ⟨-, rfl⟩ <;> cases Loop.endingLine? t e <;>
        simp [Event.outcomeLine?, Event.handed?, Event.delivered?, he]
  | leaving id t e c hf hd hcall hends =>
    by_cases he : id = i
    · subst he
      exact .inl ⟨by simp [Event.outcomeLine?, hc t e c _ hd hcall], .inl hf⟩
    · left
      split <;> simp [Event.outcomeLine?, Event.handed?, Event.delivered?, he]

/-- What has been logged about the outcome of a request, as far as it has come. -/
inductive Accounts (s : Scene) (i : Nat) (o : Outgoing) (t : Ticket) : Prop where
  | before (f : Flow Delivery) (hσ : s.stand? i = some (.going f)) (hf : f.Reports o.Tells)
      (hl : s.loop.outcomeLines i = [])
  /-- The line has been logged, and the flow is about to end. -/
  | telling (d : Delivery) (line : Log.Line) (hfocus : s.focus = .running i (.finish d))
      (hd : o.Tells d line) (hl : s.loop.outcomeLines i = [line])
  | told (e : Ending) (line : Log.Line) (hσ : s.stand? i = some (.ended e)) (he : e ≠ .interrupted)
      (hd : o.Tells (Loop.deliveryOf t e) line) (hl : s.loop.outcomeLines i = [line])
      (hclosed : Loop.endingLine? t e = none ∨ s.loop.HasClosed i)
  /-- Something was left unhandled, and the task has not dealt with it yet. -/
  | failing (cause : Fault ⊕ Failure) (hσ : s.stand? i = some (.ended (.escaped cause)))
      (hl : s.loop.outcomeLines i = []) (hopen : ¬ s.loop.HasClosed i)
  | cut (hσ : s.stand? i = some (.ended .interrupted)) (hl : s.loop.outcomeLines i = [])

namespace Accounts

/-- A task that goes on says of its outcome what its flow says. -/
theorem go {l : Loop} {f : Flow Delivery} {t : Ticket} (hin : InOrder ⟨l, .running i f⟩)
    (hi : i < l.jobs.length) (hf : f.Reports o.Tells) (hl : l.outcomeLines i = []) :
    (l.go i f).Accounts i o t := by
  have hgoes {l' : Loop} {f' : Flow Delivery} (es : List Event) (hf' : f'.Reports o.Tells)
      (hes : l'.trace = l.trace ++ es) (hnone : es.filterMap (Event.outcomeLine? i) = []) :
      Accounts ⟨l', .running i f'⟩ i o t :=
    .before f' (if_pos rfl) hf' (by rw [Loop.outcomeLines_of_trace hes, hl, hnone]; rfl)
  have hsame {l' : Loop} (h : l'.trace = l.trace) : l'.outcomeLines i = [] := by
    rw [Loop.outcomeLines, h]
    exact hl
  have hwaits (w : Wait) (hw : w.flow.Reports o.Tells) : Accounts ⟨l.park i w, .idle⟩ i o t :=
    .before w.flow ((l.setPhase_stand? (.parked w) hi).trans (if_pos rfl)) hw (hsame rfl)
  have hends (e : Ending) : Scene.stand? ⟨l.finish i e, .idle⟩ i = some (.ended e) :=
    (l.finish_stand? i e hi).trans (if_pos rfl)
  cases f with
  | finish d => exact hf.elim
  | escape cause =>
    have hopen := (hin.books i).not_hasClosed (.inl (hin.running i _ rfl))
    have htrace : (l.finish i (.escaped cause)).trace = l.trace ++ [] :=
      (l.finish_trace i _).trans (List.append_nil _).symm
    refine .failing cause (hends _) (hsame (l.finish_trace i _)) fun hclosed => hopen ?_
    simpa using (Loop.hasClosed_of_trace htrace).mp hclosed
  | interrupt => exact .cut (hends _) (hsame (l.finish_trace i _))
  | log line next =>
    rcases hf with ⟨hdebug, hnext⟩ | ⟨d, rfl, hd⟩
    · exact hgoes [.log i line] hnext rfl (by simp [Event.outcomeLine?, hdebug])
    · refine .telling d line rfl hd ?_
      obtain ⟨r, -, hr⟩ := hd
      have htrace : (l.record (.log i line)).trace = l.trace ++ [.log i line] := rfl
      change (l.record (.log i line)).outcomeLines i = [line]
      rw [Loop.outcomeLines_of_trace htrace, hl]
      simp [Event.outcomeLine?, hr.not_debug]
  | client next => exact hgoes [] (hf l.client) (List.append_nil _).symm rfl
  | session next => exact hgoes [] (hf _) (List.append_nil _).symm rfl
  | send place r next =>
    refine hgoes [.request i r (l.cookies? place r)] ?_ rfl rfl
    unfold Reply.answered
    split
    · exact hf _
    · exact hf _
  | hear place r next => exact hgoes [] hf (List.append_nil _).symm rfl
  | call o' next =>
    exact hgoes [.call i l.jobs.length o'] (fun d => hf d.asTransport) rfl rfl
  | join id next =>
    unfold Loop.go
    dsimp only
    split
    · exact hgoes [] (hf _) (List.append_nil _).symm rfl
    · exact hwaits (.task id next) hf
  | gate name stubborn next =>
    unfold Loop.go
    dsimp only
    split
    · exact hgoes [] hf (List.append_nil _).symm rfl
    · exact hwaits (.gate name stubborn next) hf

end Accounts

/-- The line about something unhandled tells what is delivered then. -/
theorem tells_of_endingLine? {cause : Fault ⊕ Failure} {line : Log.Line}
    (h : Loop.endingLine? (Loop.requestTicket o callback) (.escaped cause) = some line) :
    o.Tells (Loop.deliveryOf (Loop.requestTicket o callback) (.escaped cause)) line := by
  obtain rfl := Option.some.inj h
  exact ⟨_, rfl, Exchange.told_without_response rfl "Unexpected error in "
    ((": " : Str) ++ causeText cause)
    (by simp [Loop.requestTicket, toString, Str.ofString_append, Str.append_assoc])⟩

end Scene

theorem Step.accounts {s s' : Scene} {i : Nat} {o : Outgoing} {callback : Option Callback}
    (hs : Step s s') (hin : s.InOrder) (hi : i < s.loop.jobs.length)
    (ht : s.loop.ticket? i = some (Loop.requestTicket o callback))
    (hc : ∀ c, callback = some c → ∀ d, c.fails d = false)
    (h : s.Accounts i o (Loop.requestTicket o callback)) :
    s'.Accounts i o (Loop.requestTicket o callback) := by
  have hticket {t : Ticket} {e : Ending} (hd : s.loop.due? i = some (t, e)) :
      t = Loop.requestTicket o callback :=
    Option.some.inj ((Loop.ticket?_of_due? hd).1.symm.trans ht)
  have hending {t : Ticket} {e e' : Ending} (hσ : s.stand? i = some (.ended e))
      (hd : s.loop.due? i = some (t, e')) : e' = e :=
    Stand.ended.inj (Option.some.inj ((hin.stand?_of_due? hd).symm.trans hσ))
  obtain ⟨es, hes, hnotes⟩ := hs.notes
  have hlines := Loop.outcomeLines_of_trace (i := i) hes
  have hclosed := Loop.hasClosed_of_trace (i := i) hes
  -- where the task does not go on, the step logs nothing about it, or how it has ended
  have hstill (hb : s.focus.task? ≠ some i) := hnotes.outcomeLines hb fun t e c d hd hcall =>
    hc c ((congrArg Ticket.callback (hticket hd)).symm.trans hcall) d
  cases h with
  | before f hσ hf hl =>
    by_cases hb : s.focus.task? = some i
    · obtain ⟨l, focus⟩ := s
      obtain ⟨-, rfl⟩ := Scene.mk.inj (Scene.focus_of_stand? hσ hb)
      obtain rfl := Step.of_running hs
      exact .go hin hi hf hl
    · have hnone : es.filterMap (Event.outcomeLine? i) = [] := by
        rcases hstill hb with ⟨hnone, -⟩ | ⟨t, e, -, hd, -⟩
        · exact hnone
        · exact absurd (hσ.symm.trans (hin.stand?_of_due? hd)) (by simp)
      rw [hl, hnone] at hlines
      rcases (hs.turns hi).held hb with hheld | ⟨j, f', hj, hnext, hf'⟩
      · exact .before f (hheld.trans hσ) hf hlines
      · refine .before f' hf' (Job.next_reports hnext fun g hg => ?_) hlines
        have hg' : s.stand? i = some (.going g) := by rw [Scene.stand?_of_job hj hb, hg]
        rw [Stand.going.inj (Option.some.inj (hg'.symm.trans hσ))]
        exact hf
  | telling d line hfocus hd hl =>
    obtain ⟨l, focus⟩ := s
    obtain rfl : focus = .running i (.finish d) := hfocus
    obtain rfl := Step.of_running hs
    refine .told (.finished d) line ((l.finish_stand? i _ hi).trans (if_pos rfl)) (by simp) hd ?_
      (.inl rfl)
    change (l.finish i (.finished d)).outcomeLines i = [line]
    rw [Loop.outcomeLines, l.finish_trace]
    exact hl
  | told e line hσ he hd hl hdone =>
    refine .told e line (hs.ended hi hσ) he hd ?_ (hdone.imp_right fun h => hclosed.mpr (.inl h))
    rw [hlines, hl]
    rcases hstill (Scene.task?_of_ended hσ) with ⟨hnone, -⟩ | ⟨t, e', hq, hdue, hline, -⟩
    · rw [hnone]
      rfl
    · obtain rfl := hticket hdue
      obtain rfl := hending hσ hdue
      have hquiet := hdone.resolve_right ((hin.books i).not_hasClosed (.inr hq))
      rw [hline, hquiet]
      rfl
  | failing cause hσ hl hopen =>
    rw [hl] at hlines
    rcases hstill (Scene.task?_of_ended hσ) with
      ⟨hnone, hin' | ⟨hh, hd⟩⟩ | ⟨t, e, -, hdue, hline, hhands⟩
    · exact absurd (.inl (hin.inside i hin').2) hopen
    · refine .failing cause (hs.ended hi hσ) (hlines.trans hnone) ?_
      rw [hclosed, hh, hd]
      simpa using hopen
    · obtain rfl := hticket hdue
      obtain rfl := hending hσ hdue
      exact .told _ _ (hs.ended hi hσ) (by simp) (Scene.tells_of_endingLine? rfl) (hlines.trans hline)
        (.inr (hclosed.mpr (.inr hhands)))
  | cut hσ hl =>
    refine .cut (hs.ended hi hσ) ?_
    rw [hlines, hl]
    rcases hstill (Scene.task?_of_ended hσ) with ⟨hnone, -⟩ | ⟨t, e, -, hdue, hline, -⟩
    · exact hnone
    · obtain rfl := hending hσ hdue
      exact hline

/-- Nothing has been logged about the outcome of a task that has not begun. -/
theorem Reachable.unbegun_outcomeLines {s : Scene} (hr : Reachable s) {i : Nat}
    (h : s.loop.jobs.length ≤ i ∨ s.Unbegun i) : s.loop.outcomeLines i = [] := by
  obtain ⟨c, owned, server, keeper, hrun⟩ := hr
  induction hrun with
  | refl => rfl
  | @tail s₁ s₂ hrun hs ih =>
    have hr₁ : Reachable s₁ := ⟨c, owned, server, keeper, hrun⟩
    have hbefore : s₁.focus.task? ≠ some i ∧ s₁.loop.due? i = none ∧
        (s₁.loop.jobs.length ≤ i ∨ s₁.Unbegun i) := by
      by_cases hi : i < s₁.loop.jobs.length
      · have hborn : ¬ s₂.loop.jobs.length ≤ i := Nat.not_le.mpr (Nat.lt_of_lt_of_le hi hs.length)
        obtain ⟨hb, j, f, hj, hp⟩ := hs.unbegun hi (h.resolve_left hborn)
        refine ⟨hb, ?_, .inr ⟨hb, j, f, hj, hp⟩⟩
        rw [Loop.due?_eq hj, Job.due?, hp]
        cases j.ticket <;> rfl
      · have hnot := Nat.le_of_not_lt hi
        refine ⟨fun he => hi (hr₁.fosters.running i he), ?_, .inl hnot⟩
        rw [Loop.due?, List.getElem?_eq_none hnot]
        rfl
    obtain ⟨hb, hdue, h₁⟩ := hbefore
    obtain ⟨es, hes, hnotes⟩ := hs.notes
    rw [Loop.outcomeLines_of_trace hes, ih h₁]
    rcases hnotes.outcomeLines hb fun t e c d hd => absurd (hdue.symm.trans hd) (by simp) with
      ⟨hnone, -⟩ | ⟨t, e, -, hd, -⟩
    · exact hnone
    · exact absurd (hdue.symm.trans hd) (by simp)

theorem Steps.accounts {s₀ s : Scene} {i : Nat} {o : Outgoing} {callback : Option Callback}
    (hs : Steps s₀ s) (hr : Reachable s₀) (ho : s₀.Opens i (.request o callback))
    (hc : ∀ c, callback = some c → ∀ d, c.fails d = false) :
    s.Accounts i o (Loop.requestTicket o callback) := by
  induction hs with
  | refl =>
    exact .before _ ho.stand? (Exchange.task_reports o)
      (hr.unbegun_outcomeLines (.inr ⟨ho.still, _, _, ho.job, rfl⟩))
  | tail hrun hstep ih =>
    exact hstep.accounts (hr.trans hrun).inOrder (Nat.lt_of_lt_of_le ho.length (Steps.length hrun))
      ((Steps.ticket? hrun ho.length).trans ho.ticket?) hc ih

namespace Scene.Accounts

variable {s : Scene} {i : Nat} {o : Outgoing} {t : Ticket}

theorem length_le (h : s.Accounts i o t) : (s.loop.outcomeLines i).length ≤ 1 := by
  cases h with
  | before f hσ hf hl => simp [hl]
  | telling d line hfocus hd hl => simp [hl]
  | told e line hσ he hd hl hdone => simp [hl]
  | failing cause hσ hl hopen => simp [hl]
  | cut hσ hl => simp [hl]

/-- Nothing is logged about the outcome of a request that has to end early. -/
theorem silent (h : s.Accounts i o t) (hd : s.Doomed i) : s.loop.outcomeLines i = [] := by
  have hended {e : Ending} (hσ : s.stand? i = some (.ended e)) : e = .interrupted := by
    cases hd with
    | called j hj hb hn =>
      have hp : j.phase.stand = .ended e :=
        Option.some.inj ((Scene.stand?_of_job hj hb).symm.trans hσ)
      simp [Job.next?, Phase.eq_of_stand hp] at hn
    | stopping hf =>
      exact absurd (congrArg Focus.task? hf) (Scene.task?_of_ended hσ)
    | stopped hσ' => exact Stand.ended.inj (Option.some.inj (hσ.symm.trans hσ'))
  cases h with
  | before f hσ hf hl => exact hl
  | telling d line hfocus hd' hl =>
    have hrunning : s.focus.task? = some i := congrArg Focus.task? hfocus
    cases hd with
    | called j hj hb hn => exact absurd hrunning hb
    | stopping hf => cases hf.symm.trans hfocus
    | stopped hσ => exact absurd hrunning (Scene.task?_of_ended hσ)
  | told e line hσ he hd' hl hdone => exact absurd (hended hσ) he
  | failing cause hσ hl hopen => exact hl
  | cut hσ hl => exact hl

/-- One line tells the result that a request has delivered, unless it was cancelled. -/
theorem delivered (h : s.Accounts i o t) (hin : s.InOrder) (ht : s.loop.ticket? i = some t)
    {d : Delivery} (ho : s.loop.outcome? i = some d) (hn : s.loop.isCancelled i = false) :
    ∃ line, o.Tells d line ∧ s.loop.outcomeLines i = [line] := by
  obtain ⟨t', e, hdue, -, -, hs, ho'⟩ := (hin.books i).delivered (.inr (by simp [ho]))
  obtain rfl : t' = t := Option.some.inj ((Loop.ticket?_of_due? hdue).1.symm.trans ht)
  obtain rfl : Loop.deliveryOf t' e = d := Option.some.inj (ho'.symm.trans ho)
  have hstand := hin.stand?_of_due? hdue
  cases h with
  | before f hσ hf hl => cases hσ.symm.trans hstand
  | telling d line hfocus hd hl =>
    exact absurd (congrArg Focus.task? hfocus) (Scene.task?_of_ended hstand)
  | told e' line hσ he hd hl hdone =>
    obtain rfl := Stand.ended.inj (Option.some.inj (hσ.symm.trans hstand))
    exact ⟨line, hd, hl⟩
  | failing cause hσ hl hopen => exact absurd (.inr (by simp [hs])) hopen
  | cut hσ hl => simp [Scene.isCancelled_of_stand? hσ] at hn

end Scene.Accounts

theorem Scene.InOrder.stand?_of_isCancelled {s : Scene} (h : s.InOrder) {i : Nat} {t : Ticket}
    (ht : s.loop.ticket? i = some t) (hcut : s.loop.isCancelled i = true) :
    s.stand? i = some (.ended .interrupted) := by
  obtain ⟨j, hj, -⟩ := Option.bind_eq_some_iff.mp ht
  have hp : j.phase = .ended .interrupted := by
    simp only [Loop.isCancelled, hj, Option.map_some, Option.getD_some] at hcut
    unfold Job.isCancelled at hcut
    split at hcut
    · assumption
    · cases hcut
  exact h.stand?_of_due? (Loop.due?_of_ended hj ht hp)

/-- A callback raises nothing, whatever it gets. -/
def Callback.Returns (c : Callback) : Prop := c ≠ .abort ∧ ∀ d, c.fails d = false

/-- In every run at most one line is logged about the outcome of a request whose callback raises nothing,
be it a caller's or one of an operation: one where the request has delivered and was not cancelled, which
names the request and whose level tells whether there was a failure and a response, whatever was to be
sent and whatever came back or was raised; and none where it was cancelled. A request that is not
cancelled does deliver once its answers have come. -/
theorem request_logs_one_outcome_line {i : Nat} {s₀ s : Scene} {o : Outgoing}
    {callback : Option Callback} (hr : Reachable s₀) (ho : s₀.Opens i (.request o callback))
    (hc : ∀ c, callback = some c → c.Returns) (hs : Steps s₀ s) :
    (s.loop.outcomeLines i).length ≤ 1 ∧
    (∀ d, s.loop.outcome? i = some d → s.loop.isCancelled i = false →
      ∃ t line, d = .transport t ∧ s.loop.outcomeLines i = [line] ∧ t.IsToldBy o line) ∧
    (s.loop.isCancelled i = true → s.loop.outcomeLines i = []) ∧
    (∀ s₁ s₂, Steps s₀ s₁ → s₁.Cancels i s₂ → Steps s₂ s → s.loop.outcomeLines i = []) ∧
    (s.focus = .idle → s.loop.ready = [] → ¬ s.loop.Lacks i → ∃ d, s.loop.outcome? i = some d) := by
  have hin := (hr.trans hs).inOrder
  have hticket : s.loop.ticket? i = some (Loop.requestTicket o callback) :=
    (Steps.ticket? hs ho.length).trans ho.ticket?
  have haccounts := Steps.accounts hs hr ho fun c hcall => (hc c hcall).2
  refine ⟨haccounts.length_le, fun d hd hn => ?_, fun hcut => ?_, fun s₁ s₂ hs₁ hcancel hs₂ => ?_, ?_⟩
  · obtain ⟨line, ⟨t, rfl, ht⟩, hl⟩ := haccounts.delivered hin hticket hd hn
    exact ⟨t, line, rfl, hl, ht⟩
  · exact haccounts.silent (.stopped (hin.stand?_of_isCancelled hticket hcut))
  · have hcomplies : ∀ σ, s₀.stand? i = some σ → σ.Complies True := by
      intro σ hσ
      rw [← Option.some.inj (ho.stand?.symm.trans hσ)]
      exact (Exchange.flow_complies o).bind fun _ => trivial
    have hlt : i < s₂.loop.jobs.length :=
      Nat.lt_of_lt_of_le (Nat.lt_of_lt_of_le ho.length (Steps.length hs₁)) hcancel.step.length
    exact haccounts.silent
      (Steps.doomed hs₂ hlt (hcancel.doomed (Steps.complies hs₁ ho.length hcomplies)))
  · refine hs.delivers_of_apart hr ho ((Exchange.flow_apart o).bind fun _ => trivial) ?_
    intro habort
    exact (hc .abort habort).1 rfl

/-- The end of a question for something that is not found, whose callback looks at it. -/
def Scene.watched : Scene :=
  .closing (.named "alice") [.ofBytes 404 (Text.Utf8.encode Json.Value.notFound.chars)]
    (.request .lost (some .probe))

/-- A question for something that is not found logs a warning, and nothing else about its outcome. -/
theorem request_logs_one_outcome_line_of_lost : ∃ t line,
    Scene.watched.loop.outcome? 0 = some (.transport t) ∧ t.failure ≠ none ∧
      Scene.watched.loop.outcomeLines 0 = [line] ∧ line.level = .warning := by
  have hreturns (c : Callback) (hc : some Callback.probe = some c) : c.Returns := by
    obtain rfl := Option.some.inj hc
    exact ⟨by decide, fun _ => rfl⟩
  obtain ⟨-, htells, -⟩ := request_logs_one_outcome_line (Scene.opening_reachable _ _ _)
    (Scene.opening_opens _ _ _) hreturns (Scene.closing_steps (.named "alice")
      [.ofBytes 404 (Text.Utf8.encode Json.Value.notFound.chars)] (.request .lost (some .probe)))
  have hcame : (Scene.watched.loop.outcome? 0).map (fun d => (d.asTransport.response.isSome,
      d.asTransport.failure.isSome)) = some (true, true) := by decide +kernel
  obtain ⟨d, hd, hcame⟩ := Option.map_eq_some_iff.mp hcame
  obtain ⟨t, line, rfl, hl, ht⟩ := htells d hd (by decide +kernel)
  obtain ⟨hresponse, hfailure⟩ := Prod.mk.inj hcame
  have hfailed : t.failure ≠ none := Option.isSome_iff_ne_none.mp hfailure
  exact ⟨t, line, hd, hfailed, hl, ht.warning.mpr ⟨hfailed, Option.isSome_iff_ne_none.mp hresponse⟩⟩

end Storefront
