import Storefront.Proofs.CookieSources
import Storefront.Proofs.Isolation
import Storefront.Proofs.Once

/-! Operations at the same time. Each of them sends and delivers what it sends and delivers alone, and
gets there unless its answers do not come. -/
namespace Storefront

/-- A task waits for a gate, as one does whose answer has not come yet. -/
def Loop.WaitsAtGate (l : Loop) (task : Nat) : Prop :=
  ∃ j name stubborn next, l.jobs[task]? = some j ∧ j.phase = .parked (.gate name stubborn next)

/-- An answer has not come yet that a task needs. -/
def Loop.Lacks (l : Loop) (task : Nat) : Prop :=
  l.WaitsAtGate task ∨ ∃ k o, .call k o ∈ l.deeds task ∧ l.WaitsAtGate k

/-- When nothing is left to do, a task has ended, or lacks an answer, or waits for a request. -/
theorem Scene.Apart.rests {s : Scene} {i : Nat} (h : s.Apart i) (hr : Reachable s)
    (hi : i < s.loop.jobs.length) (hidle : s.focus = .idle) (hempty : s.loop.ready = []) :
    (∃ e, s.stand? i = some (.ended e)) ∨ s.loop.WaitsAtGate i ∨
      ∃ k o, .call k o ∈ s.loop.deeds i ∧ s.loop.outcome? k = none := by
  have hb : s.focus.task? ≠ some i := by simp [hidle, Focus.task?]
  have hj : s.loop.jobs[i]? = some s.loop.jobs[i] := List.getElem?_eq_getElem hi
  rcases hr.rests hj hidle hempty with ⟨e, hp⟩ | ⟨w, hp⟩
  · exact .inl ⟨e, (Scene.stand?_of_job hj hb).trans (by rw [hp]; rfl)⟩
  · cases w with
    | gate name stubborn next => exact .inr (.inl ⟨_, name, stubborn, next, hj, hp⟩)
    | task k next =>
      have hawait : s.loop.awaited? i = some k := by simp [Loop.awaited?, hj, Job.awaited?, hp]
      obtain ⟨o, hk⟩ := h.awaited hb hawait
      refine .inr (.inr ⟨k, o, hk, ?_⟩)
      rw [Option.eq_none_iff_forall_ne_some]
      intro d hd
      have hmem := hr.awake.told i k _ next d hj hp hd
      simp [hempty] at hmem

/-- When nothing is left to do, a task has delivered that lacks no answer and waits for nothing but
requests of its own. -/
theorem Steps.delivers_of_apart {s₀ s : Scene} (hs : Steps s₀ s) (hr : Reachable s₀) {i : Nat}
    {st : Start} (ho : s₀.Opens i st) (hst : st.flow.Apart) (hc : st.ticket.callback ≠ some .abort)
    (hidle : s.focus = .idle) (hempty : s.loop.ready = []) (hn : ¬ s.loop.Lacks i) :
    ∃ d, s.loop.outcome? i = some d := by
  have hr' : Reachable s := hr.trans hs
  have hlt : i < s.loop.jobs.length := Nat.lt_of_lt_of_le ho.length (Steps.length hs)
  have hticket : s.loop.ticket? i = some st.ticket := (Steps.ticket? hs ho.length).trans ho.ticket?
  have hchild (k : Nat) (o : Outgoing) (hk : .call k o ∈ s.loop.deeds i) :
      s.loop.outcome? k ≠ none := by
    obtain ⟨hkeeps, htick⟩ := hr'.fosters.child i k o hk
    obtain ⟨s₁, -, hs₁, hopens⟩ := hr'.born hk
    have hapart := Steps.apart hs₁ hopens.length
      (.going _ hopens.stand? (Start.Offered.own o).apart)
    rcases hapart.rests hr' hkeeps.length hidle hempty with ⟨e, he⟩ | hgate | ⟨k', o', hk', -⟩
    · rw [hr'.delivers he htick (by simp [Loop.requestTicket]) hidle hempty]
      simp
    · exact absurd (.inr ⟨k, o, hk, hgate⟩) hn
    · exact absurd hk' (hr'.request_calls hk k' o')
  have hapart := Steps.apart hs ho.length (.going _ ho.stand? hst)
  rcases hapart.rests hr' hlt hidle hempty with ⟨e, he⟩ | hgate | ⟨k, o, hk, hnone⟩
  · exact ⟨_, hr'.delivers he hticket hc hidle hempty⟩
  · exact absurd (.inl hgate) hn
  · exact absurd hnone (hchild k o hk)

/-- When nothing is left to do, whatever was started has delivered that lacks no answer. -/
theorem Steps.delivers {s₀ s : Scene} (hs : Steps s₀ s) (hr : Reachable s₀) {i : Nat} {st : Start}
    (ho : s₀.Opens i st) (hst : st.Offered) (hc : st.ticket.callback ≠ some .abort)
    (hidle : s.focus = .idle) (hempty : s.loop.ready = []) (hn : ¬ s.loop.Lacks i) :
    ∃ d, s.loop.outcome? i = some d :=
  hs.delivers_of_apart hr ho hst.apart hc hidle hempty hn

/-- What a callback is handed is the result of its own task, and it is handed once. -/
theorem Reachable.handed {s : Scene} (hr : Reachable s) {task : Nat} {d : Delivery}
    (h : d ∈ s.loop.handed task) : ∃ t e, s.loop.due? task = some (t, e) ∧
      t.callback.isSome = true ∧ d = Loop.deliveryOf t e ∧ s.loop.handed task = [d] := by
  obtain ⟨-, -, hh, -⟩ | ⟨_, _, -, -, hh, -⟩ | ⟨t, e, c, hd, hc, -, hh, -⟩ | ⟨t, e, hd, -, hh, -⟩ :=
    hr.inOrder.books task
  · simp [hh] at h
  · simp [hh] at h
  · rw [hh] at h
    obtain rfl := List.mem_singleton.mp h
    exact ⟨t, e, hd, by simp [hc], rfl, hh⟩
  · rw [hh, Loop.handedAtEnd, Option.mem_toList] at h
    obtain ⟨c, hc, rfl⟩ := Option.map_eq_some_iff.mp h
    exact ⟨t, e, hd, by simp [hc], rfl, by rw [hh, Loop.handedAtEnd, hc]; rfl⟩

/-- Operations at the same time, in every run in which nobody changes the configuration of the client
and every answer depends on its request only, as the client has put it together. An operation or request
that is not cancelled puts the same requests together as when it is started alone on a loop of its own,
and delivers the same result, whatever is started beside it, whichever of that is cancelled, and however
the steps and the answers are ordered. It does deliver once its answers have come. Whatever a callback is
handed is the result of its own task. What goes from one operation to another are cookies, which sessions
add on the way; where no response sets any, the shop receives the requests as they were put together. -/
theorem operations_are_isolated {c : Client} {owned : Bool} {keeper : CookieKeeper}
    {server server' : Server} {shop : Shop} {s₀ s t : Scene} {i : Nat} {st : Start}
    (h₀ : UnchangedSteps (.initial c owned server keeper) s₀) (ho : s₀.Opens i st)
    (hst : st.Offered) (hs : SecludedSteps shop i s₀ s)
    (ht : SecludedSteps shop 0 ⟨((Loop.ofClient c owned server' keeper).start st).2, .idle⟩ t) :
    (s.loop.sentFor i <+: t.loop.sentFor 0 ∨ t.loop.sentFor 0 <+: s.loop.sentFor i) ∧
    (∀ d, t.loop.outcome? 0 = some d → s.loop.sentFor i <+: t.loop.sentFor 0 ∧
      ∀ d', s.loop.outcome? i = some d' → d' = d ∧ s.loop.sentFor i = t.loop.sentFor 0 ∧
        s.loop.handed i = t.loop.handed 0) ∧
    (st.ticket.callback ≠ some .abort → s.focus = .idle → s.loop.ready = [] → ¬ s.loop.Lacks i →
      ∃ d, s.loop.outcome? i = some d) ∧
    (∀ task d, d ∈ s.loop.handed task → ∃ ticket e, s.loop.due? task = some (ticket, e) ∧
      ticket.callback.isSome = true ∧ d = Loop.deliveryOf ticket e ∧ s.loop.handed task = [d]) ∧
    (keeper.IsHonest → (∀ p ∈ s.loop.heard, p.2.setCookies = []) →
      (∀ p ∈ t.loop.heard, p.2.setCookies = []) →
        s.loop.receivedFor i = s.loop.sentFor i ∧ t.loop.receivedFor 0 = t.loop.sentFor 0) := by
  have hr₀ : Reachable s₀ := (Reachable.initial c owned server keeper).trans h₀.steps
  have hr : Reachable s := hr₀.trans hs.steps
  have hshop : Reachable ⟨.ofClient c owned server' keeper, .idle⟩ :=
    .initial c owned server' keeper
  have halone : Scene.Opens ⟨((Loop.ofClient c owned server' keeper).start st).2, .idle⟩ 0 st :=
    Scene.Opens.start hshop trivial st
  have hrt : Reachable t := (hshop.act trivial (.start st)).trans ht.steps
  -- both are on the course that the flow, the client and the shop determine
  have hw : s₀.loop.surroundings = (Loop.ofClient c owned server' keeper).surroundings :=
    h₀.surroundings
  have hin : s.Isolated _ shop i (st.alone _ shop) := hs.isolated hr₀ (ho.isolated hst)
  have hint : t.Isolated _ shop 0 (st.alone _ shop) :=
    ht.isolated (hshop.act trivial (.start st)) (halone.isolated hst)
  rw [hw] at hin
  have hticket : s.loop.ticket? i = some st.ticket :=
    (Steps.ticket? hs.steps ho.length).trans ho.ticket?
  have htickett : t.loop.ticket? 0 = some st.ticket :=
    (Steps.ticket? ht.steps halone.length).trans halone.ticket?
  have hkeeper : s.loop.keeper = keeper :=
    (Steps.attends hs.steps).keeper.trans (Steps.attends h₀.steps).keeper
  have hkeepert : t.loop.keeper = keeper := (Steps.attends ht.steps).keeper
  refine ⟨?_, ?_, ?_, fun task d hd => hr.handed hd, fun hk hn hnt => ⟨?_, ?_⟩⟩
  · exact List.prefix_or_prefix_of_prefix (hin.sent_begins hr) (hint.sent_begins hrt)
  · intro d hd
    obtain ⟨rfl, hsent⟩ := hint.heads.delivered hrt.inOrder htickett hd
    refine ⟨hsent ▸ hin.sent_begins hr, fun d' hd' => ?_⟩
    obtain ⟨rfl, hsent'⟩ := hin.heads.delivered hr.inOrder hticket hd'
    refine ⟨rfl, hsent'.trans hsent.symm, ?_⟩
    rw [(hr.inOrder.books i).deliversOnce.called _ _ hticket hd',
      (hrt.inOrder.books 0).deliversOnce.called _ _ htickett hd]
    rfl
  · exact fun hc hidle hempty hn => Steps.delivers hs.steps hr₀ ho hst hc hidle hempty hn
  · exact Loop.receivedFor_eq (fun _ _ _ h => hr.cookieless (hkeeper ▸ hk) hn h) i
  · exact Loop.receivedFor_eq (fun _ _ _ h => hrt.cookieless (hkeepert ▸ hk) hnt h) 0

/-! Runs of this kind -/

/-- A run in which a task is not cancelled at the end leaves it alone, where every move does. -/
theorem Scene.plays_secluded {s : Scene} (hr : Reachable s) {shop : Shop} {i : Nat}
    {ms : List Move} (hi : i < s.loop.jobs.length)
    (hc : ∀ σ, s.stand? i = some σ → σ.Complies True) (hms : ∀ m ∈ ms, ¬ m.Configures)
    (ha : ∀ ms', ms' <+: ms → (s.plays ms').AnswersAs shop) (hn : ¬ (s.plays ms).Doomed i)
    (hk : ∀ k o, .call k o ∈ (s.plays ms).loop.deeds i → ¬ (s.plays ms).Doomed k) :
    SecludedSteps shop i s (s.plays ms) := by
  induction ms generalizing s with
  | nil => exact .refl
  | cons m ms ih =>
    have hplay : s.plays (m :: ms) = (s.play m).plays ms := rfl
    have hrest := (s.play m).plays_steps ms
    have hanswers : ∀ ms', ms' <+: ms → ((s.play m).plays ms').AnswersAs shop :=
      fun ms' h => ha (m :: ms') (List.prefix_cons_inj m |>.mpr h)
    have hlater : ∀ m' ∈ ms, ¬ m'.Configures := fun m' h => hms m' (List.mem_cons_of_mem m h)
    rw [hplay] at hn hk ⊢
    rcases s.play_step m with hsame | hs
    · rw [hsame] at hn hk hanswers ⊢
      exact ih hr hi hc hlater hanswers hn hk
    · have hr' := hr.trans (.single hs)
      have hi' := Nat.lt_of_lt_of_le hi hs.length
      refine Relation.ReflTransGen.head ⟨⟨hs, m, hms m List.mem_cons_self, rfl⟩,
        ha [] List.nil_prefix, ?_, ?_⟩ (ih hr' hi' (hs.complies hi hc) hlater hanswers hn hk)
      · exact fun hcancel => hn (Steps.doomed hrest hi' (hcancel.doomed hc))
      · intro k o hcall hcancel
        have hlt := (hr.fosters.child i k o hcall).1.length
        have hend : .call k o ∈ ((s.play m).plays ms).loop.deeds i :=
          (Steps.deeds_grow (Relation.ReflTransGen.head hs hrest) i).subset hcall
        exact hk k o hend (Steps.doomed hrest (Nat.lt_of_lt_of_le hlt hs.length)
          (hcancel.doomed (hr.call_complies hcall)))

namespace Scene

/-- Whether something holds at every moment of a run that is played. -/
def always (p : Scene → Bool) : Scene → List Move → Bool
  | s, [] => p s
  | s, m :: ms => p s && always p (s.play m) ms

theorem of_always {p : Scene → Bool} {s : Scene} {ms ms' : List Move} (h : s.always p ms = true)
    (hms : ms' <+: ms) : p (s.plays ms') = true := by
  induction ms generalizing s ms' with
  | nil =>
    rw [List.prefix_nil.mp hms]
    exact h
  | cons m ms ih =>
    obtain ⟨hp, hrest⟩ := (Bool.and_eq_true _ _).mp h
    rcases List.prefix_cons_iff.mp hms with rfl | ⟨ms'', rfl, hms''⟩
    · exact hp
    · exact ih (s := s.play m) hrest hms''

/-- Whether a request that is sent at this moment is answered with a page under some headers. -/
def isServed (under : List (String × String)) (page : List UInt8) (s : Scene) : Bool :=
  match s.focus with
  | .running _ (.send _ r _) =>
    match (s.loop.server.take r).1.answer with
    | .response status headers body => status == 200 && headers == under && body == page
    | _ => false
  | _ => true

theorem answersAs_of_isServed {s : Scene} {under : List (String × String)} {page : List UInt8}
    (h : s.isServed under page = true) : s.AnswersAs fun _ => .response 200 under page := by
  intro task place r next hf
  unfold isServed at h
  rw [hf] at h
  dsimp only at h
  split at h
  · rename_i ha
    rw [ha]
    simp only [Bool.and_eq_true, beq_iff_eq] at h
    obtain ⟨⟨rfl, rfl⟩, rfl⟩ := h
    rfl
  · cases h

theorem not_doomed {s : Scene} (hr : Reachable s) {i : Nat}
    (h : ((s.loop.outcome? i).isSome && !s.loop.isCancelled i) = true) : ¬ s.Doomed i := by
  obtain ⟨hsome, hgoes⟩ := (Bool.and_eq_true _ _).mp h
  obtain ⟨d, hd⟩ := Option.isSome_iff_exists.mp hsome
  intro hdoomed
  rw [(hdoomed.delivered hr.inOrder hd).1] at hgoes
  cases hgoes

end Scene

/-- Moves that take the first handle of the queue each time, and go on. -/
def Move.spin (n : Nat) : List Move := (List.replicate n [Move.take 0, .go]).flatten

def Start.heardLookup : Start :=
  { Start.lookup with ticket := ⟨"get customer", .customer, some .accept⟩ }

/-- What the shop answers to every question there. -/
def Json.Value.customerOne : Json.Value := .obj [("customer", .obj [("id", .int 1)])]

def Shop.customerOne : Shop := fun _ => .response 200 [] (Text.Utf8.encode Json.Value.customerOne.chars)

/-- Two questions at a shop that answers when its gate is open: the first is heard, and the second is
cancelled before that. -/
def Scene.twoLookups : Scene where
  loop := ((Loop.ofClient (.named "alice") true (.replicate 2
    { Reply.ofDocument 200 .customerOne with gate := some "door" }) Cookie.keeper).start .heardLookup).2
  focus := .idle

def Move.twoLookups : List Move :=
  .act (.start .lookup) :: (spin 20 ++ [.act (.cancel 1), .act (.release "door")] ++ spin 16)

def Scene.cancelledBeside : Scene := Scene.twoLookups.plays Move.twoLookups

/-- The first question by itself, at a shop that answers at once. -/
def Scene.oneLookup : Scene where
  loop := ((Loop.ofClient (.named "alice") true [.ofDocument 200 .customerOne] Cookie.keeper).start
    .heardLookup).2
  focus := .idle

def Scene.heardAlone : Scene := Scene.oneLookup.plays (Move.spin 16)

theorem Move.spin_configures {n : Nat} {m : Move} (hm : m ∈ spin n) : ¬ m.Configures := by
  obtain ⟨ms, hms, hm⟩ := List.mem_flatten.mp hm
  rw [(List.mem_replicate.mp hms).2] at hm
  rcases List.mem_pair.mp hm with rfl | rfl <;> exact id

theorem Move.twoLookups_configures {m : Move} (hm : m ∈ twoLookups) : ¬ m.Configures := by
  rcases List.mem_cons.mp hm with rfl | hm
  · exact id
  · rcases List.mem_append.mp hm with hm | hm
    · rcases List.mem_append.mp hm with hm | hm
      · exact spin_configures hm
      · rcases List.mem_pair.mp hm with rfl | rfl <;> exact id
    · exact spin_configures hm

/-- Whether a task and its requests have delivered without having been cancelled. -/
def Loop.hasGone (l : Loop) (task : Nat) : Bool :=
  (task :: (l.calls task).map (·.1)).all fun k => (l.outcome? k).isSome && !l.isCancelled k

theorem Scene.secluded_of_checks {s : Scene} (hr : Reachable s) {st : Start} {i : Nat}
    (ho : s.Opens i st) (hst : st.Offered) {ms : List Move} (hms : ∀ m ∈ ms, ¬ m.Configures)
    {under : List (String × String)} {page : List UInt8}
    (hpage : s.always (isServed under page) ms = true)
    (hgone : (s.plays ms).loop.hasGone i = true) :
    SecludedSteps (fun _ => .response 200 under page) i s (s.plays ms) := by
  have hreach : Reachable (s.plays ms) := hr.trans (s.plays_steps ms)
  have hall := List.all_eq_true.mp hgone
  refine s.plays_secluded hr ho.length (ho.complies hst) hms
    (fun ms' h => answersAs_of_isServed (of_always hpage h))
    (not_doomed hreach (hall i List.mem_cons_self)) fun k o hk => ?_
  exact not_doomed hreach (hall k (List.mem_cons_of_mem i (List.mem_map_of_mem (Loop.mem_calls.mpr hk))))

/-- The first question is answered and heard as it is by itself, though the second is cancelled, and
the shop receives it as it does by itself. -/
theorem operations_are_isolated_of_two_lookups : ∃ d,
    Scene.cancelledBeside.loop.outcome? 0 = some d ∧ Scene.heardAlone.loop.outcome? 0 = some d ∧
    Scene.cancelledBeside.loop.handed 0 = [d] ∧ Scene.cancelledBeside.loop.isCancelled 1 = true ∧
    Scene.cancelledBeside.loop.sentFor 0 = Scene.heardAlone.loop.sentFor 0 ∧
    Scene.cancelledBeside.loop.receivedFor 0 = Scene.heardAlone.loop.receivedFor 0 ∧
    (Scene.cancelledBeside.loop.sentFor 0).length = 1 := by
  have hop : (Client.named "alice").startOperation (.getCustomer (.text "1")) (some .accept) =
      .ok .heardLookup := by rfl
  have hst : Start.heardLookup.Offered := .operation _ _ _ _ hop
  have hshop (server : Server) :
      Reachable ⟨.ofClient (.named "alice") true server Cookie.keeper, .idle⟩ := .initial _ _ _ _
  have ho₁ : Scene.oneLookup.Opens 0 .heardLookup := Scene.Opens.start (hshop _) trivial _
  have ho₂ : Scene.twoLookups.Opens 0 .heardLookup := Scene.Opens.start (hshop _) trivial _
  have hr₂ : Reachable .twoLookups := (hshop _).act trivial (.start .heardLookup)
  have hs : SecludedSteps .customerOne 0 .twoLookups .cancelledBeside :=
    Scene.secluded_of_checks hr₂ ho₂ hst (fun _ => Move.twoLookups_configures) (by decide +kernel)
      (by decide +kernel)
  have ht : SecludedSteps .customerOne 0 .oneLookup .heardAlone :=
    Scene.secluded_of_checks ((hshop _).act trivial (.start .heardLookup)) ho₁ hst
      (fun _ => Move.spin_configures) (by decide +kernel) (by decide +kernel)
  have hopen : UnchangedSteps (.initial (.named "alice") true (.replicate 2
      { Reply.ofDocument 200 .customerOne with gate := some "door" }) Cookie.keeper) .twoLookups :=
    .single ⟨.act _ .idle (.start .heardLookup) trivial, .act (.start .heardLookup), id, rfl⟩
  obtain ⟨-, hsame, -, -, hcookies⟩ := operations_are_isolated hopen ho₂ hst hs ht
  have hfound : (Scene.heardAlone.loop.outcome? 0).isSome = true := by decide +kernel
  have hbeside : (Scene.cancelledBeside.loop.outcome? 0).isSome = true := by decide +kernel
  obtain ⟨d, hd⟩ := Option.isSome_iff_exists.mp hfound
  obtain ⟨d', hd'⟩ := Option.isSome_iff_exists.mp hbeside
  obtain ⟨-, htogether⟩ := hsame d hd
  obtain ⟨rfl, hsent, hhanded⟩ := htogether d' hd'
  have hcalled : Scene.cancelledBeside.loop.handed 0 = [d'] := by
    have hticket : Scene.cancelledBeside.loop.ticket? 0 = some Start.heardLookup.ticket :=
      (Steps.ticket? hs.steps ho₂.length).trans ho₂.ticket?
    exact ((hr₂.trans hs.steps).inOrder.books 0).deliversOnce.called _ _ hticket hd'
  obtain ⟨hreceived, hreceivedAlone⟩ :=
    hcookies Cookie.keeper_isHonest (by decide +kernel) (by decide +kernel)
  exact ⟨d', hd', hd, hcalled, by decide +kernel, hsent,
    hreceived.trans (hsent.trans hreceivedAlone.symm), by decide +kernel⟩

/-- What a shop answers that sets a cookie each time. -/
def Shop.marking : Shop := fun _ =>
  .response 200 [("set-cookie", "a=1")] (Text.Utf8.encode Json.Value.customerOne.chars)

def Reply.marking : Reply where
  answer := .response 200 [("set-cookie", "a=1")] (Text.Utf8.encode Json.Value.customerOne.chars)

/-- Two questions at such a shop, both of them under way. -/
def Scene.markedTwice : Scene :=
  (⟨((Loop.ofClient (.named "alice") true (.replicate 2 .marking) Cookie.keeper).start .lookup).2,
    .idle⟩ : Scene).play (.act (.start .heardLookup))

/-- The second question by itself. -/
def Scene.markedOnce : Scene where
  loop := ((Loop.ofClient (.named "alice") true [.marking] Cookie.keeper).start .heardLookup).2
  focus := .idle

def Request.cookies? (r : Request) : Option String := Headers.valueOf? r.headers "Cookie"

/-- A question goes out with the cookie that the answer to another one has set. -/
theorem cookies_go_to_other_operations : ∃ s t,
    UnchangedSteps (.initial (.named "alice") true (.replicate 2 .marking) Cookie.keeper)
      .markedTwice ∧
    Scene.markedTwice.Opens 1 .heardLookup ∧ Start.heardLookup.Offered ∧
    SecludedSteps .marking 1 .markedTwice s ∧ SecludedSteps .marking 0 .markedOnce t ∧
    (s.loop.receivedFor 1).map Request.cookies? = [some "a=1"] ∧
    (t.loop.receivedFor 0).map Request.cookies? = [none] := by
  have hop : (Client.named "alice").startOperation (.getCustomer (.text "1")) (some .accept) =
      .ok .heardLookup := by rfl
  have hst : Start.heardLookup.Offered := .operation _ _ _ _ hop
  have hshop (server : Server) :
      Reachable ⟨.ofClient (.named "alice") true server Cookie.keeper, .idle⟩ := .initial _ _ _ _
  have hfirst : Reachable
      ⟨((Loop.ofClient (.named "alice") true (.replicate 2 .marking) Cookie.keeper).start .lookup).2,
        .idle⟩ := (hshop _).act trivial (.start .lookup)
  have ho₁ : Scene.markedOnce.Opens 0 .heardLookup := Scene.Opens.start (hshop _) trivial _
  have ho₂ : Scene.markedTwice.Opens 1 .heardLookup := Scene.Opens.start hfirst trivial _
  have hs : SecludedSteps .marking 1 .markedTwice (Scene.markedTwice.plays (Move.spin 30)) :=
    Scene.secluded_of_checks (hfirst.act trivial (.start .heardLookup)) ho₂ hst
      (fun _ => Move.spin_configures) (by decide +kernel) (by decide +kernel)
  have ht : SecludedSteps .marking 0 .markedOnce (Scene.markedOnce.plays (Move.spin 16)) :=
    Scene.secluded_of_checks ((hshop _).act trivial (.start .heardLookup)) ho₁ hst
      (fun _ => Move.spin_configures) (by decide +kernel) (by decide +kernel)
  have hopen : UnchangedSteps (.initial (.named "alice") true (.replicate 2 .marking) Cookie.keeper)
      .markedTwice := by
    refine .tail (.single ⟨.act _ .idle (.start .lookup) trivial, .act (.start .lookup), id, rfl⟩) ?_
    exact ⟨.act _ .idle (.start .heardLookup) trivial, .act (.start .heardLookup), id, rfl⟩
  exact ⟨_, _, hopen, ho₂, hst, hs, ht, by decide +kernel, by decide +kernel⟩

end Storefront
