import Storefront.Proofs.Accepted
import Storefront.Proofs.Runs
import Storefront.Proofs.Transport

/-! In whose name requests are made. A request that a caller starts carries the token that the client
has at the call. An operation looks at the client later, at its first step, and its request carries
the token that the client has by then. -/
namespace Storefront

def Deed.request? : Deed → Option Request
  | .request r _ => some r
  | .call _ _ => none

/-- The requests that were sent by a deed: one by the task, or those of a request of its own. -/
def Deed.sent (l : Loop) : Deed → List Request
  | .request r _ => [r]
  | .call k _ => (l.deeds k).filterMap Deed.request?

/-- The requests that were sent for a task, as they were put together. -/
def Loop.sentFor (l : Loop) (task : Nat) : List Request := (l.deeds task).flatMap (Deed.sent l)

theorem Deed.request?_eq {d : Deed} {r : Request} :
    d.request? = some r ↔ ∃ cookies, d = .request r cookies := by
  cases d <;> simp [request?]

theorem Loop.mem_sentFor {l : Loop} {task : Nat} {r : Request} : r ∈ l.sentFor task ↔
    (∃ cookies, .request r cookies ∈ l.deeds task) ∨
      ∃ k o cookies, .call k o ∈ l.deeds task ∧ .request r cookies ∈ l.deeds k := by
  unfold sentFor
  rw [List.mem_flatMap]
  constructor
  · rintro ⟨d, hd, hr⟩
    cases d with
    | request r' cookies => exact .inl ⟨cookies, List.mem_singleton.mp hr ▸ hd⟩
    | call k o =>
      obtain ⟨d', hd', hr'⟩ := List.mem_filterMap.mp hr
      obtain ⟨cookies, rfl⟩ := Deed.request?_eq.mp hr'
      exact .inr ⟨k, o, cookies, hd, hd'⟩
  · rintro (⟨cookies, hd⟩ | ⟨k, o, cookies, hd, hr⟩)
    · exact ⟨_, hd, List.mem_singleton.mpr rfl⟩
    · exact ⟨_, hd, List.mem_filterMap.mpr ⟨_, hr, rfl⟩⟩

/-- Sends nothing, and makes requests in the name of one client only. -/
def inName (α : Type) (c : Client) : Contract α where
  sends _ := False
  calls o := o.token? = c.token?
  ends _ := True

def idleness : Contract Delivery where
  sends _ := False
  calls _ := False
  ends _ := True

/-- A flow that begins with a look at the client and makes its requests in the name of what it
found. -/
def Flow.LooksFirst {α : Type} (F : Flow α) : Prop :=
  ∃ next, F = .client next ∧ ∀ c, (next c).Obeys (inName α c)

theorem Flow.LooksFirst.bind {α β : Type} {f : Flow α} {g : α → Flow β} (hf : f.LooksFirst)
    (hg : ∀ a c, (g a).Obeys (inName β c)) : (f.bind g).LooksFirst := by
  obtain ⟨next, rfl, hnext⟩ := hf
  refine ⟨fun c => (next c).bind g, rfl, ?_⟩
  intro c
  exact (hnext c).bind (fun _ h => h) (fun _ h => h) fun a _ => hg a c

namespace Account

theorem request_looksFirst {call : Call} (h : call.headers = []) :
    (request call).LooksFirst := by
  refine ⟨_, rfl, ?_⟩
  intro c
  rw [Flow.bind]
  split
  · rename_i o hp
    exact ⟨Client.prepare_token? h hp, fun _ => trivial⟩
  · trivial

theorem answered_looksFirst {call : Call} (h : call.headers = []) :
    (answered call).run.LooksFirst := by
  have hlift : Flow.LooksFirst ((request call).bind fun r => .finish (Except.ok (ε := Failure) r)) :=
    (request_looksFirst h).bind fun _ _ => trivial
  refine hlift.bind fun y c => ?_
  cases y with
  | error f => trivial
  | ok r =>
    dsimp only [ExceptT.bindCont]
    split
    · trivial
    · trivial

theorem reading_looksFirst {α β : Type} {call : Call} (h : call.headers = [])
    {k : TransportResult → Attempt α} (hk : ∀ r c, (k r).run.Obeys (inName _ c))
    (g : Except Failure α → β) : Flow.LooksFirst (g <$> (answered call >>= k).run) := by
  have hread : Flow.LooksFirst (answered call >>= k).run := by
    refine (answered_looksFirst h).bind fun y c => ?_
    cases y with
    | error f => trivial
    | ok r => exact hk r c
  exact hread.bind fun _ _ => trivial

theorem ofExcept_obeys {α : Type} (x : Except Failure α) (c : Client) :
    (ofExcept x : Attempt α).run.Obeys (inName _ c) := by
  cases x with
  | error f => trivial
  | ok a => trivial

end Account

/-- The operations that ask for what belongs to the customer of the client. -/
def Operation.IsPersonal : Operation → Prop
  | .getCustomer _ => True
  | .renewToken _ => True
  | .getOrders _ => True
  | _ => False

theorem Operation.flow_looksFirst {c : Client} {op : Operation} {F : Flow Delivery}
    (hop : op.IsPersonal) (hF : op.flow c = .ok F) : F.LooksFirst := by
  obtain ⟨url, -, rfl, -⟩ := flow_ok hF
  cases op with
  | getCustomer id =>
    exact Account.reading_looksFirst rfl (fun r c => Account.ofExcept_obeys (Account.customerIn r) c) _
  | renewToken id =>
    refine Account.reading_looksFirst rfl (fun r c => ?_) _
    cases Account.tokenIn r with
    | error f => trivial
    | ok token => trivial
  | getOrders id =>
    exact Account.reading_looksFirst rfl (fun r c => Account.ofExcept_obeys (Account.ordersIn r) c) _
  | _ => exact hop.elim

/-- The only step of a task that looks at the client. -/
theorem Step.of_look {s s' : Scene} (hs : Step s s') {l : Loop} {i : Nat}
    {next : Client → Flow Delivery} (h : s = ⟨l, .running i (.client next)⟩) :
    s' = ⟨l, .running i (next l.client)⟩ := by
  cases hs with
  | client l task next =>
    cases h
    rfl
  | park l task w hw => cases w <;> cases h
  | ending l task f e he =>
    cases h
    cases he
  | act l f a hf =>
    cases h
    exact hf.elim
  | _ => cases h

/-- A task that is about to look at the client goes on waiting, is cancelled, or looks at it. -/
theorem Step.looks {s s' : Scene} (hs : Step s s') {i : Nat} (hi : i < s.loop.jobs.length)
    {next : Client → Flow Delivery} (h : s.stand? i = some (.going (.client next))) :
    s'.stand? i = some (.going (.client next)) ∨ s'.stand? i = some (.going .interrupt) ∨
      s.focus = .running i (.client next) ∧ s' = ⟨s.loop, .running i (next s.loop.client)⟩ := by
  by_cases hb : s.focus.task? = some i
  · obtain ⟨l, f⟩ := s
    cases f with
    | idle => cases hb
    | inside task => cases hb
    | running task flow =>
      obtain rfl := Option.some.inj hb
      have hflow : flow = .client next :=
        Stand.going.inj (Option.some.inj ((if_pos rfl).symm.trans h))
      exact .inr (.inr ⟨by rw [hflow], hs.of_look (by rw [hflow])⟩)
  · rcases (hs.turns hi).held hb with hstill | ⟨j, f, hj, hf, hgoing⟩
    · exact .inl (hstill.trans h)
    · obtain ⟨j', hj', hstand⟩ := Scene.job_of_stand? h hb
      obtain rfl := Option.some.inj (hj.symm.trans hj')
      cases hp : j.phase with
      | fresh flow =>
        rw [hp] at hstand
        obtain rfl := Stand.going.inj hstand
        simp only [Job.next?, hp] at hf
        rw [← Option.some.inj hf] at hgoing
        split at hgoing
        · exact .inr (.inl hgoing)
        · exact .inl hgoing
      | woken w b =>
        rw [hp] at hstand
        cases w <;> cases hstand
      | parked w => simp [Job.next?, hp] at hf
      | ended e => simp [Job.next?, hp] at hf

/-- What has become of a task that begins with a look at the client: it waits for its first step, it
was cancelled before that, or it does everything in the name of what it found. -/
inductive Scene.Binds (s s₀ : Scene) (i : Nat) (F : Flow Delivery) : Prop where
  | waiting (hi : i < s.loop.jobs.length) (h : s.stand? i = some (.going F))
      (hd : s.loop.deeds i = [])
  | cancelled (h : s.Keeps i idleness)
  | bound (l : Loop) (h₀ : Steps s₀ ⟨l, .running i F⟩) (hs : Steps ⟨l, .running i F⟩ s)
      (h : s.Keeps i (inName _ l.client))

theorem Step.binds {s₀ s s' : Scene} (hr : Steps s₀ s) (hs : Step s s') {i : Nat}
    {F : Flow Delivery} (hF : F.LooksFirst) (h : s.Binds s₀ i F) : s'.Binds s₀ i F := by
  cases h with
  | waiting hi hstand hd =>
    obtain ⟨next, rfl, hnext⟩ := hF
    have hturns := hs.turns hi
    obtain ⟨ds, σ, hσ, hds, hm, -⟩ := hturns.turn _ hstand
    -- whatever turn it is, a task that looks at the client asks nothing of others by that
    have hnone : ds = [] := by cases hm <;> rfl
    have hquiet : s'.loop.deeds i = [] := by rw [hds, hd, hnone, List.append_nil]
    have hkeeps {K : Contract Delivery} {σ' : Stand} (hσ' : s'.stand? i = some σ')
        (ho : σ'.Obeys K) : s'.Keeps i K := by
      refine ⟨?_, ?_, hturns.length⟩
      · intro τ hτ
        rwa [← Option.some.inj (hσ'.symm.trans hτ)]
      · rw [hquiet]
        simp
    rcases hs.looks hi hstand with hsame | hcut | ⟨hfocus, rfl⟩
    · exact .waiting hturns.length hsame hquiet
    · exact .cancelled (hkeeps hcut trivial)
    · have hscene : s = ⟨s.loop, .running i (.client next)⟩ := by rw [← hfocus]
      refine .bound s.loop (hscene ▸ hr) (.single (.client s.loop i next)) ?_
      exact hkeeps (if_pos rfl) (hnext s.loop.client)
  | cancelled h => exact .cancelled (hs.keeps h)
  | bound l h₀ hs' h => exact .bound l h₀ (hs'.tail hs) (hs.keeps h)

/-- A task that begins with a look at the client is bound to what it finds there. -/
theorem Steps.binds {s₀ s : Scene} (hs : Steps s₀ s) {i : Nat} {F : Flow Delivery}
    (hF : F.LooksFirst) (h : s₀.Binds s₀ i F) : s.Binds s₀ i F := by
  induction hs with
  | refl => exact h
  | tail hr hs ih => exact hs.binds hr hF ih

/-- What was sent for a task that makes requests in one name only was sent in that name. -/
theorem Scene.Keeps.token? {s : Scene} (hr : Reachable s) {i : Nat} {c : Client}
    (h : s.Keeps i (inName _ c)) {r : Request} (hsent : r ∈ s.loop.sentFor i) :
    r.token? = c.token? := by
  rcases Loop.mem_sentFor.mp hsent with ⟨cookies, hsent⟩ | ⟨k, o, cookies, hcall, hsent⟩
  · exact (h.deeds _ hsent).elim
  · have ho : o.token? = c.token? := h.deeds _ hcall
    have hchild := (hr.fosters.child i k o hcall).1
    exact Eq.trans (hchild.deeds _ hsent) ho

/-- In whose name a request comes, in every run. A direct call without headers of its own is made in
the name of the token that the client has at the call. A personal operation looks at the client at
its first step, and what is sent for it carries the token that the client has at that moment: this
is the token of the call exactly when the token is then the same. -/
theorem request_carries_token {l : Loop} {f : Focus} (hr : Reachable ⟨l, f⟩) (hf : f.IsFree)
    {callback : Option Callback} {st : Start} {s : Scene} (hs : Steps ⟨(l.start st).2, f⟩ s)
    {r : Request} (hsent : r ∈ s.loop.sentFor l.jobs.length) :
    (∀ call : Call, call.headers = [] → l.client.startCall call callback = .ok st →
      r.token? = l.client.token?) ∧
    ∀ op : Operation, op.IsPersonal → l.client.startOperation op callback = .ok st →
      ∃ l₁, Steps ⟨(l.start st).2, f⟩ ⟨l₁, .running l.jobs.length st.flow⟩ ∧
        Steps ⟨l₁, .running l.jobs.length st.flow⟩ s ∧ r.token? = l₁.client.token? ∧
        (r.token? = l.client.token? ↔ l₁.client.token? = l.client.token?) := by
  have hstart : Reachable ⟨(l.start st).2, f⟩ := hr.act hf (.start st)
  have hreach : Reachable s := hstart.trans hs
  have hlt : l.jobs.length < (l.start st).2.jobs.length := by simp [Loop.start]
  have hstand : (⟨(l.start st).2, f⟩ : Scene).stand? l.jobs.length = some (.going st.flow) :=
    (Scene.stand?_of_free hf _ _).trans (l.spawn_stand? _ _)
  have hdeeds : (l.start st).2.deeds l.jobs.length = [] := hr.fosters.unborn _ (Nat.le_refl _)
  constructor
  · intro call hheaders hst
    obtain ⟨o, hp, hflow⟩ := Client.startCall_ok hst
    have hkeeps : (⟨(l.start st).2, f⟩ : Scene).Keeps l.jobs.length (Exchange.taskContract o) := by
      refine ⟨?_, ?_, hlt⟩
      · intro σ hσ
        rw [← Option.some.inj (hstand.symm.trans hσ), hflow]
        exact Exchange.task_obeys o
      · rw [hdeeds]
        simp
    have hend := Steps.keeps hs hkeeps
    have ho : o.token? = l.client.token? := Client.prepare_token? hheaders hp
    rcases Loop.mem_sentFor.mp hsent with ⟨cookies, hsent⟩ | ⟨k, o', cookies, hcall, -⟩
    · exact Eq.trans (hend.deeds _ hsent) ho
    · exact (hend.deeds _ hcall).elim
  · intro op hop hst
    have hlooks := Operation.flow_looksFirst hop (Client.startOperation_ok hst)
    have hbinds := hs.binds hlooks (.waiting hlt hstand hdeeds)
    cases hbinds with
    | waiting _ _ hd =>
      unfold Loop.sentFor at hsent
      rw [hd] at hsent
      cases hsent
    | cancelled h =>
      rcases Loop.mem_sentFor.mp hsent with ⟨cookies, hsent⟩ | ⟨k, o, cookies, hcall, -⟩
      · exact (h.deeds _ hsent).elim
      · exact (h.deeds _ hcall).elim
    | bound l₁ h₀ hs₁ h =>
      have htoken : r.token? = l₁.client.token? := h.token? hreach hsent
      exact ⟨l₁, h₀, hs₁, htoken, by rw [htoken]⟩

def Client.named (token : String) : Client where
  shopDomain := some "shop.example"
  userAgent := .text "tests"
  customerToken := .text token

def Loop.ofAlice : Loop := .ofClient (.named "alice") true []

def Start.lookup : Start where
  flow := Operation.customerResult <$>
    (Account.fetch "https://shop.example/api/customers/1" none).run
  ticket := ⟨"get customer", .customer, none⟩

/-- The end of the question when the client is given to bob right after the call. -/
def Scene.handedOver : Scene :=
  ⟨((Loop.ofAlice.start .lookup).2.act (.assign (.named "bob"))).settle, .idle⟩

private theorem handedOver_sent : ∃ r ∈ Scene.handedOver.loop.sentFor Loop.ofAlice.jobs.length,
    r.token? = some "bob" := by
  have hsent : (Scene.handedOver.loop.sentFor Loop.ofAlice.jobs.length).map (·.token?) =
      [some "bob"] := by decide +kernel
  have hmem : some "bob" ∈
      (Scene.handedOver.loop.sentFor Loop.ofAlice.jobs.length).map (·.token?) := by
    rw [hsent]
    exact List.mem_singleton.mpr rfl
  obtain ⟨r, hr, htoken⟩ := List.mem_map.mp hmem
  exact ⟨r, hr, htoken⟩

private theorem handedOver_steps : Steps ⟨(Loop.ofAlice.start .lookup).2, .idle⟩ .handedOver := by
  have hassign : Step ⟨(Loop.ofAlice.start .lookup).2, .idle⟩
      ⟨(Loop.ofAlice.start .lookup).2.act (.assign (.named "bob")), .idle⟩ :=
    .act _ .idle (.assign (.named "bob")) trivial
  have hsettle := (Loop.settle_steps
    ((Loop.ofAlice.start .lookup).2.act (.assign (.named "bob")))).steps
  exact Relation.ReflTransGen.head hassign hsettle

private theorem lookup_starts : Loop.ofAlice.client.startOperation (.getCustomer (.text "1")) none =
    .ok .lookup := by rfl

theorem request_carries_token_of_bob :
    ∃ l₁, Steps ⟨(Loop.ofAlice.start .lookup).2, .idle⟩
        ⟨l₁, .running Loop.ofAlice.jobs.length Start.lookup.flow⟩ ∧
      l₁.client.token? = some "bob" := by
  obtain ⟨r, hr, htoken⟩ := handedOver_sent
  obtain ⟨-, hop⟩ := request_carries_token (l := .ofAlice) (f := .idle) (Reachable.initial _ _ _)
    trivial handedOver_steps hr
  obtain ⟨l₁, h₁, -, hsame, -⟩ := hop (.getCustomer (.text "1")) trivial lookup_starts
  exact ⟨l₁, h₁, hsame.symm.trans htoken⟩

/-- The request of an operation does not carry the token of the call. -/
theorem token_of_call_is_not_sent : ∃ l op st s r, Reachable ⟨l, .idle⟩ ∧ Operation.IsPersonal op ∧
    l.client.startOperation op none = .ok st ∧ Steps ⟨(l.start st).2, .idle⟩ s ∧
    r ∈ s.loop.sentFor l.jobs.length ∧ l.client.token? = some "alice" ∧ r.token? = some "bob" := by
  obtain ⟨r, hr, htoken⟩ := handedOver_sent
  exact ⟨.ofAlice, .getCustomer (.text "1"), .lookup, .handedOver, r, Reachable.initial _ _ _,
    trivial, lookup_starts, handedOver_steps, hr, by decide +kernel, htoken⟩

end Storefront
