import Storefront.Proofs.Chain
import Storefront.Proofs.Redirects

/-! Which requests an operation makes. While its client stays as it is, every run of an operation goes
along its chain: the answer to each request decides whether there is another one, which is made once,
and nothing else is asked. -/
namespace Storefront

namespace Loop

/-- What a task has asked in requests of its own, in order. -/
def made (l : Loop) (task : Nat) : List Query := (l.calls task).map (·.2.query)

/-- What has come of these requests so far. -/
def results (l : Loop) (task : Nat) : List TransportResult := (l.exchanges task).map (·.2)

theorem queries_of_exchange? {l : Loop} {calls : List (Nat × Outgoing)} {h : Exchanges}
    (hc : calls.map l.exchange? = h.map some) :
    calls.map (·.2.query) = h.map (·.1.query) := by
  have hout : (calls.map (·.2)).map Outgoing.query = (h.map (·.1)).map Outgoing.query := by
    rw [calls_of_exchange? hc]
  rwa [List.map_map, List.map_map] at hout

/-- Requests on a chain, of which the last may be without a result. -/
theorem made_prefix {l : Loop} {task : Nat} {cs more : List (Nat × Outgoing)} {h : Exchanges}
    {ch rest : Chain} (hk : l.calls task = cs ++ more) (hc : cs.map l.exchange? = h.map some)
    (hl : ch.Leads h rest) (hm : more.map (·.2.query) <+: rest.queries []) :
    l.made task <+: ch.queries (l.results task) := by
  have hresults : l.results task = h.map (·.2) ++ (more.filterMap l.exchange?).map (·.2) := by
    rw [results, exchanges, hk, List.filterMap_append, filterMap_exchange? hc, List.map_append]
  have hmade : l.made task <+: ch.queries (h.map (·.2)) := by
    rw [made, hk, List.map_append, queries_of_exchange? hc, hl.queries]
    exact (List.prefix_append_right_inj _).mpr hm
  rw [hresults]
  exact hmade.trans (ch.queries_prefix _ _)

/-- Requests on a chain to its end. -/
theorem made_eq {l : Loop} {task : Nat} {h : Exchanges} {ch : Chain}
    (hc : (l.calls task).map l.exchange? = h.map some) (hl : ch.Leads h .done) :
    l.made task = ch.queries (l.results task) ∧ (l.made task).length = (l.results task).length := by
  have hmade : l.made task = h.map (·.1.query) := queries_of_exchange? hc
  rw [hmade, results, exchanges_eq hc, hl.queries]
  simp [Chain.queries]

end Loop

/-- How far a task has come on its chain, with the exchanges on the way. -/
inductive Scene.Walks (s : Scene) (c : Client) (task : Nat) (ch : Chain) : Prop where
  | going (h : Exchanges) (rest : Chain) (f : Flow Delivery)
      (hσ : s.stand? task = some (.going f))
      (hc : (s.loop.calls task).map s.loop.exchange? = h.map some) (hl : ch.Leads h rest)
      (hf : f.Heeds (.chain c) Chain.IsDone rest)
  | asking (h : Exchanges) (cs : List (Nat × Outgoing)) (k : Nat) (o : Outgoing)
      (next : TransportResult → Flow Delivery) (rest : TransportResult → Chain)
      (hσ : s.stand? task = some (.going (.join k fun d => next d.asTransport)))
      (hk : s.loop.calls task = cs ++ [(k, o)]) (hc : cs.map s.loop.exchange? = h.map some)
      (hl : ch.Leads h (.ask o.query rest))
      (hf : ∀ r, Exchange.Answers o r → (next r).Heeds (.chain c) Chain.IsDone (rest r))
  | ended (h : Exchanges) (e : Ending) (hσ : s.stand? task = some (.ended e)) (he : e ≠ .interrupted)
      (hc : (s.loop.calls task).map s.loop.exchange? = h.map some) (hl : ch.Leads h .done)
  /-- A task that was cancelled, before a request or while it waited for one. -/
  | cut (h : Exchanges) (rest : Chain) (cs more : List (Nat × Outgoing))
      (hσ : s.stand? task = some (.going .interrupt) ∨ s.stand? task = some (.ended .interrupted))
      (hk : s.loop.calls task = cs ++ more) (hc : cs.map s.loop.exchange? = h.map some)
      (hl : ch.Leads h rest) (hm : more.map (·.2.query) <+: rest.queries [])

theorem Step.walks {s s' : Scene} (hs : Step s s') (hr : Reachable s) {c : Client}
    (hclient : s.loop.client = c) {task : Nat} {ch : Chain} (hlt : task < s.loop.jobs.length)
    (hw : s.Walks c task ch) : s'.Walks c task ch := by
  have hturn := (hs.turns hlt).turn
  have hquiet {ds : List Deed} (hd : s'.loop.deeds task = s.loop.deeds task ++ ds)
      (hn : ds.filterMap Deed.call? = []) : s'.loop.calls task = s.loop.calls task := by
    rw [Loop.calls_of_deeds hd, hn, List.append_nil]
  cases hw with
  | going h rest f hσ hc hl hf =>
    obtain ⟨ds, σ', hσ', hd, hm, -⟩ := hturn _ hσ
    have hsame (hn : ds.filterMap Deed.call? = []) :
        (s'.loop.calls task).map s'.loop.exchange? = h.map some := by
      rw [hquiet hd hn]
      exact hs.exchanged hr.inOrder hc
    cases hm with
    | rest => exact .going h rest f hσ' (hsame rfl) hl hf
    | log line next => exact .going h rest next hσ' (hsame rfl) hl hf
    | client next => exact .going h rest _ hσ' (hsame rfl) hl (hf _ hclient)
    | session next v => exact .going h rest _ hσ' (hsame rfl) hl (hf v)
    | send place r next p => exact hf.elim
    | hear place r next => exact hf.elim
    | call o next =>
      -- what the flow asks is what the chain asks next
      obtain ⟨⟨more, rfl⟩, hnext⟩ := hf
      refine .asking h (s.loop.calls task) s.loop.jobs.length o next more hσ' ?_
        (hs.exchanged hr.inOrder hc) hl hnext
      exact Loop.calls_of_deeds hd
    | join id next d ho => exact hf.elim
    | gate name stubborn next => exact hf.elim
    | interrupt =>
      exact .cut h rest _ [] (.inl hσ') (List.append_nil _).symm (hsame rfl) hl List.nil_prefix
    | ending _ e he =>
      cases f with
      | finish d =>
        obtain rfl := Option.some.inj he
        obtain rfl : rest = .done := hf
        exact .ended h _ hσ' (by simp) (hsame rfl) hl
      | escape cause =>
        obtain rfl := Option.some.inj he
        obtain rfl : rest = .done := hf
        exact .ended h _ hσ' (by simp) (hsame rfl) hl
      | interrupt => exact hf.elim
      | _ => cases he
  | asking h cs k o next rest hσ hk hc hl hf =>
    obtain ⟨ds, σ', hσ', hd, hm, -⟩ := hturn _ hσ
    have hc' := hs.exchanged hr.inOrder hc
    cases hm with
    | rest => exact .asking h cs k o next rest hσ' ((hquiet hd rfl).trans hk) hc' hl hf
    | join _ _ d ho =>
      -- the task has made this request itself, so what it waits for is an answer to it
      have hcall : .call k o ∈ s.loop.deeds task := Loop.mem_calls.mp (by simp [hk])
      obtain ⟨r, rfl, hanswer⟩ := hr.answers hcall ho
      refine .going (h ++ [(o, r)]) (rest r) _ hσ' ?_ hl.append (hf r hanswer)
      rw [hquiet hd rfl, hk, List.map_append, List.map_append, hc']
      simp [Loop.exchange?, (hs.delivered hr.inOrder ho).1, Delivery.asTransport]
    | interrupt =>
      exact .cut h _ cs _ (.inl hσ') ((hquiet hd rfl).trans hk) hc' hl (List.prefix_refl _)
    | ending _ e he => cases he
  | ended h e hσ he hc hl =>
    obtain ⟨ds, σ', hσ', hd, hm, -⟩ := hturn _ hσ
    cases hm with
    | rest =>
      exact .ended h e hσ' he (by rw [hquiet hd rfl]; exact hs.exchanged hr.inOrder hc) hl
  | cut h rest cs more hσ hk hc hl hm' =>
    have hc' := hs.exchanged hr.inOrder hc
    rcases hσ with hσ | hσ
    · obtain ⟨ds, σ', hσ', hd, hm, -⟩ := hturn _ hσ
      cases hm with
      | rest => exact .cut h rest cs more (.inl hσ') ((hquiet hd rfl).trans hk) hc' hl hm'
      | interrupt => exact .cut h rest cs more (.inl hσ') ((hquiet hd rfl).trans hk) hc' hl hm'
      | ending _ e he =>
        obtain rfl := Option.some.inj he
        exact .cut h rest cs more (.inr hσ') ((hquiet hd rfl).trans hk) hc' hl hm'
    · obtain ⟨ds, σ', hσ', hd, hm, -⟩ := hturn _ hσ
      cases hm with
      | rest => exact .cut h rest cs more (.inr hσ') ((hquiet hd rfl).trans hk) hc' hl hm'

/-- A run in which the client stays as it is leads a task along its chain. -/
theorem StillSteps.walks {s s' : Scene} {c : Client} (hs : StillSteps c s s') (hr : Reachable s)
    (hclient : s.loop.client = c) {task : Nat} {ch : Chain} (hlt : task < s.loop.jobs.length)
    (hw : s.Walks c task ch) : s'.Walks c task ch := by
  have hrun : Reachable s' ∧ s'.loop.client = c ∧ task < s'.loop.jobs.length ∧
      s'.Walks c task ch := by
    induction hs with
    | refl => exact ⟨hr, hclient, hlt, hw⟩
    | tail _ hs ih =>
      obtain ⟨hr', hclient', hlt', hw'⟩ := ih
      exact ⟨hr'.trans (.single hs.1), hs.2, (hs.1.turns hlt').length, hs.1.walks hr' hclient' hlt' hw'⟩
  exact hrun.2.2.2

namespace Scene

variable {s : Scene} {c : Client} {task : Nat} {ch : Chain}

theorem Opens.walks {st : Start} (h : s.Opens task st)
    (hf : st.flow.Heeds (.chain c) Chain.IsDone ch) : s.Walks c task ch := by
  refine .going [] ch st.flow h.stand? ?_ rfl hf
  unfold Loop.calls
  rw [h.deeds]
  rfl

theorem Walks.made (h : s.Walks c task ch) :
    s.loop.made task <+: ch.queries (s.loop.results task) := by
  cases h with
  | going h rest f hσ hc hl hf =>
    exact Loop.made_prefix (List.append_nil _).symm hc hl List.nil_prefix
  | asking h cs k o next rest hσ hk hc hl hf =>
    exact Loop.made_prefix hk hc hl (List.prefix_refl _)
  | ended h e hσ he hc hl => exact Loop.made_prefix (List.append_nil _).symm hc hl List.nil_prefix
  | cut h rest cs more hσ hk hc hl hm => exact Loop.made_prefix hk hc hl hm

/-- A task that was not cancelled has come to the end of its chain when it has ended. -/
theorem Walks.complete (h : s.Walks c task ch) {e : Ending} (hσ : s.stand? task = some (.ended e))
    (hn : s.loop.isCancelled task = false) :
    s.loop.made task = ch.queries (s.loop.results task) ∧
      (s.loop.made task).length = (s.loop.results task).length := by
  cases h with
  | going h rest f hσ' => exact absurd (hσ.symm.trans hσ') (by simp)
  | asking h cs k o next rest hσ' => exact absurd (hσ.symm.trans hσ') (by simp)
  | ended h e' hσ' he hc hl => exact Loop.made_eq hc hl
  | cut h rest cs more hσ' =>
    rcases hσ' with hσ' | hσ'
    · exact absurd (hσ.symm.trans hσ') (by simp)
    · exact absurd (isCancelled_of_stand? hσ') (by simp [hn])

end Scene

/-- What tells one request of an operation from another. -/
def Query.target (q : Query) : Method × String := (q.method, q.url)

/-- The question for the owner of a token is at most one request. -/
theorem Chain.owner_targets (c : Client) (r : TransportResult) (rs : List TransportResult) :
    ∃ urls : List String, ((owner c r).queries rs).map Query.target = urls.map (.get, ·) ∧
      urls.length ≤ 1 := by
  unfold owner
  split
  · rename_i token id _
    refine ⟨[(c.url? (.customer (.whole id))).getD ""], ?_, Nat.le_refl 1⟩
    cases rs <;> rfl
  · exact ⟨[], rfl, Nat.zero_le 1⟩

theorem Chain.login_targets (c : Client) (url : String) (document : Json.Value)
    (rs : List TransportResult) :
    ∃ urls : List String, ((login c url document).queries rs).map Query.target =
      (.post, url) :: urls.map (.get, ·) ∧ urls.length ≤ 1 := by
  cases rs with
  | nil => exact ⟨[], rfl, Nat.zero_le 1⟩
  | cons r rs =>
    obtain ⟨urls, h, hlen⟩ := owner_targets c r rs
    exact ⟨urls, congrArg _ h, hlen⟩

theorem Chain.afterWrite_targets (c : Client) (credentials : Credentials) (change : Account.Change)
    (r : TransportResult) (rs : List TransportResult) :
    ((afterWrite c credentials change r).queries rs).map Query.target = [] ∨
      ∃ urls : List String, ((afterWrite c credentials change r).queries rs).map Query.target =
        (.post, (c.url? .login).getD "") :: urls.map (.get, ·) ∧ urls.length ≤ 1 := by
  unfold afterWrite
  split
  · exact .inl rfl
  · dsimp only
    split
    · exact .inl rfl
    · exact .inr (login_targets c _ _ rs)

/-- A request of another method, and then at most one question. -/
theorem nodup_gets {m : Method} (hm : m ≠ .get) (url : String) {urls : List String}
    (h : urls.length ≤ 1) : ((m, url) :: urls.map fun u => (Method.get, u)).Nodup := by
  match urls with
  | [] => exact List.nodup_singleton _
  | [u] => simp [hm]
  | _ :: _ :: _ => simp at h

/-- What the address of a resource says behind the shop. -/
def Endpoint.tail (e : Endpoint) : List Char :=
  ['/'].intercalate ((Argument.text "api" :: e.segments).map fun s =>
    Text.Percent.encodeSegment s.toText.toList) ++
  if (e.query.filterMap pair?).isEmpty then []
  else '?' :: ['&'].intercalate (e.query.filterMap pair?)

theorem Client.HasShop.url?_eq {c : Client} (h : c.HasShop) :
    ∃ shop : List Char, ∀ e, c.url? e = some (String.ofList (shop ++ e.tail)) := by
  obtain ⟨domain, hd, he⟩ := h
  refine ⟨c.scheme.toText.toList ++ "://".toList ++ Endpoint.host domain ++ ['/'], fun e => ?_⟩
  unfold Client.url? Endpoint.url? Endpoint.address? Endpoint.tail
  rw [hd, List.append_nil]
  simp [he]

/-- The accounts and the logins of a shop have different addresses. -/
theorem Client.HasShop.customers_ne_login {c : Client} (h : c.HasShop) :
    (c.url? .customers).getD "" ≠ (c.url? .login).getD "" := by
  obtain ⟨shop, hshop⟩ := h.url?_eq
  rw [hshop, hshop]
  intro heq
  have htail := List.append_cancel_left (String.ofList_injective heq)
  exact absurd htail (by decide)

theorem Chain.nodup_write {m : Method} (hm : m ≠ .get) {url url' : String}
    (hne : (m, url) ≠ (.post, url')) {targets : List (Method × String)} (h : targets = [] ∨
      ∃ urls : List String, targets = (.post, url') :: urls.map (.get, ·) ∧ urls.length ≤ 1) :
    ((m, url) :: targets).Nodup := by
  rcases h with rfl | ⟨urls, rfl, hlen⟩
  · exact List.nodup_singleton _
  · refine List.nodup_cons.mpr ⟨?_, nodup_gets (by decide) url' hlen⟩
    have hnot := (List.nodup_cons.mp (nodup_gets hm url hlen)).1
    simpa [hnot] using hne

/-- An operation that logs nobody in makes one request, whatever comes of it. -/
theorem Operation.queries_of_kind {c : Client} {op : Operation} (h : op.kind ≠ .login)
    (rs : List TransportResult) : (op.chain c).queries rs = [op.query c] := by
  cases rs with
  | nil => rfl
  | cons r rs =>
    cases op with
    | createCustomer credentials => exact absurd rfl h
    | login credentials => exact absurd rfl h
    | activate credentials id token => exact absurd rfl h
    | resetPassword credentials id token => exact absurd rfl h
    | _ => rfl

/-- No request is made twice on the chain of an operation. -/
theorem Operation.targets_nodup {c : Client} (hs : c.HasShop) (op : Operation)
    (rs : List TransportResult) : (((op.chain c).queries rs).map Query.target).Nodup := by
  cases rs with
  | nil => exact List.nodup_singleton _
  | cons r rs =>
    cases op with
    | login credentials =>
      obtain ⟨urls, h, hlen⟩ := Chain.owner_targets c r rs
      refine List.nodup_cons.mpr (h ▸ List.nodup_cons.mp ?_)
      exact nodup_gets (m := .post) (by decide) _ hlen
    | createCustomer credentials =>
      refine Chain.nodup_write (m := .post) (by decide) (fun he => ?_)
        (Chain.afterWrite_targets c credentials .created r rs)
      exact hs.customers_ne_login (Prod.mk.inj he).2
    | activate credentials id token =>
      exact Chain.nodup_write (m := .put) (by decide) (fun he => by cases (Prod.mk.inj he).1)
        (Chain.afterWrite_targets c credentials .activated r rs)
    | resetPassword credentials id token =>
      exact Chain.nodup_write (m := .put) (by decide) (fun he => by cases (Prod.mk.inj he).1)
        (Chain.afterWrite_targets c credentials .reset r rs)
    | _ => exact List.nodup_singleton _

/-- Which requests an operation makes, whatever they are answered, while its client stays as it is.
It makes those of its chain in order, each of them once, and if it is not cancelled it makes all of
them; of an operation that logs nobody in this is one request. It sends nothing but these, and where
redirects of these lead, each with the tokens that the chain has for it. -/
theorem operation_follows_chain {s₀ s : Scene} {c : Client} {op : Operation}
    {callback : Option Callback} {st : Start} {i : Nat} (hr : Reachable s₀) (ho : s₀.Opens i st)
    (hst : c.startOperation op callback = .ok st) (hc : s₀.loop.client = c)
    (hs : StillSteps c s₀ s) :
    (∀ e, ∃ url, c.url? e = some url) ∧
    s.loop.made i <+: (op.chain c).queries (s.loop.results i) ∧
    (∀ e, s.stand? i = some (.ended e) → s.loop.isCancelled i = false →
      s.loop.made i = (op.chain c).queries (s.loop.results i) ∧
        (s.loop.made i).length = (s.loop.results i).length) ∧
    (op.kind ≠ .login → (op.chain c).queries (s.loop.results i) = [op.query c]) ∧
    ((s.loop.made i).map Query.target).Nodup ∧
    s.loop.requests i = [] ∧
    ∀ k o, (k, o) ∈ s.loop.calls i → Exchange.Trail o (s.loop.requests k) ∧
      ∀ r ∈ s.loop.requests k, r.tokens = o.tokens := by
  obtain ⟨url, hurl, hflow, -⟩ := Operation.flow_ok (Client.startOperation_ok hst)
  have hshop : c.HasShop := Client.hasShop_of_url? hurl
  have hwalks : s.Walks c i (op.chain c) :=
    hs.walks hr hc ho.length (ho.walks (hflow ▸ Operation.body_chain hurl))
  have hreach : Reachable s := hr.trans hs.steps
  refine ⟨hshop.url?, hwalks.made, fun e hσ => hwalks.complete hσ,
    fun hk => Operation.queries_of_kind hk _, ?_, ?_, ?_⟩
  · exact (op.targets_nodup hshop _).sublist (hwalks.made.map Query.target).sublist
  · obtain ⟨_, -, hobeys⟩ := Client.startOperation_obeys hst
    have hkeeps := Steps.keeps hs.steps (ho.keeps hobeys)
    refine List.filterMap_eq_nil_iff.mpr fun d hd => ?_
    cases d with
    | call k o => rfl
    | request r => exact (hkeeps.deeds _ hd).elim
  · intro k o hcall
    have htrail := hreach.trail (Loop.mem_calls.mp hcall)
    exact ⟨htrail, htrail.tokens⟩

def Credentials.ada : Credentials where
  items := [⟨"email", "ada@example.com"⟩, ⟨"password", "secret"⟩]

/-- A loop whose client is given to alice, and whose shop logs ada in. -/
def Loop.loginShop : Loop :=
  .ofClient (.named "alice") true
    [.ofDocument 200 (.obj [("customer_access_token",
        .obj [("access_token", .str "minted"), ("customer_id", .int 7)])]),
      .ofDocument 200 (.obj [("customer", .obj [("id", .int 7)])])]

def Start.adaLogin : Start where
  flow := Operation.loginResult <$>
    (Account.login "https://shop.example/api/customers/customer_token" .ada).run
  ticket := ⟨"login customer", .login, none⟩

/-- The end of the login there. -/
def Scene.adaLogin : Scene := ⟨(Loop.loginShop.start .adaLogin).2.settle, .idle⟩

theorem operation_follows_chain_of_login :
    Scene.adaLogin.loop.made 0 = (Operation.chain Loop.loginShop.client (.login .ada)).queries
      (Scene.adaLogin.loop.results 0) ∧
    (Scene.adaLogin.loop.made 0).map (fun q => (q.method, q.tokens)) =
      [(.post, ["alice"]), (.get, ["minted"])] := by
  have hop : Loop.loginShop.client.startOperation (.login .ada) none = .ok .adaLogin := by rfl
  have hshop : Reachable ⟨.loginShop, .idle⟩ := .initial _ _ _
  have hr : Reachable ⟨(Loop.loginShop.start .adaLogin).2, .idle⟩ :=
    hshop.act trivial (.start .adaLogin)
  have hsteps : StillSteps Loop.loginShop.client ⟨(Loop.loginShop.start .adaLogin).2, .idle⟩
      .adaLogin := Loop.settle_steps (Loop.loginShop.start .adaLogin).2
  have hin : Scene.adaLogin.InOrder := (hr.trans hsteps.steps).inOrder
  have hdone : (Scene.adaLogin.loop.outcome? 0).isSome = true := by decide +kernel
  have hsome : Scene.adaLogin.loop.outcome? 0 ≠ none := Option.isSome_iff_ne_none.mp hdone
  obtain ⟨t, e, hd, -⟩ := (hin.books 0).delivered (.inr hsome)
  obtain ⟨-, -, hall, -⟩ := operation_follows_chain hr (Scene.Opens.start hshop trivial .adaLogin)
    hop rfl hsteps
  exact ⟨(hall e (hin.stand?_of_due? hd) (by decide +kernel)).1, by decide +kernel⟩

end Storefront
