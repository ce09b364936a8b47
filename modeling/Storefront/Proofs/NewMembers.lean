import Storefront.Proofs.Echoes
import Storefront.Proofs.Requests
import Storefront.Proofs.Tolerance
import Storefront.Proofs.Written

/-! Shops that begin to say more. Members that the client does not know do not change what it makes of a
description, and wherever they come in the answers to an operation that has succeeded, it succeeds with
the same requests and the same data. -/
namespace Storefront

open Json Account

/-- Which names mean something in the answers to an operation, by the number of the request. -/
def Operation.outlines? : Operation → Option (Nat → Outline)
  | .getCustomer _ => some fun _ => bodyOutline "customer" customerOutline
  | .login _ => some fun n => if n = 0 then loginOutline else bodyOutline "customer" customerOutline
  | .renewToken _ => some fun _ => bodyOutline "customer_access_token" tokenOutline
  | .getOrders _ => some fun _ => bodyOutline "orders" (.list orderOutline)
  | _ => none

/-- Two results without a failure have the same data, up to members that nobody knows. -/
inductive Delivery.Agrees : Delivery → Delivery → Prop
  | customer (c c' : Customer) (h : c.Agrees c') :
    Agrees (.customer ⟨some c, none⟩) (.customer ⟨some c', none⟩)
  | login (c c' : Customer) (token : String) (h : c.Agrees c') :
    Agrees (.login ⟨some c, some token, none⟩) (.login ⟨some c', some token, none⟩)
  | token (token : String) : Agrees (.token ⟨some token, none⟩) (.token ⟨some token, none⟩)
  | orders (os os' : List Order) (h : List.Forall₂ Order.Agrees os os') :
    Agrees (.orders ⟨some os, none⟩) (.orders ⟨some os', none⟩)

/-- Whatever a flow delivers without a failure, it delivers with the same requests where the documents
that it is answered have grown. -/
def Flow.Tolerates (F : Flow Delivery) (c : Client) (g : Nat → Outline) : Prop :=
  ∀ ⦃h h' d x'⦄, F.Yields c h (.ok d) → F.Yields c h' x' → Grown g h h' → d.failure? = none →
    h'.map (·.1) = h.map (·.1) ∧ ∃ d', x' = .ok d' ∧ d.Agrees d'

/-- An attempt tolerates what has grown if the result that is made of it does. -/
theorem Account.Attempt.Tolerates.map {α : Type} {c : Client} {g : Nat → Outline} {R : α → α → Prop}
    {m : Attempt α} {result : Except Failure α → Delivery} (hm : m.Handles c)
    (h : Attempt.Tolerates c g R m m) (hfailed : ∀ f, (result (.error f)).failure? = some f)
    (hresult : ∀ a a', R a a' → (result (.ok a)).Agrees (result (.ok a'))) :
    (result <$> m.run).Tolerates c g := by
  intro h₁ h₁' d x' hd hx' hgrown hsuccess
  obtain ⟨y, hy, hgives⟩ := hm.map_yields result hd
  obtain ⟨y', rfl, hgives'⟩ := hm.map_yields result hx'
  obtain rfl := Except.ok.inj hy
  cases y with
  | error f => cases (hfailed f).symm.trans hsuccess
  | ok a =>
    obtain ⟨hsame, a', rfl, hR⟩ := h hgives hgives' hgrown
    exact ⟨hsame, _, rfl, hresult a a' hR⟩

theorem Operation.body_tolerates {c : Client} {op : Operation} {g : Nat → Outline}
    (hop : op.outlines? = some g) (hs : c.HasShop) (url : String) : (op.body url).Tolerates c g := by
  cases op with
  | getCustomer id =>
    obtain rfl := Option.some.inj hop
    exact Attempt.Tolerates.map (fetch_handles url none) (fetch_tolerates (bodyOutline_inside _ _))
      (fun f => rfl)
      fun c c' h => .customer c c' h
  | login credentials =>
    obtain rfl := Option.some.inj hop
    refine Attempt.Tolerates.map (login_handles hs url credentials) (login_tolerates hs rfl (bodyOutline_inside _ _))
      (fun f => rfl) ?_
    rintro ⟨customer, token⟩ ⟨customer', token'⟩ ⟨hcustomer, htoken⟩
    obtain rfl : token' = token := htoken
    exact .login customer customer' token' hcustomer
  | renewToken id =>
    obtain rfl := Option.some.inj hop
    have hhandles : (renew url).Handles c := (answered_handles rfl).bind fun r =>
      (Attempt.handles_ofExcept _).bind fun token => Attempt.handles_pure _
    refine Attempt.Tolerates.map hhandles (renew_tolerates (bodyOutline_inside _ _)) (fun f => rfl) ?_
    rintro token _ rfl
    exact .token token
  | getOrders id =>
    obtain rfl := Option.some.inj hop
    have hhandles : (fetchOrders url).Handles c := (answered_handles rfl).bind fun r =>
      Attempt.handles_ofExcept _
    exact Attempt.Tolerates.map hhandles (fetchOrders_tolerates (bodyOutline_inside _ _)) (fun f => rfl)
      fun os os' h => .orders os os' h
  | _ => cases hop

/-! Two runs -/

/-- One result has the document of another, which has grown at most. Both came with a code of success. -/
def TransportResult.Gains (g : Outline) (t t' : TransportResult) : Prop :=
  ∃ w w', t.response.bind (·.document?) = some w ∧ t'.response.bind (·.document?) = some w' ∧
    g.GrowsAt (some w) (some w')

/-- The results of the requests of one task are those of another, of which some documents have grown. -/
def Loop.Gains (g : Nat → Outline) (l : Loop) (i : Nat) (l' : Loop) (i' : Nat) : Prop :=
  ∀ (n : Nat) (t t' : TransportResult), (l.results i)[n]? = some t →
    (l'.results i')[n]? = some t' → t.Gains (g n) t'

/-- An operation is a task of a run in which its client stays as it is. -/
inductive Scene.Runs (s : Scene) (c : Client) (op : Operation) (callback : Option Callback) (i : Nat) :
    Prop
  | intro (s₀ : Scene) (st : Start) (hr : Reachable s₀) (ho : s₀.Opens i st)
    (hst : c.startOperation op callback = .ok st) (hc : s₀.loop.client = c) (hs : StillSteps c s₀ s)

/-- A request that was answered so did not fail, and its document has grown at most. -/
theorem TransportResult.Gains.grown {g : Outline} {t t' : TransportResult} {o o' : Outgoing}
    (h : t.Gains g t') (ht : Exchange.Answers o t) (ht' : Exchange.Answers o' t') :
    t'.failure = none ∧ g.GrowsAt t.document t'.document := by
  obtain ⟨w, w', hw, hw', hgrows⟩ := h
  have hdocument {o : Outgoing} {t : TransportResult} {w : Value} (ht : Exchange.Answers o t)
      (hw : t.response.bind (·.document?) = some w) : t.failure = none ∧ t.document = some w := by
    rcases ht.document with ⟨f, -, -, hnone⟩ | ⟨hf, response, hr, hd⟩
    · cases hnone.symm.trans hw
    · rw [hr] at hw
      exact ⟨hf, hd.symm.trans hw⟩
  rw [(hdocument ht hw).2, (hdocument ht' hw').2]
  exact ⟨(hdocument ht' hw').1, hgrows⟩

theorem Loop.Gains.grown {g : Nat → Outline} {s s' : Scene} {i i' : Nat} (hr : Reachable s)
    (hr' : Reachable s') (h : s.loop.Gains g i s'.loop i') :
    Grown g (s.loop.exchanges i) (s'.loop.exchanges i') := by
  intro n p p' hp hp' _
  have hgains : p.2.Gains (g n) p'.2 := by
    apply h n
    · rw [results, List.getElem?_map, hp]
      rfl
    · rw [results, List.getElem?_map, hp']
      rfl
  exact hgains.grown (hr.exchange_answers (List.mem_of_getElem? hp))
    (hr'.exchange_answers (List.mem_of_getElem? hp'))

namespace Scene

variable {s : Scene} {c : Client} {op : Operation} {callback : Option Callback} {i : Nat}

theorem Opens.follows {st : Start} (h : s.Opens i st) (c : Client) : s.Follows c i st.flow := by
  refine .going [] st.flow h.stand? ?_ fun h' x hx => hx
  unfold Loop.calls
  rw [h.deeds]
  rfl

theorem Runs.reachable (h : s.Runs c op callback i) : Reachable s := by
  obtain ⟨s₀, st, hr, -, -, -, hs⟩ := h
  exact hr.trans hs.steps

/-- The operation goes along its flow. -/
theorem Runs.follows (h : s.Runs c op callback i) :
    ∃ url, c.url? op.endpoint = some url ∧ s.Follows c i (op.body url) := by
  obtain ⟨s₀, st, hr, ho, hst, hc, hs⟩ := h
  obtain ⟨url, hurl, hflow, -⟩ := Operation.flow_ok (Client.startOperation_ok hst)
  exact ⟨url, hurl, hflow ▸ hs.follows hr.inOrder hc ho.length (ho.follows c)⟩

/-- When nothing is left to do, it has delivered unless it lacks an answer. -/
theorem Runs.delivers (h : s.Runs c op callback i) (hcallback : callback ≠ some .abort)
    (hidle : s.focus = .idle) (hempty : s.loop.ready = []) (hn : ¬ s.loop.Lacks i) :
    ∃ d, s.loop.outcome? i = some d := by
  obtain ⟨s₀, st, hr, ho, hst, -, hs⟩ := h
  have hticket : st.ticket.callback = callback := by
    obtain ⟨F, -, rfl⟩ := Except.map_eq_ok_iff.mp hst
    rfl
  exact hs.steps.delivers hr ho (.operation c op callback st hst) (hticket ▸ hcallback) hidle hempty hn

/-- Two runs of an operation whose answers differ by what has grown in them come to the same. -/
theorem Runs.agree {s' : Scene} {callback' : Option Callback} {i' : Nat} {g : Nat → Outline}
    {d d' : Delivery} (hop : op.outlines? = some g) (h : s.Runs c op callback i)
    (h' : s'.Runs c op callback' i') (hd : s.loop.outcome? i = some d)
    (hn : s.loop.isCancelled i = false) (hsuccess : d.failure? = none)
    (hgains : s.loop.Gains g i s'.loop i') (hd' : s'.loop.outcome? i' = some d')
    (hn' : s'.loop.isCancelled i' = false) :
    d.Agrees d' ∧ (s'.loop.calls i').map (·.2) = (s.loop.calls i).map (·.2) := by
  obtain ⟨url, hurl, hfollows⟩ := h.follows
  obtain ⟨url', hurl', hfollows'⟩ := h'.follows
  obtain rfl := Option.some.inj (hurl.symm.trans hurl')
  obtain ⟨hcalls, hend⟩ := hfollows.delivered h.reachable.inOrder hd hn
  obtain ⟨hcalls', hend'⟩ := hfollows'.delivered h'.reachable.inOrder hd' hn'
  have hyields : (op.body url).Yields c (s.loop.exchanges i) (.ok d) := by
    rcases hend with hok | ⟨cause, t, -, -, rfl⟩
    · exact hok
    · cases (ResultKind.failed_holdsOnly _ _).failure?.symm.trans hsuccess
  have htolerates := Operation.body_tolerates hop (Client.hasShop_of_url? hurl) url
  have hgrown := hgains.grown h.reachable h'.reachable
  rw [hcalls, hcalls']
  rcases hend' with hok' | ⟨cause, t, herror, -, -⟩
  · obtain ⟨hsame, d'', hd'', hagrees⟩ := htolerates hyields hok' hgrown hsuccess
    obtain rfl := Except.ok.inj hd''
    exact ⟨hagrees, hsame⟩
  · obtain ⟨-, d'', hd'', -⟩ := htolerates hyields herror hgrown hsuccess
    cases hd''

end Scene

/-! Runs in which a shop says more of its tokens and customers -/

/-- A document that describes something under a name, with what more is said of it. -/
def Json.Value.describing (name : String) (ms more : List (Str × Value)) : Value :=
  .obj [(name, .obj (ms ++ more))]

theorem Json.Value.describing_fits {name : String} {ms more : List (Str × Value)}
    (hkeys : (Pairs.keys (ms ++ more)).Nodup)
    (hms : ∀ p ∈ ms ++ more, p.1.isWhole = true ∧ p.2.Fits 0) :
    (describing name ms more).Fits depthLimit := by
  have hname : (Pairs.keys [((name : Str), Value.obj (ms ++ more))]).Nodup := List.nodup_singleton _
  have hall : (describing name ms more).Fits 2 := by
    apply Fits.obj 1 _ hname
    · intro p hp
      rw [List.mem_singleton.mp hp]
      exact Str.isWhole_ofString name
    · intro p hp
      rw [List.mem_singleton.mp hp]
      exact .obj 0 _ hkeys (fun q hq => (hms q hq).1) fun q hq => (hms q hq).2
  exact hall.mono (by decide)

/-- What the shop says of a token and of its owner. -/
def Json.Value.minted : List (Str × Value) := [("access_token", .str "minted"), ("customer_id", .int 7)]

def Json.Value.owner : List (Str × Value) := [("id", .int 7)]

/-- The shop of the login of ada, as it answers later. -/
def Loop.laterShop : Loop :=
  .ofClient (.named "alice") true
    [.ofDocument 200 (.describing "customer_access_token" Value.minted [("scope", .str "all")]),
      .ofDocument 200 (.describing "customer" Value.owner [("tier", .str "gold")])]

/-- The end of the login there. -/
def Scene.laterLogin : Scene := ⟨(Loop.laterShop.start .adaLogin).2.settle, .idle⟩

theorem Scene.Runs.settled {l : Loop} {op : Operation} {callback : Option Callback} {st : Start}
    (hr : Reachable ⟨l, .idle⟩) (hst : l.client.startOperation op callback = .ok st) :
    Scene.Runs ⟨(l.start st).2.settle, .idle⟩ l.client op callback l.jobs.length :=
  .intro ⟨(l.start st).2, .idle⟩ st (hr.act trivial (.start st)) (.start hr trivial st) hst rfl
    (l.start st).2.settle_steps

/-- A response of success with the bytes of a description has its document. -/
theorem TransportResult.document?_of_raw {t : TransportResult} {name : String}
    {ms more : List (Str × Value)} (hkeys : (Pairs.keys (ms ++ more)).Nodup)
    (hms : ∀ p ∈ ms ++ more, p.1.isWhole = true ∧ p.2.Fits 0)
    (h : Exchange.rawOf t = some (200, Text.Utf8.encode (Value.describing name ms more).chars)) :
    t.response.bind (·.document?) = some (.describing name ms more) := by
  obtain ⟨r, hr, hcode, hread⟩ := Exchange.read_of_raw (Value.describing_fits hkeys hms)
    (by simp [Value.describing]) h
  rw [hr, Option.bind_some, Response.document?, if_pos hcode, hread]

/-- A result gains what is said more in its description. -/
theorem TransportResult.gains_of_raw {g : Outline} {t t' : TransportResult} {name : String} {k : Str}
    {ms : List (Str × Value)} {v : Value} (hkeys : (Pairs.keys (ms ++ [(k, v)])).Nodup)
    (hms : ∀ p ∈ ms ++ [(k, v)], p.1.isWhole = true ∧ p.2.Fits 0) (hname : k ∉ (g.inside name).names)
    (h : Exchange.rawOf t = some (200, Text.Utf8.encode (Value.describing name ms []).chars))
    (h' : Exchange.rawOf t' = some (200, Text.Utf8.encode (Value.describing name ms [(k, v)]).chars)) :
    t.Gains g t' := by
  have hfront : ms ++ [] <+: ms ++ [(k, v)] := by simp
  have hnew : k ∉ Pairs.keys (ms ++ []) := by
    have hnodup : (Pairs.keys ms ++ [k]).Nodup := by simpa [Pairs.keys] using hkeys
    intro hmem
    rw [List.append_nil] at hmem
    exact (List.nodup_append.mp hnodup).2.2 k hmem k (List.mem_singleton_self k) rfl
  have hkeys₀ : (Pairs.keys (ms ++ [])).Nodup := hkeys.sublist (hfront.map Prod.fst).sublist
  have hms₀ : ∀ p ∈ ms ++ [], p.1.isWhole = true ∧ p.2.Fits 0 := fun p hp => hms p (hfront.subset hp)
  have hwhole : k.isWhole = true := (hms (k, v) (by simp)).1
  refine ⟨_, _, document?_of_raw hkeys₀ hms₀ h, document?_of_raw hkeys hms h', ?_⟩
  exact .grown _ _ (.member g [] [] name _ _ (.here _ ms [] k v hnew hname fun _ => hwhole))

/-- The results of two requests each. -/
theorem Loop.gains_of_pair {g : Nat → Outline} {l l' : Loop} {i i' : Nat}
    {a b a' b' : Option (Int × List UInt8)} (h : (l.results i).map Exchange.rawOf = [a, b])
    (h' : (l'.results i').map Exchange.rawOf = [a', b'])
    (hfirst : ∀ t t' : TransportResult, Exchange.rawOf t = a → Exchange.rawOf t' = a' →
      t.Gains (g 0) t')
    (hsecond : ∀ t t' : TransportResult, Exchange.rawOf t = b → Exchange.rawOf t' = b' →
      t.Gains (g 1) t') :
    l.Gains g i l' i' := by
  intro n t t' ht ht'
  have hraw : [a, b][n]? = some (Exchange.rawOf t) := by
    rw [← h, List.getElem?_map, ht, Option.map_some]
  have hraw' : [a', b'][n]? = some (Exchange.rawOf t') := by
    rw [← h', List.getElem?_map, ht', Option.map_some]
  match n with
  | 0 => exact hfirst t t' (Option.some.inj hraw).symm (Option.some.inj hraw').symm
  | 1 => exact hsecond t t' (Option.some.inj hraw).symm (Option.some.inj hraw').symm
  | n + 2 => cases hraw

/-- Members that the client does not know change nothing, unless they are to be kept and no encoding can
express their key. Every other shape and every other key is read as before when an object has one more at
any place: with the same issues, or with the same data and a document that has it in its place if the
shape keeps it. And where an operation succeeds, it succeeds in every run with the same
client in which the documents in its answers have grown by such members anywhere inside: with the same
data, the same token and the same requests. It does deliver there once its answers have come. -/
theorem new_members_are_overlooked :
    (∀ a ∈ Schema.models, ∀ before after k v, a.declares k = false →
      (a.keepsUnknown = true → k.isWhole = true) → a.Overlooks before after k v) ∧
    ∀ {c : Client} {op : Operation} {g : Nat → Outline} {callback callback' : Option Callback}
      {s s' : Scene} {i i' : Nat} {d : Delivery}, op.outlines? = some g →
      s.Runs c op callback i → s'.Runs c op callback' i' →
      s.loop.outcome? i = some d → s.loop.isCancelled i = false → d.failure? = none →
      s.loop.Gains g i s'.loop i' →
      (∀ d', s'.loop.outcome? i' = some d' → s'.loop.isCancelled i' = false →
        d.Agrees d' ∧ (s'.loop.calls i').map (·.2) = (s.loop.calls i).map (·.2)) ∧
      (callback' ≠ some .abort → s'.focus = .idle → s'.loop.ready = [] → ¬ s'.loop.Lacks i' →
        ∃ d', s'.loop.outcome? i' = some d') := by
  constructor
  · intro a ha before after k v hk hkept
    exact (Schema.dumps_of_models ha).overlooks hk hkept
  · intro c op g callback callback' s s' i i' d hop h h' hd hn hsuccess hgains
    exact ⟨fun d' hd' hn' => h.agree hop h' hd hn hsuccess hgains hd' hn', h'.delivers⟩

/-- What a shop may say more of a customer is overlooked, and so is what the later shop says more to the
login of ada. -/
theorem new_members_are_overlooked_of_login :
    Schema.AnyShape.Overlooks (.nested customerShape) [("id", .int 7)] [] "tier" (.str "gold") ∧
    ∃ d d', Scene.adaLogin.loop.outcome? 0 = some d ∧ d.failure? = none ∧
      Scene.laterLogin.loop.outcome? 0 = some d' ∧ d.Agrees d' ∧
      (Scene.laterLogin.loop.calls 0).map (·.2) = (Scene.adaLogin.loop.calls 0).map (·.2) := by
  obtain ⟨hshapes, hruns⟩ := new_members_are_overlooked
  refine ⟨hshapes _ (by simp [Schema.models]) _ _ _ _ (by decide) fun _ => rfl, ?_⟩
  have hdone : ((Scene.adaLogin.loop.outcome? 0).map fun d => d.failure?.isNone) = some true := by
    decide +kernel
  have hdone' : (Scene.laterLogin.loop.outcome? 0).isSome = true := by decide +kernel
  obtain ⟨d, hd, hsuccess⟩ := Option.map_eq_some_iff.mp hdone
  obtain ⟨d', hd'⟩ := Option.isSome_iff_exists.mp hdone'
  have hraw : (Scene.adaLogin.loop.results 0).map Exchange.rawOf =
      [some (200, Text.Utf8.encode (Value.describing "customer_access_token" Value.minted []).chars),
        some (200, Text.Utf8.encode (Value.describing "customer" Value.owner []).chars)] := by
    decide +kernel
  have hraw' : (Scene.laterLogin.loop.results 0).map Exchange.rawOf =
      [some (200, Text.Utf8.encode
          (Value.describing "customer_access_token" Value.minted [("scope", .str "all")]).chars),
        some (200, Text.Utf8.encode
          (Value.describing "customer" Value.owner [("tier", .str "gold")]).chars)] := by
    decide +kernel
  have hgains : Scene.adaLogin.loop.Gains (fun n => if n = 0 then loginOutline else
      bodyOutline "customer" customerOutline) 0 Scene.laterLogin.loop 0 := by
    have hstr (text : String) : (Value.str text).Fits 0 := .str 0 text (Str.isWhole_ofString text)
    have hint : (Value.int 7).Fits 0 := .int 0 7 (by decide)
    apply Loop.gains_of_pair hraw hraw'
    · intro t t' h h'
      exact TransportResult.gains_of_raw (by decide) (by simp [Value.minted, hstr, hint]) (by decide) h h'
    · intro t t' h h'
      exact TransportResult.gains_of_raw (by decide) (by simp [Value.owner, hstr, hint]) (by decide) h h'
  have hruns₀ : Scene.adaLogin.Runs (.named "alice") (.login .ada) none 0 :=
    Scene.Runs.settled (l := .loginShop) (.initial _ _ _) rfl
  have hruns₁ : Scene.laterLogin.Runs (.named "alice") (.login .ada) none 0 :=
    Scene.Runs.settled (l := .laterShop) (.initial _ _ _) rfl
  obtain ⟨hagree, -⟩ := hruns rfl hruns₀ hruns₁ hd (by decide +kernel)
    (Option.isNone_iff_eq_none.mp hsuccess) hgains
  obtain ⟨hsame, hcalls⟩ := hagree d' hd' (by decide +kernel)
  exact ⟨d, d', hd, Option.isNone_iff_eq_none.mp hsuccess, hd', hsame, hcalls⟩

/-- A key of a member that no customer declares and no encoding can express. -/
def Str.unencodable : Str := ⟨[.ofCode 0xD800]⟩

/-- With a member under such a key, a customer is refused that was accepted before. -/
theorem unencodable_key_refuses_customer :
    Schema.AnyShape.declares (.nested customerShape) .unencodable = false ∧
    (Customer.read (.obj [("id", .int 1)])).isOk = true ∧
    (Customer.read (.obj [("id", .int 1), (.unencodable, .int 1)])).isOk = false := by
  decide +kernel

end Storefront
