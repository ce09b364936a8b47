import Storefront.Proofs.Echoes
import Storefront.Proofs.Models
import Storefront.Proofs.Recovery
import Storefront.Proofs.Written

/-! Lists of orders. The descriptions in a response are read one after the other, and one that is refused
decides for all of them: a list is delivered whole and in the order of the response, or not at all. -/
namespace Storefront

open Json Account

/-- The first description that is refused decides. -/
theorem Order.readAll_append_cons {before after : List Value} {v : Value} {e : Schema.Rejection}
    (hbefore : ∀ w ∈ before, ∃ o, read w = .ok o) (hv : read v = .error e) :
    readAll (before ++ v :: after) = .error e := by
  induction before with
  | nil => rw [List.nil_append, readAll, hv]
  | cons w before ih =>
    obtain ⟨⟨o, ho⟩, hrest⟩ := List.forall_mem_cons.mp hbefore
    rw [List.cons_append, readAll, ho, ih hrest]
    rfl

/-- The descriptions of orders in a response: its code is a success, and its body is an object that has a
list under the name of the orders. -/
def Response.listed? (r : Response) : Option (List Value) :=
  if 200 ≤ r.status ∧ r.status < 300 then
    match r.said?.bind (·.member? "orders") with
    | some (.arr vs) => some vs
    | _ => none
  else none

/-- A list of orders is what came of the result of the request for it. -/
structure OrdersResult.Lists (d : OrdersResult) (t : TransportResult) : Prop where
  /-- Orders are delivered exactly when a response lists descriptions that are all accepted. -/
  whole : (∃ orders, d.orders = some orders) ↔
    ∃ r vs, t.response = some r ∧ r.listed? = some vs ∧ ∀ v ∈ vs, ∃ o, Order.read v = .ok o
  /-- Each of them is what is read of the description at its place. -/
  places : ∀ orders, d.orders = some orders → d.failure = none ∧
    ∃ r vs, t.response = some r ∧ r.listed? = some vs ∧ orders.length = vs.length ∧
      ∀ i (hv : i < vs.length) (ho : i < orders.length), Order.read vs[i] = .ok orders[i]
  bare : d.orders = none → ∃ f, d.failure = some f
  /-- If the response is a success that could be read, the failure shows it. -/
  shown : d.orders = none → ∀ r, t.response = some r → 200 ≤ r.status ∧ r.status < 300 →
    r.IsLegible → ∃ f, d.failure = some f ∧ f.cls = .malformedResponse ∧
      f.statusCode = some r.status ∧ f.url = some r.address.text ∧ f.document = r.said? ∧
      (r.listed? = none → f.message = "Response has no orders list") ∧
      ∀ before v after e, r.listed? = some (before ++ v :: after) →
        (∀ w ∈ before, ∃ o, Order.read w = .ok o) → Order.read v = .error e →
          f.message = ("Invalid order object: " ++ e.message : String)

/-- What is delivered of the result of the request. -/
def OrdersResult.telling (t : TransportResult) : OrdersResult :=
  match t.failure with
  | some f => ⟨none, some f⟩
  | none =>
    match ordersIn t with
    | .ok orders => ⟨some orders, none⟩
    | .error f => ⟨none, some f⟩

/-- An operation that asks for orders makes one request, and tells of its result. -/
theorem Operation.orders_tallies (id : Argument Str) (url : String) :
    ((Operation.getOrders id).body url).Heeds .tally
      (fun rs d => ∃ t, rs = [t] ∧ d = .orders (.telling t)) [] := by
  have hasks : (fetchOrders url).Heeds .tally
      (fun rs orders => ∃ t, rs = [t] ∧ t.failure = none ∧ ordersIn t = .ok orders)
      (fun rs f => ∃ t, rs = [t] ∧ (t.failure = some f ∨
        t.failure = none ∧ ordersIn t = .error f)) [] := by
    unfold fetchOrders
    rw [Attempt.heeds_bind, answered_heeds rfl]
    intro c _
    refine ⟨trivial, fun t _ => ?_⟩
    cases hf : t.failure with
    | some f => exact ⟨t, rfl, .inl hf⟩
    | none =>
      apply Attempt.heeds_ofExcept.mpr
      cases ho : ordersIn t with
      | ok orders => exact ⟨t, rfl, hf, ho⟩
      | error f => exact ⟨t, rfl, .inr ⟨hf, ho⟩⟩
  refine Flow.heeds_map.mpr (hasks.mono fun rs y hy => ?_)
  cases y with
  | ok orders =>
    obtain ⟨t, rfl, hf, ho⟩ := hy
    exact ⟨t, rfl, by rw [OrdersResult.telling, hf, ho]; rfl⟩
  | error f =>
    obtain ⟨t, rfl, hf | ⟨hf, ho⟩⟩ := hy
    · exact ⟨t, rfl, by rw [OrdersResult.telling, hf]; rfl⟩
    · exact ⟨t, rfl, by rw [OrdersResult.telling, hf, ho]; rfl⟩

section Lists

variable {r : Response} {t : TransportResult}

/-- A result without orders has what there is to show, if there are no orders to be read. -/
theorem OrdersResult.lists_of_failure {f : Failure}
    (hnone : ∀ r, t.response = some r → 200 ≤ r.status ∧ r.status < 300 → ¬ r.IsLegible) :
    OrdersResult.Lists ⟨none, some f⟩ t where
  whole := by
    constructor
    · rintro ⟨_, ⟨⟩⟩
    · rintro ⟨r, vs, hr, hlisted, -⟩
      unfold Response.listed? at hlisted
      split at hlisted
      · rename_i hcode
        have hsaid : r.said? = none := by
          unfold Response.said?
          cases hb : readBody r.body with
          | ok v => exact absurd (Response.isLegible_iff.mpr ⟨v, hb⟩) (hnone r hr hcode)
          | error e => rfl
        rw [hsaid] at hlisted
        cases hlisted
      · cases hlisted
  places := by rintro _ ⟨⟩
  bare _ := ⟨f, rfl⟩
  shown _ r hr hcode hlegible := absurd hlegible (hnone r hr hcode)

/-- What is read of a response of success that says something. -/
theorem Account.ordersIn_eq (hdocument : t.document = r.said?)
    (hcode : 200 ≤ r.status ∧ r.status < 300) : ordersIn t =
      match r.listed? with
      | some vs => (Order.readAll vs).mapError fun e =>
          malformed t ("Invalid order object: " ++ e.message)
      | none => .error (malformed t "Response has no orders list") := by
  unfold ordersIn Response.listed?
  rw [if_pos hcode, hdocument]
  cases r.said?.bind (·.member? "orders") with
  | none => rfl
  | some v => cases v <;> rfl

/-- The failure of a successful response shows the response. -/
theorem Account.malformed_shows (hr : t.response = some r) (hdocument : t.document = r.said?)
    (reason : String) : (malformed t reason).cls = .malformedResponse ∧
      (malformed t reason).statusCode = some r.status ∧
      (malformed t reason).url = some r.address.text ∧ (malformed t reason).document = r.said? := by
  unfold malformed
  rw [hr, hdocument]
  exact ⟨rfl, rfl, rfl, rfl⟩

/-- Of a response of success that could be read, the orders or what is wrong with it are told. -/
theorem OrdersResult.telling_lists (hr : t.response = some r) (hdocument : t.document = r.said?)
    (hcode : 200 ≤ r.status ∧ r.status < 300) (hf : t.failure = none) :
    (OrdersResult.telling t).Lists t := by
  have hresponse {P : Response → Prop} : (∃ r', t.response = some r' ∧ P r') ↔ P r := by simp [hr]
  have hread := ordersIn_eq hdocument hcode
  have hshows := malformed_shows hr hdocument
  unfold telling
  rw [hf]
  cases hlisted : r.listed? with
  | none =>
    rw [hlisted] at hread
    dsimp only at hread ⊢
    rw [hread]
    obtain ⟨hcls, hstatus, hurl, hsaid⟩ := hshows "Response has no orders list"
    refine ⟨?_, by simp, fun _ => ⟨_, rfl⟩, ?_⟩
    · simp only [exists_and_left, hresponse, hlisted]
      simp
    · intro _ r' hr' _ _
      obtain rfl := Option.some.inj (hr.symm.trans hr')
      refine ⟨_, rfl, hcls, hstatus, hurl, hsaid, fun _ => rfl, ?_⟩
      intro before v after e h
      cases hlisted.symm.trans h
  | some vs =>
    rw [hlisted] at hread
    dsimp only at hread ⊢
    rw [hread]
    cases hall : Order.readAll vs with
    | ok orders =>
      have hplaces := Order.readAll_eq_ok_iff.mp hall
      refine ⟨?_, ?_, by simp [Except.mapError], by simp [Except.mapError]⟩
      · simp only [exists_and_left, hresponse, hlisted]
        simp only [Except.mapError, Option.some.injEq, exists_eq', true_iff, exists_eq_left']
        intro v hv
        obtain ⟨o, -, ho⟩ := exists_right_of_forall₂ hplaces hv
        exact ⟨o, ho⟩
      · rintro _ ⟨⟩
        obtain ⟨hlength, hitems⟩ := List.forall₂_iff_get.mp hplaces
        exact ⟨rfl, r, vs, hr, hlisted, hlength.symm, fun i hv ho => hitems i hv ho⟩
    | error e =>
      obtain ⟨hcls, hstatus, hurl, hsaid⟩ := hshows ("Invalid order object: " ++ e.message)
      refine ⟨?_, by simp [Except.mapError], fun _ => ⟨_, rfl⟩, ?_⟩
      · simp only [exists_and_left, hresponse, hlisted]
        simp only [Except.mapError, reduceCtorEq, exists_false, Option.some.injEq, exists_eq_left',
          false_iff]
        intro hgood
        obtain ⟨orders, horders⟩ := exists_forall₂ hgood
        cases hall.symm.trans (Order.readAll_eq_ok_iff.mpr horders)
      · intro _ r' hr' _ _
        obtain rfl := Option.some.inj (hr.symm.trans hr')
        refine ⟨_, rfl, hcls, hstatus, hurl, hsaid, ?_, ?_⟩
        · intro h
          cases hlisted.symm.trans h
        · intro before v after e' h hbefore hv
          obtain rfl := Option.some.inj (hlisted.symm.trans h)
          rw [Order.readAll_append_cons hbefore hv] at hall
          rw [Except.error.inj hall]
          rfl

/-- Whatever can come of a request, the orders or a failure are told of it. -/
theorem Exchange.Answers.lists {o : Outgoing} (h : Answers o t) :
    (OrdersResult.telling t).Lists t := by
  cases h with
  | failed f hf => exact OrdersResult.lists_of_failure (by rintro r ⟨⟩)
  | answered response line _ h =>
    cases judged_of_classify h with
    | refused document trouble f hb hs =>
      apply OrdersResult.lists_of_failure
      rintro r ⟨⟩ hcode
      exact absurd (Status.ofCode_success.mpr hcode) hs
    | malformed document trouble f hb hs =>
      apply OrdersResult.lists_of_failure
      rintro r ⟨⟩ -
      exact not_isLegible_of_readDocument hb
    | accepted document hb hs =>
      exact OrdersResult.telling_lists rfl (said?_of_readDocument hb).1.symm
        (Status.ofCode_success.mp hs) rfl

end Lists

/-- In every run of an operation that asks for orders, whatever it is answered, whatever fails: unless it
is cancelled, what it delivers are all orders that the response describes, in the order of the response,
or no orders and a failure. One that is cancelled delivers no orders. It does deliver once its answers
have come. -/
theorem orders_are_delivered_whole {s₀ s : Scene} {c : Client} {id : Argument Str}
    {callback : Option Callback} {st : Start} {i : Nat} (hr : Reachable s₀) (ho : s₀.Opens i st)
    (hst : c.startOperation (.getOrders id) callback = .ok st) (hs : Steps s₀ s) :
    (∀ d, s.loop.outcome? i = some d → ∃ r, d = .orders r ∧
      (s.loop.isCancelled i = false → ∃ t, s.loop.results i = [t] ∧ r.Lists t) ∧
      (s.loop.isCancelled i = true → r.orders = none)) ∧
    (st.ticket.callback ≠ some .abort → s.focus = .idle → s.loop.ready = [] → ¬ s.loop.Lacks i →
      ∃ d, s.loop.outcome? i = some d) := by
  obtain ⟨url, -, hflow, -⟩ := Operation.flow_ok (Client.startOperation_ok hst)
  have hreach : Reachable s := hr.trans hs
  refine ⟨?_, hs.delivers hr ho (.operation c _ callback st hst)⟩
  intro d hd
  have hopened := ho.tallies (hflow ▸ Operation.orders_tallies id url)
  rcases (Steps.tallies hs hr.inOrder ho.length hopened).delivered hreach.inOrder hd with
    ⟨hn, t, hresults, rfl⟩ | ⟨hcut, ticket, hticket, rfl⟩
  · have hmem : t ∈ s.loop.results i := by simp [hresults]
    obtain ⟨o, hanswers⟩ := hreach.result_answers hmem
    exact ⟨_, rfl, fun _ => ⟨t, hresults, hanswers.lists⟩, fun h => by simp [hn] at h⟩
  · have hsame := (Steps.ticket? hs ho.length).trans ho.ticket?
    have hkind : ticket.kind = .orders := by
      rw [Option.some.inj (hticket.symm.trans hsame)]
      exact Client.startOperation_ticket hst
    rw [hkind]
    exact ⟨_, rfl, fun h => by simp [hcut] at h, fun _ => rfl⟩

/-! A list of which the second description is refused -/

/-- Three descriptions of orders, of which the first alone is accepted. -/
def Json.Value.mixedOrders : Json.Value :=
  .obj [("orders", .arr [.obj [("id", .int 2)], .obj [("id", .str "x")], .obj []])]

theorem Json.Value.mixedOrders_fits : mixedOrders.Fits depthLimit := by
  have hone (v : Json.Value) (hv : v.Fits 0) : (Json.Value.obj [("id", v)]).Fits 1 := by
    have hkey : (Pairs.keys [(("id" : Str), v)]).Nodup := List.nodup_singleton _
    apply Fits.obj 0 _ hkey (by simp)
    simpa using hv
  have hlist : (Json.Value.arr [.obj [("id", .int 2)], .obj [("id", .str "x")], .obj []]).Fits 2 := by
    apply Fits.arr 1
    simp only [List.forall_mem_cons]
    exact ⟨hone _ (.int 0 _ (by decide)), hone _ (.str 0 _ rfl),
      .obj 0 [] List.nodup_nil (fun _ h => nomatch h) (fun _ h => nomatch h), fun _ h => nomatch h⟩
  have hall : mixedOrders.Fits 3 := by
    apply Fits.obj 2 _ (by decide) (by decide)
    simpa using hlist
  exact hall.mono (by decide)

def Start.orders : Start where
  flow := Operation.ordersResult <$> (fetchOrders "https://shop.example/api/customers/7/orders").run
  ticket := ⟨"get orders", .orders, none⟩

theorem Start.orders_starts :
    Client.startOperation (.named "alice") (.getOrders (.text "7")) none = .ok .orders := rfl

/-- The end of a question for orders that is answered so. -/
def Scene.mixedOrders : Scene :=
  .closing (.named "alice") [.ofDocument 200 .mixedOrders] .orders

/-- The first order is not delivered, and the failure tells of the second. -/
theorem orders_are_delivered_whole_of_mixed : ∃ r f,
    Scene.mixedOrders.loop.outcome? 0 = some (.orders r) ∧ r.orders = none ∧ r.failure = some f ∧
      f.message = ("Invalid order object: " ++
        Schema.Rejection.message ⟨"Order", [⟨["id"], .unreadableWhole, .str "x"⟩]⟩ : String) := by
  obtain ⟨hends, -⟩ := orders_are_delivered_whole
    (Scene.opening_reachable (.named "alice") [.ofDocument 200 .mixedOrders] .orders)
    (Scene.opening_opens _ _ _) Start.orders_starts (Scene.closing_steps _ _ _)
  have hdone : (Scene.mixedOrders.loop.outcome? 0).isSome = true := by decide +kernel
  have hcame : (Scene.mixedOrders.loop.results 0).map Exchange.rawOf =
      [some (200, Text.Utf8.encode Json.Value.mixedOrders.chars)] := by decide +kernel
  obtain ⟨d, hd⟩ := Option.isSome_iff_exists.mp hdone
  obtain ⟨r, rfl, hn, -⟩ := hends d hd
  obtain ⟨t, hresults, hlists⟩ := hn (by decide +kernel)
  have hresults : Scene.mixedOrders.loop.results 0 = [t] := hresults
  rw [hresults] at hcame
  obtain ⟨response, hresponse, hcode, hread⟩ := Exchange.read_of_raw Value.mixedOrders_fits
    (by simp [Value.mixedOrders]) (List.singleton_inj.mp hcame)
  have hsaid : response.said? = some .mixedOrders := (Exchange.said?_of_readDocument hread).1
  have hlisted : response.listed? =
      some ([.obj [("id", .int 2)]] ++ .obj [("id", .str "x")] :: [.obj []]) := by
    rw [Response.listed?, if_pos hcode, hsaid]
    rfl
  have hfirst : ∀ w ∈ [Value.obj [("id", .int 2)]], ∃ o, Order.read w = .ok o := by
    intro w hw
    rw [List.mem_singleton.mp hw]
    exact ⟨_, rfl⟩
  have hsecond : Order.read (.obj [("id", .str "x")]) =
      .error ⟨"Order", [⟨["id"], .unreadableWhole, .str "x"⟩]⟩ :=
    rfl
  have hnone : r.orders = none := by
    cases horders : r.orders with
    | none => rfl
    | some orders =>
      exfalso
      obtain ⟨r', vs, hr', hvs, hgood⟩ := hlists.whole.mp ⟨orders, horders⟩
      obtain rfl := Option.some.inj (hresponse.symm.trans hr')
      obtain rfl := Option.some.inj (hlisted.symm.trans hvs)
      obtain ⟨o, ho⟩ := hgood (.obj [("id", .str "x")]) (by simp)
      cases hsecond.symm.trans ho
  obtain ⟨f, hf, -, -, -, -, -, hfirstWrong⟩ := hlists.shown hnone response hresponse hcode
    (Exchange.isLegible_of_readDocument hread)
  exact ⟨r, f, hd, hnone, hf, hfirstWrong _ _ _ _ hlisted hfirst hsecond⟩

end Storefront
