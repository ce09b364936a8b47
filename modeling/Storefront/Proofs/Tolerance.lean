import Storefront.Proofs.Login
import Storefront.Proofs.Outlines

/-! Attempts of which one is answered like the other, but for members that nobody knows. Where each document
has only grown, what is read of it leads both to the same requests, and what the first comes to the second
comes to as well. -/
namespace Storefront

open Json

/-- What a token is used for is declared in it. -/
theorem AccessToken.same_of_declared {t t' : AccessToken} (h : t'.record.declared = t.record.declared) :
    t'.token = t.token ∧ t'.customerId = t.customerId := by
  unfold token customerId Schema.Record.text? Schema.Record.whole?
  rw [h]
  exact ⟨rfl, rfl⟩

namespace Account

/-- Wherever the first exchange did not fail, the second did not either, and its document has grown at
most. The outline of the documents goes by the number of the exchange. -/
def Grown (g : Nat → Outline) (h h' : Exchanges) : Prop :=
  ∀ (n : Nat) (p p' : Outgoing × TransportResult), h[n]? = some p → h'[n]? = some p' →
    p.2.failure = none → p'.2.failure = none ∧ (g n).GrowsAt p.2.document p'.2.document

theorem Grown.of_append {g : Nat → Outline} {h₁ h₂ h₁' h₂' : Exchanges}
    (hg : Grown g (h₁ ++ h₂) (h₁' ++ h₂')) : Grown g h₁ h₁' := by
  intro n p p' hp hp'
  obtain ⟨hn, -⟩ := List.getElem?_eq_some_iff.mp hp
  obtain ⟨hn', -⟩ := List.getElem?_eq_some_iff.mp hp'
  exact hg n p p' (by rwa [List.getElem?_append_left hn]) (by rwa [List.getElem?_append_left hn'])

theorem Grown.drop {g : Nat → Outline} {h₁ h₂ h₁' h₂' : Exchanges} (hlength : h₁'.length = h₁.length)
    (hg : Grown g (h₁ ++ h₂) (h₁' ++ h₂')) : Grown (fun n => g (h₁.length + n)) h₂ h₂' := by
  intro n p p' hp hp'
  refine hg (h₁.length + n) p p' ?_ ?_
  · rwa [List.getElem?_append_right (Nat.le_add_right _ _), Nat.add_sub_cancel_left]
  · rwa [← hlength, List.getElem?_append_right (Nat.le_add_right _ _), Nat.add_sub_cancel_left]

variable {α β : Type} {c : Client} {g : Nat → Outline} {R : β → β → Prop}

/-- Whatever the first attempt comes to without a failure, the second comes to with the same requests, up
to a relation, if it is answered the same way but for what has grown. -/
def Attempt.Tolerates (c : Client) (g : Nat → Outline) (R : β → β → Prop) (m m' : Attempt β) : Prop :=
  ∀ ⦃h h' : Exchanges⦄ ⦃b : β⦄ ⦃y' : Except Failure β⦄, m.Gives c h (.ok b) → m'.Gives c h' y' →
    Grown g h h' → h'.map (·.1) = h.map (·.1) ∧ ∃ b', y' = .ok b' ∧ R b b'

theorem tolerates_pure {b b' : β} (hR : R b b') :
    Attempt.Tolerates c g R (pure b) (pure b') := by
  intro h h' a y' hy hy' _
  obtain ⟨rfl, ha⟩ := Attempt.gives_pure.mp hy
  obtain ⟨rfl, rfl⟩ := Attempt.gives_pure.mp hy'
  obtain rfl := Except.ok.inj ha
  exact ⟨rfl, b', rfl, hR⟩

theorem tolerates_throw (f : Failure) (m' : Attempt β) :
    Attempt.Tolerates c g R (throw f) m' := by
  intro h h' b y' hy _ _
  cases (Attempt.gives_throw.mp hy).2

/-- One attempt after another. How many exchanges the first makes is left open, so what follows is to
tolerate whatever outlines come next. -/
theorem Attempt.Tolerates.bind {m m' : Attempt α} {k k' : α → Attempt β} {S : α → α → Prop}
    (hm : Attempt.Tolerates c g S m m')
    (hk : ∀ a a' n, S a a' → Attempt.Tolerates c (fun i => g (n + i)) R (k a) (k' a')) :
    Attempt.Tolerates c g R (m >>= k) (m' >>= k') := by
  intro h h' b y' hy hy' hg
  obtain ⟨a, h₁, h₂, rfl, hfirst, hrest⟩ := hy.ok_of_bind
  rcases hy'.of_bind with ⟨a'', h₁', h₂', rfl, hfirst', hrest'⟩ | ⟨f, -, hfirst'⟩
  · obtain ⟨hsame, a', ha', hS⟩ := hm hfirst hfirst' hg.of_append
    obtain rfl := Except.ok.inj ha'
    have hlength : h₁'.length = h₁.length := by simpa using congrArg List.length hsame
    obtain ⟨hsame', hend⟩ := hk a a'' h₁.length hS hrest hrest' (hg.drop hlength)
    exact ⟨by rw [List.map_append, List.map_append, hsame, hsame'], hend⟩
  · have hwhole : Grown g (h₁ ++ h₂) (h' ++ []) := by rwa [List.append_nil]
    obtain ⟨-, a', ha', -⟩ := hm hfirst hfirst' hwhole.of_append
    cases ha'

/-- What was read of both goes into what follows. -/
theorem tolerates_ofExcept_bind {e e' : Except Failure α} {k k' : α → Attempt β}
    (h : ∀ a, e = .ok a → ∃ a', e' = .ok a' ∧ Attempt.Tolerates c g R (k a) (k' a')) :
    Attempt.Tolerates c g R (ofExcept e >>= k) (ofExcept e' >>= k') := by
  intro h₁ h₁' b y' hy hy' hg
  obtain ⟨a, _, _, rfl, hread, hk⟩ := hy.ok_of_bind
  obtain ⟨rfl, ha⟩ := Attempt.gives_ofExcept.mp hread
  obtain ⟨a', rfl, hrest⟩ := h a ha.symm
  rcases hy'.of_bind with ⟨a'', _, _, rfl, hread', hk'⟩ | ⟨f, -, hread'⟩
  · obtain ⟨rfl, ha'⟩ := Attempt.gives_ofExcept.mp hread'
    obtain rfl := Except.ok.inj ha'
    exact hrest hk hk' hg
  · cases (Attempt.gives_ofExcept.mp hread').2

theorem tolerates_ofExcept {e e' : Except Failure β} (h : ∀ b, e = .ok b → ∃ b', e' = .ok b' ∧ R b b') :
    Attempt.Tolerates c g R (ofExcept e) (ofExcept e') := by
  intro h₁ h₁' b y' hy hy' _
  obtain ⟨rfl, hb⟩ := Attempt.gives_ofExcept.mp hy
  obtain ⟨rfl, rfl⟩ := Attempt.gives_ofExcept.mp hy'
  obtain ⟨b', hb', hR⟩ := h b hb.symm
  exact ⟨rfl, b', hb', hR⟩

/-- Both make the same call, and the document that the second is answered has grown at most. -/
theorem tolerates_answered {call : Call} {o : Outgoing} (hp : c.prepare call = .ok o)
    {k k' : TransportResult → Attempt β}
    (h : ∀ t t', (g 0).GrowsAt t.document t'.document →
      Attempt.Tolerates c (fun n => g (n + 1)) R (k t) (k' t')) :
    Attempt.Tolerates c g R (answered call >>= k) (answered call >>= k') := by
  intro h₁ h₁' b y' hy hy' hg
  obtain ⟨t, rest, rfl, ⟨f, -, -, hfailed⟩ | ⟨hf, hk⟩⟩ := answered_gives hp hy
  · cases hfailed
  · obtain ⟨t', rest', rfl, hcase⟩ := answered_gives hp hy'
    obtain ⟨hf', hgrows⟩ := hg 0 _ _ rfl rfl hf
    rcases hcase with ⟨f, hfailed, -, -⟩ | ⟨-, hk'⟩
    · cases hf'.symm.trans hfailed
    · have hrest : Grown (fun n => g (n + 1)) rest rest' := fun n p p' hp hp' =>
        hg (n + 1) p p' hp hp'
      obtain ⟨hsame, hend⟩ := h t t' hgrows hk hk' hrest
      exact ⟨congrArg (o :: ·) hsame, hend⟩

theorem tolerates_addressOf {e : Endpoint} {url : String} (hu : c.url? e = some url)
    {k k' : String → Attempt β} (h : Attempt.Tolerates c g R (k url) (k' url)) :
    Attempt.Tolerates c g R (liftM (addressOf e) >>= k) (liftM (addressOf e) >>= k') := by
  intro h₁ h₁' b y' hy hy' hg
  exact h (addressOf_gives hu hy) (addressOf_gives hu hy') hg

theorem tolerates_say {level : Log.Level} {source : Log.Source} {message message' : Str}
    {k k' : Unit → Attempt β} (h : Attempt.Tolerates c g R (k ()) (k' ())) :
    Attempt.Tolerates c g R (liftM (Flow.say level source message) >>= k)
      (liftM (Flow.say level source message') >>= k') := by
  intro h₁ h₁' b y' hy hy' hg
  exact h (say_gives hy) (say_gives hy') hg

/-! What is read of a document that has grown -/

/-- The outline of a body that has a description under a name. -/
def bodyOutline (name : String) (described : Outline) : Outline :=
  .object [] false fun key => if key = (name : Str) then described else .free

theorem bodyOutline_inside (name : String) (described : Outline) :
    (bodyOutline name described).inside name = described := if_pos rfl

/-- The outline of the answer to a login. Whether it describes a customer decides what is asked next. -/
def loginOutline : Outline :=
  .object ["customer"] false fun key =>
    if key = ("customer" : Str) then customerOutline
    else if key = ("customer_access_token" : Str) then tokenOutline
    else .free

theorem loginOutline_customer : loginOutline.inside "customer" = customerOutline := by
  rw [loginOutline, Outline.inside, if_pos rfl]

theorem loginOutline_token : loginOutline.inside "customer_access_token" = tokenOutline := by
  rw [loginOutline, Outline.inside, if_neg (by decide), if_pos rfl]

variable {t t' : TransportResult} {o : Outline}

/-- An object in a document is found in the document grown, and no other one, if its name means something
or it was there before. -/
theorem objectMember?_grown {name : String} (hg : o.GrowsAt t.document t'.document)
    (hname : (name : Str) ∈ o.names ∨ (objectMember? t name).isSome = true) :
    (o.inside name).GrowsAt (objectMember? t name) (objectMember? t' name) := by
  have hfound : (name : Str) ∈ o.names ∨ (t.document.bind (·.member? name)).isSome = true := by
    refine hname.imp_right fun h => ?_
    unfold objectMember? at h
    cases hm : t.document.bind (·.member? name) with
    | none =>
      rw [hm] at h
      cases h
    | some v => rfl
  have hmember := hg.member hfound
  unfold objectMember?
  generalize t.document.bind (·.member? name) = w at hmember
  generalize t'.document.bind (·.member? name) = w' at hmember
  cases hmember with
  | same => exact .same _
  | grown v v' hv =>
    cases v with
    | obj ms =>
      obtain ⟨ms', rfl⟩ := hv.object
      exact .grown _ _ hv
    | arr vs =>
      obtain ⟨vs', hw', -⟩ := (Outline.GrowsAt.grown _ _ hv).items
      obtain rfl := Option.some.inj hw'
      exact .same none
    | _ => cases hv

/-- An object that is there is found again, grown at most. -/
theorem objectMember?_found {name : String} {v : Value} (hg : o.GrowsAt t.document t'.document)
    (h : objectMember? t name = some v) :
    ∃ v', objectMember? t' name = some v' ∧ (o.inside name).GrowsAt (some v) (some v') := by
  have hgrown : (o.inside name).GrowsAt (objectMember? t name) (objectMember? t' name) :=
    objectMember?_grown hg (.inr (by rw [h]; rfl))
  rw [h] at hgrown
  exact hgrown.found

theorem customerIn_grown {customer : Customer} (hg : o.GrowsAt t.document t'.document)
    (ho : o.inside "customer" = customerOutline) (h : customerIn t = .ok customer) :
    ∃ customer', customerIn t' = .ok customer' ∧ customer.Agrees customer' := by
  unfold customerIn at h ⊢
  cases hm : objectMember? t "customer" with
  | none =>
    rw [hm] at h
    cases h
  | some v =>
    rw [hm] at h
    obtain ⟨v', hm', hv⟩ := objectMember?_found hg hm
    obtain ⟨customer', hread, hagrees⟩ := Customer.read_grown (ho ▸ hv) (Except.mapError_eq_ok_iff.mp h)
    rw [hm']
    exact ⟨customer', Except.mapError_eq_ok_iff.mpr hread, hagrees⟩

/-- The token is the same one, of the same account. -/
theorem tokenIn_grown {token : AccessToken} (hg : o.GrowsAt t.document t'.document)
    (ho : o.inside "customer_access_token" = tokenOutline) (h : tokenIn t = .ok token) :
    ∃ token', tokenIn t' = .ok token' ∧ token'.record.declared = token.record.declared := by
  unfold tokenIn at h ⊢
  cases hm : objectMember? t "customer_access_token" with
  | none =>
    rw [hm] at h
    cases h
  | some v =>
    rw [hm] at h
    obtain ⟨v', hm', hv⟩ := objectMember?_found hg hm
    obtain ⟨token', hread, hsame⟩ := AccessToken.read_grown (ho ▸ hv) (Except.mapError_eq_ok_iff.mp h)
    rw [hm']
    exact ⟨token', Except.mapError_eq_ok_iff.mpr hread, hsame⟩

theorem ordersIn_grown {orders : List Order} (hg : o.GrowsAt t.document t'.document)
    (ho : o.inside "orders" = .list orderOutline) (h : ordersIn t = .ok orders) :
    ∃ orders', ordersIn t' = .ok orders' ∧ List.Forall₂ Order.Agrees orders orders' := by
  unfold ordersIn at h ⊢
  split at h
  · rename_i vs hm
    have hfound : (t.document.bind (·.member? "orders")).isSome = true := by rw [hm]; rfl
    have hmember := hg.member (.inr hfound)
    rw [hm, ho] at hmember
    obtain ⟨vs', hm', hvs⟩ := hmember.items
    obtain ⟨orders', hreads, hagrees⟩ := Order.readAll_grown hvs (Except.mapError_eq_ok_iff.mp h)
    rw [hm']
    exact ⟨orders', Except.mapError_eq_ok_iff.mpr hreads, hagrees⟩
  · cases h

/-! What the operations come to -/

/-- The same customer, up to members that nobody knows, is logged in with the same token. -/
def Login.Agrees (l l' : Login) : Prop := l.customer.Agrees l'.customer ∧ l'.token = l.token

theorem fetch_tolerates {url : String} {token : Option String}
    (hg : (g 0).inside "customer" = customerOutline) :
    Attempt.Tolerates c g Customer.Agrees (fetch url token) (fetch url token) := by
  unfold fetch
  apply tolerates_answered rfl
  intro t t' hgrows
  exact tolerates_ofExcept fun customer h => customerIn_grown hgrows hg h

theorem fetchOwner_tolerates (hs : c.HasShop) {token token' : AccessToken} {id : Int}
    (ht : token'.token = token.token) (hg : (g 0).inside "customer" = customerOutline) :
    Attempt.Tolerates c g Login.Agrees (fetchOwner token id) (fetchOwner token' id) := by
  obtain ⟨url, hu⟩ := hs.url? (.customer (.whole id))
  unfold fetchOwner
  rw [ht]
  apply tolerates_addressOf hu
  apply (fetch_tolerates hg).bind
  intro customer customer' n hagrees
  apply tolerates_say
  exact tolerates_pure ⟨hagrees, rfl⟩

/-- A name that decides what is asked next is told by the outline of the answer to the login. -/
theorem login_tolerates (hs : c.HasShop) {url : String} {credentials : Credentials}
    (hlogin : g 0 = loginOutline) (hg : (g 1).inside "customer" = customerOutline) :
    Attempt.Tolerates c g Login.Agrees (login url credentials) (login url credentials) := by
  unfold login
  apply tolerates_answered rfl
  intro t t' hgrows
  rw [hlogin] at hgrows
  apply tolerates_ofExcept_bind
  intro token htoken
  obtain ⟨token', htoken', hsame⟩ := tokenIn_grown hgrows loginOutline_token htoken
  obtain ⟨htext, hid⟩ := AccessToken.same_of_declared hsame
  have hfound : (objectMember? t' "customer").isSome = (objectMember? t "customer").isSome :=
    (objectMember?_grown hgrows (.inl (by simp [loginOutline, Outline.names]))).isSome
  refine ⟨token', htoken', ?_⟩
  rw [hfound]
  split
  · apply tolerates_ofExcept_bind
    intro customer hcustomer
    obtain ⟨customer', hcustomer', hagrees⟩ := customerIn_grown hgrows loginOutline_customer hcustomer
    exact ⟨customer', hcustomer', tolerates_pure ⟨hagrees, htext⟩⟩
  · rw [hid]
    cases token.customerId with
    | none => exact tolerates_throw _ _
    | some id => exact fetchOwner_tolerates hs htext hg

theorem renew_tolerates {url : String} (hg : (g 0).inside "customer_access_token" = tokenOutline) :
    Attempt.Tolerates c g Eq (renew url) (renew url) := by
  unfold renew
  apply tolerates_answered rfl
  intro t t' hgrows
  apply tolerates_ofExcept_bind
  intro token htoken
  obtain ⟨token', htoken', hsame⟩ := tokenIn_grown hgrows hg htoken
  obtain ⟨htext, -⟩ := AccessToken.same_of_declared hsame
  exact ⟨token', htoken', tolerates_pure htext.symm⟩

theorem fetchOrders_tolerates {url : String} (hg : (g 0).inside "orders" = .list orderOutline) :
    Attempt.Tolerates c g (List.Forall₂ Order.Agrees) (fetchOrders url) (fetchOrders url) := by
  unfold fetchOrders
  apply tolerates_answered rfl
  intro t t' hgrows
  exact tolerates_ofExcept fun orders h => ordersIn_grown hgrows hg h

end Account

end Storefront
