import Storefront.Proofs.LikeFlows

/-! Calls that differ in secrets only are accepted together, and start flows that are alike. -/
namespace Storefront

open Account

/-- The argument has a text, which is not blank and can be encoded. -/
def Argument.IsValue (a : Argument Str) : Prop :=
  a.isOverlong = false ∧ a.isBlank = false ∧ a.toStr.isWhole = true

/-- The addresses of two resources stand for each other at every client that occurs. -/
def Variation.Swaps (ν : Variation) (e e' : Endpoint) : Prop :=
  ∀ c u u', ν.client c → c.url? e = some u → c.url? e' = some u' → ν.address u u'

/-- The same token, or two for which the addresses of the operation stand for each other. -/
def Variation.SameToken (ν : Variation) (e : Argument → Endpoint) (token token' : Argument Str) :
    Prop :=
  token = token' ∨ token.IsValue ∧ token'.IsValue ∧
    ν.Swaps (e (.text token.part)) (e (.text token'.part))

/-- Operations that differ in passwords, and in one-time tokens whose addresses stand for each
other. -/
inductive Operation.Alike (ν : Variation) : Operation → Operation → Prop
  | getCustomer (id : Argument Str) : Operation.Alike ν (.getCustomer id) (.getCustomer id)
  | createCustomer {c c' : Credentials} (h : c.Alike c') :
    Operation.Alike ν (.createCustomer c) (.createCustomer c')
  | login {c c' : Credentials} (h : c.Alike c') : Operation.Alike ν (.login c) (.login c')
  | recoverPassword (email : Argument Str) :
    Operation.Alike ν (.recoverPassword email) (.recoverPassword email)
  | renewToken (id : Argument Str) : Operation.Alike ν (.renewToken id) (.renewToken id)
  | activate {c c' : Credentials} (h : c.Alike c') (id : Argument Str) {token token' : Argument Str}
    (ht : ν.SameToken (.activation (.text id.part)) token token') :
    Operation.Alike ν (.activate c id token) (.activate c' id token')
  | resetPassword {c c' : Credentials} (h : c.Alike c') (id : Argument Str)
    {token token' : Argument Str} (ht : ν.SameToken (.reset (.text id.part)) token token') :
    Operation.Alike ν (.resetPassword c id token) (.resetPassword c' id token')
  | getOrders (id : Argument Str) : Operation.Alike ν (.getOrders id) (.getOrders id)

variable {ν : Variation}

theorem Argument.IsValue.refusal? {a : Argument Str} (h : a.IsValue) (name : String) :
    a.refusal? name = none := by
  unfold Argument.refusal?
  rw [h.1, h.2.1]
  rfl

theorem Variation.SameToken.refusal? {e : Argument → Endpoint} {token token' : Argument Str}
    (h : ν.SameToken e token token') (name : String) : token.refusal? name = token'.refusal? name := by
  rcases h with rfl | ⟨hv, hv', -⟩
  · rfl
  · rw [hv.refusal?, hv'.refusal?]

theorem Variation.SameToken.torn? {e : Argument → Endpoint} {token token' : Argument Str}
    (h : ν.SameToken e token token') (id : Argument Str) :
    Argument.torn? [id, token] = Argument.torn? [id, token'] := by
  rcases h with rfl | ⟨hv, hv', -⟩
  · rfl
  · simp only [Argument.torn?, List.map_cons, List.find?_cons, Str.isWhole_strip, hv.2.2, hv'.2.2]
    rfl

namespace Operation

/-- Alike operations are refused for the same reason. -/
theorem Alike.refusal? {op op' : Operation} (h : op.Alike ν op') : op.refusal? = op'.refusal? := by
  cases h with
  | getCustomer id => rfl
  | createCustomer h =>
    rw [refusal?_of_keys rfl rfl rfl, refusal?_of_keys rfl rfl rfl, h.missing]
    rfl
  | login h =>
    rw [refusal?_of_keys rfl rfl rfl, refusal?_of_keys rfl rfl rfl, h.missing]
    rfl
  | recoverPassword email => rfl
  | renewToken id => rfl
  | activate h id ht =>
    rw [refusal?_of_link rfl rfl, refusal?_of_link rfl rfl, h.missing, ht.refusal?, parts, ht.torn? id]
    rfl
  | resetPassword h id ht =>
    rw [refusal?_of_link rfl rfl, refusal?_of_link rfl rfl, h.missing, ht.refusal?, parts, ht.torn? id]
    rfl
  | getOrders id => rfl

theorem requireAddress_eq (c : Client) (e : Endpoint) :
    requireAddress c e = ((c.url? e).elim (.error .noShop) .ok : Except CallError String) := by
  unfold requireAddress Client.url?
  cases e.url? c.scheme.toText c.shopDomain [] with
  | none => rfl
  | some u => rfl

theorem requireAddress_alike {c c' : Client} (h : c.Alike ν c') (e : Endpoint) :
    Except.Rel Eq ν.SameTarget (requireAddress c e) (requireAddress c' e) := by
  rw [requireAddress_eq, requireAddress_eq, h.url?]
  exact .refl (fun u => .inl rfl) _

theorem requireAddress_swapped {c c' : Client} (h : c.Alike ν c') {e e' : Endpoint}
    (hν : ν.Swaps e e') :
    Except.Rel Eq ν.SameTarget (requireAddress c e) (requireAddress c' e') := by
  rw [requireAddress_eq, requireAddress_eq, ← h.url?]
  cases hu : c.url? e with
  | none =>
    cases hu' : c.url? e' with
    | none => exact .error rfl
    | some u' =>
      obtain ⟨u, hsome⟩ := (Client.hasShop_of_url? hu').url? e
      cases hu.symm.trans hsome
  | some u =>
    obtain ⟨u', hu'⟩ := (Client.hasShop_of_url? hu).url? e'
    rw [hu']
    exact .ok (.inr (hν c u u' h.kind hu hu'))

/-- Tokens that are alike lead to alike addresses. -/
theorem requireToken_alike {c c' : Client} (hc : c.Alike ν c') {e : Argument → Endpoint}
    {token token' : Argument Str} (ht : ν.SameToken e token token') :
    Except.Rel Eq ν.SameTarget (requireAddress c (e (.text token.part)))
      (requireAddress c' (e (.text token'.part))) := by
  rcases ht with rfl | ⟨-, -, hswaps⟩
  · exact requireAddress_alike hc _
  · exact requireAddress_swapped hc hswaps

theorem requireEndpoint_alike {c c' : Client} (hc : c.Alike ν c') {op op' : Operation}
    (h : op.Alike ν op') :
    Except.Rel Eq ν.SameTarget (requireAddress c op.endpoint) (requireAddress c' op'.endpoint) := by
  cases h with
  | activate _ id ht => exact requireToken_alike hc ht
  | resetPassword _ id ht => exact requireToken_alike hc ht
  | _ => exact requireAddress_alike hc _

/-- The failure with which an attempt ended, if it did. -/
def failureOf? {α : Type} : Except Failure α → Option Failure
  | .ok _ => none
  | .error f => some f

/-- Of a result that holds a failure or none, only the failure matters. -/
theorem result_alike {α : Type} {R : α → α → Prop} {result : Except Failure α → Delivery}
    (hr : ∀ x, (result x).asTransport = ⟨none, none, failureOf? x⟩ ∧ (result x).isEmpty = false)
    {x x' : Except Failure α} (h : Except.Rel (Failure.Alike ν) R x x') :
    (result x).Alike ν (result x') := by
  refine ⟨?_, (hr x).2.trans (hr x').2.symm⟩
  rw [(hr x).1, (hr x').1]
  cases h with
  | ok h => exact ⟨.none, .none⟩
  | error h => exact ⟨.none, .some h⟩

theorem customerResult_alike {x x' : Except Failure Customer}
    (h : Except.Rel (Failure.Alike ν) Eq x x') : (customerResult x).Alike ν (customerResult x') :=
  result_alike (fun x => by cases x <;> exact ⟨rfl, rfl⟩) h

theorem loginResult_alike {x x' : Except Failure Login}
    (h : Except.Rel (Failure.Alike ν) anyLogin x x') : (loginResult x).Alike ν (loginResult x') :=
  result_alike (fun x => by cases x <;> exact ⟨rfl, rfl⟩) h

theorem tokenResult_alike {x x' : Except Failure String}
    (h : Except.Rel (Failure.Alike ν) (fun _ _ => True) x x') :
    (tokenResult x).Alike ν (tokenResult x') :=
  result_alike (fun x => by cases x <;> exact ⟨rfl, rfl⟩) h

theorem ordersResult_alike {x x' : Except Failure (List Order)}
    (h : Except.Rel (Failure.Alike ν) Eq x x') : (ordersResult x).Alike ν (ordersResult x') :=
  result_alike (fun x => by cases x <;> exact ⟨rfl, rfl⟩) h

/-- Alike operations do what is alike at alike addresses. -/
theorem body_alike {op op' : Operation} (h : op.Alike ν op') {u u' : String}
    (hu : ν.SameTarget u u') : Flow.Alike ν (Delivery.Alike ν) (op.body u) (op'.body u') := by
  cases h with
  | getCustomer id => exact Flow.Alike.map (fetch_alike hu .none) fun _ _ => customerResult_alike
  | createCustomer h =>
    exact Flow.Alike.map (changing_alike hu h .created) fun _ _ => loginResult_alike
  | login h => exact Flow.Alike.map (login_alike hu h) fun _ _ => loginResult_alike
  | recoverPassword email =>
    exact Flow.Alike.map (recover_alike hu _) fun _ _ hf => ⟨⟨.none, hf⟩, rfl⟩
  | renewToken id => exact Flow.Alike.map (renew_alike hu) fun _ _ => tokenResult_alike
  | activate h id _ =>
    exact Flow.Alike.map (changing_alike hu h .activated) fun _ _ => loginResult_alike
  | resetPassword h id _ =>
    exact Flow.Alike.map (changing_alike hu h .reset) fun _ _ => loginResult_alike
  | getOrders id => exact Flow.Alike.map (fetchOrders_alike hu) fun _ _ => ordersResult_alike

/-- Alike operations of alike clients are refused for the same reason, or have alike flows. -/
theorem flow_alike {c c' : Client} (hc : c.Alike ν c') {op op' : Operation} (h : op.Alike ν op') :
    Except.Rel Eq (Flow.Alike ν (Delivery.Alike ν)) (op.flow c) (op'.flow c') := by
  rw [flow_eq, flow_eq, ← h.refusal?]
  cases op.refusal? with
  | some e =>
    have hlacks : c.lacksShop = c'.lacksShop := by rw [Client.lacksShop, Client.lacksShop, hc.shopDomain]
    have hat : e.at c = e.at c' := by
      cases e with
      | unencodable s => simp only [CallError.at, hlacks]
      | _ => rfl
    exact .error hat
  | none => exact (requireEndpoint_alike hc h).map fun _ _ hu => body_alike h hu

end Operation

/-- Tickets of one kind, with the same words but for addresses that stand for each other. -/
structure Ticket.Alike (ν : Variation) (t t' : Ticket) : Prop where
  description : Text.Alike ν t.description t'.description
  kind : t.kind = t'.kind
  callback : t.callback = t'.callback

structure Start.Alike (ν : Variation) (st st' : Start) : Prop where
  flow : Flow.Alike ν (Delivery.Alike ν) st.flow st'.flow
  ticket : st.ticket.Alike ν st'.ticket

theorem Operation.Alike.ticket {op op' : Operation} (h : op.Alike ν op')
    (callback : Option Callback) :
    Ticket.Alike ν ⟨op.description, op.kind, callback⟩ ⟨op'.description, op'.kind, callback⟩ := by
  cases h <;> exact ⟨.same _, rfl, rfl⟩

/-- Requests whose headers are known to be sendable start alike. -/
theorem Outgoing.Alike.start {o o' : Outgoing} (h : o.Alike ν (fun _ => False) o')
    (callback : Option Callback) :
    Start.Alike ν ⟨.transport <$> Exchange.flow o, Loop.requestTicket o callback⟩
      ⟨.transport <$> Exchange.flow o', Loop.requestTicket o' callback⟩ where
  flow := (Exchange.flow_alike h).map fun _ _ hr => ⟨hr, rfl⟩
  ticket := ⟨h.description, rfl, rfl⟩

namespace Client.Alike

variable {c c' : Client}

theorem startOperation (hc : c.Alike ν c') {op op' : Operation} (h : op.Alike ν op')
    (callback : Option Callback) : Except.Rel Eq (Start.Alike ν) (c.startOperation op callback)
      (c'.startOperation op' callback) :=
  (Operation.flow_alike hc h).map fun _ _ hf => ⟨hf, h.ticket callback⟩

theorem startCall (hc : c.Alike ν c') (method : Method) (url : String) {b b' : Body}
    (hb : b.Alike b') (headers : Headers) (callback : Option Callback) :
    Except.Rel Eq (Start.Alike ν) (c.startCall ⟨method, url, b, headers⟩ callback)
      (c'.startCall ⟨method, url, b', headers⟩ callback) := by
  have hprepare : Except.Rel Eq (Outgoing.Alike ν fun _ => False)
      (c.prepare ⟨method, url, b, headers⟩) (c'.prepare ⟨method, url, b', headers⟩) :=
    hc.prepare rfl (.inl rfl) hb (.same _ _)
  unfold Client.startCall
  obtain ⟨e, hp, hp'⟩ | ⟨o, o', hp, hp', ho⟩ := hprepare.both
  · rw [hp, hp']
    exact .error rfl
  · rw [hp, hp']
    exact .ok (ho.start callback)

end Client.Alike

end Storefront
