import Storefront.Loop.Run
import Storefront.Proofs.Likeness
import Storefront.Proofs.Unwritable

/-! Requests and answers that differ in secrets only. Alike requests leave the client alike, or fail
there with the same fault, and alike servers answer them alike. -/
namespace Storefront

/-- The same address, or two that stand for each other. -/
def Variation.SameTarget (ν : Variation) (u u' : String) : Prop := u = u' ∨ ν.address u u'

theorem Variation.SameTarget.text {ν : Variation} {u u' : String} (h : ν.SameTarget u u') :
    Text.Alike ν u u' := by
  rcases h with rfl | h
  · exact .same u
  · exact .address h

/-- The same document, or two that can both be written. -/
def Content.Alike (c c' : Content) : Prop :=
  c = c' ∨ ∃ s s', c.write = .ok s ∧ c'.write = .ok s'

/-- The same body, or credentials that are alike. -/
inductive Body.Alike : Body → Body → Prop
  | same (b : Body) : Body.Alike b b
  | credentials {c c' : Credentials} (h : c.Alike c') : Body.Alike (.credentials c) (.credentials c')

theorem Body.Alike.content? {b b' : Body} (h : b.Alike b') :
    Except.Rel Eq (Option.Rel Content.Alike) b.content? b'.content? := by
  cases h with
  | same b =>
    refine .refl (fun x => ?_) _
    cases x with
    | none => exact .none
    | some c => exact .some (.inl rfl)
  | @credentials c c' h => exact .ok (.some (.inr ⟨_, _, c.write_document, c'.write_document⟩))

/-- Requests that differ in secrets, and in addresses that stand for each other. Of the headers under
some names it is not known whether they can be sent. -/
structure Outgoing.Alike (ν : Variation) (leaves : String → Prop) (o o' : Outgoing) : Prop where
  method : o.method = o'.method
  url : ν.SameTarget o.url o'.url
  content : Option.Rel Content.Alike o.content o'.content
  headers : Headers.Alike leaves o.headers o'.headers

/-- The token headers of a request can be sent. -/
def Outgoing.ShowsSendable (o : Outgoing) : Prop :=
  ∀ s, (customerTokenHeader, .text s) ∈ o.headers → Headers.Sendable s

namespace Outgoing.Alike

variable {ν : Variation} {leaves : String → Prop} {o o' : Outgoing}

theorem description (h : o.Alike ν leaves o') : Text.Alike ν o.description o'.description := by
  unfold Outgoing.description
  rw [h.method]
  exact .joined (.same _) h.url.text

theorem closed (h : o.Alike ν (· = customerTokenHeader) o') (ho : o.ShowsSendable)
    (ho' : o'.ShowsSendable) : o.Alike ν (fun _ => False) o' where
  method := h.method
  url := h.url
  content := h.content
  headers := by
    refine h.headers.closed ?_ ?_
    · rintro name s rfl hs
      exact ho s hs
    · rintro name s rfl hs
      exact ho' s hs

theorem writeContent (h : o.Alike ν leaves o') :
    Except.Rel Eq (fun _ _ => True) (Exchange.writeContent o) (Exchange.writeContent o') := by
  have hc := h.content
  unfold Exchange.writeContent
  generalize o.content = c at hc ⊢
  generalize o'.content = c' at hc ⊢
  cases hc with
  | none => exact .ok trivial
  | some hc =>
    rcases hc with rfl | ⟨s, s', hs, hs'⟩
    · exact .refl (fun _ => trivial) _
    · dsimp only
      rw [hs, hs']
      exact .ok trivial

end Outgoing.Alike

theorem Client.Alike.prepare {ν : Variation} {c c' : Client} (h : c.Alike ν c')
    {leaves : String → Prop} {call call' : Call} (hm : call.method = call'.method)
    (hu : ν.SameTarget call.url call'.url) (hb : call.body.Alike call'.body)
    (hh : Headers.Alike leaves call.headers call'.headers) :
    Except.Rel Eq (Outgoing.Alike ν leaves) (c.prepare call) (c'.prepare call') :=
  hb.content?.map fun _ _ hc => ⟨hm, hu, hc, Pairs.Alike.putAll (h.defaultHeaders leaves) hh⟩

/-! What is sent and answered -/

/-- The same address, or where addresses stand for each other, two of which a request can be made. -/
def Address.Alike (ν : Variation) (a a' : Address) : Prop :=
  a = a' ∨ ν.Shifts ∧ a.scheme.isEmpty = false ∧ a'.scheme.isEmpty = false

/-- Requests of one method to alike addresses. -/
structure Request.Alike (ν : Variation) (r r' : Request) : Prop where
  method : r.method = r'.method
  address : r.address.Alike ν r'.address

theorem Address.Alike.isEmpty {ν : Variation} {a a' : Address} (h : a.Alike ν a') :
    a.scheme.isEmpty = a'.scheme.isEmpty := by
  rcases h with rfl | ⟨-, h, h'⟩
  · rfl
  · rw [h, h']

theorem Variation.SameTarget.readTarget {ν : Variation} {u u' : String} (h : ν.SameTarget u u') :
    Except.Rel Eq (Address.Alike ν) (Address.readTarget u) (Address.readTarget u') := by
  rcases h with rfl | h
  · exact .refl (fun _ => .inl rfl) _
  · obtain ⟨a, a', ha, ha', hs, hs'⟩ := ν.targets u u' h
    rw [ha, ha']
    exact .ok (.inr ⟨⟨u, u', h⟩, hs, hs'⟩)

theorem Outgoing.Alike.prepare {ν : Variation} {o o' : Outgoing}
    (h : o.Alike ν (fun _ => False) o') (body body' : Option String) (timeout : Option Number) :
    Except.Rel Eq (Request.Alike ν) (Request.prepare o.method o.url o.headers body timeout)
      (Request.prepare o'.method o'.url o'.headers body' timeout) := by
  refine .bind (h.url.readTarget.mapError fun e e' he => he ▸ rfl) fun a a' ha => ?_
  exact h.headers.sent.bind fun _ _ _ => .ok ⟨h.method, ha⟩

/-- Where no address stands for another one, a response leads both requests to the same. -/
theorem Request.Alike.redirected {ν : Variation} {r r' : Request} (h : r.Alike ν r')
    (hν : ¬ ν.Shifts) (status : Int) (location : String) :
    Except.Rel Eq (Request.Alike ν) (r.redirected status location)
      (r'.redirected status location) := by
  obtain ha | ⟨hshifts, -⟩ := h.address
  · unfold Request.redirected
    rw [ha, h.method]
    refine .bind (R := Eq) (.refl (fun _ => rfl) _) fun a a' haa => ?_
    subst haa
    dsimp only
    split
    · exact .ok ⟨rfl, .inl rfl⟩
    · exact .ok ⟨rfl, .inl rfl⟩
  · exact absurd hshifts hν

/-- An answer after which no further request is made. -/
def Answer.LeadsNowhere : Answer → Prop
  | .response status headers _ =>
    ∀ a body, (Response.mk status a headers body).location? = none
  | _ => True

/-- The same answer, or successes that differ in the token that they hand out. Where addresses stand
for each other, no answer leads elsewhere. -/
inductive Answer.Alike (ν : Variation) : Answer → Answer → Prop
  | same (a : Answer) (h : ν.Shifts → a.LeadsNowhere) : Answer.Alike ν a a
  | success {status : Int} {headers headers' : List (String × String)} {body body' : List UInt8}
    {v v' : Json.Value} (hs : Status.ofCode status = .success)
    (hv : Json.readBody body = .ok (some v)) (hv' : Json.readBody body' = .ok (some v'))
    (h : v.Alike v') :
    Answer.Alike ν (.response status headers body) (.response status headers' body')

/-- Replies that are kept ready at the same gate with answers that are alike. Where addresses stand
for each other, they serve any request. -/
structure Reply.Alike (ν : Variation) (p p' : Reply) : Prop where
  only : p.only = p'.only
  gate : p.gate = p'.gate
  answer : p.answer.Alike ν p'.answer
  any : ν.Shifts → p.only = none

theorem Reply.Alike.serves {ν : Variation} {p p' : Reply} (h : p.Alike ν p') {r r' : Request}
    (hr : r.Alike ν r') : p.serves r = p'.serves r' := by
  unfold Reply.serves
  rw [← h.only]
  obtain ha | ⟨hshifts, -⟩ := hr.address
  · unfold Request.line
    rw [hr.method, ha]
  · rw [h.any hshifts]

theorem noReply_alike (ν : Variation) : Reply.Alike ν noReply noReply :=
  ⟨rfl, rfl, .same _ fun _ => trivial, fun _ => rfl⟩

/-- Alike servers answer alike requests alike, and stay alike. -/
theorem Server.take_alike {ν : Variation} {s s' : Server} (h : List.Forall₂ (Reply.Alike ν) s s')
    {r r' : Request} (hr : r.Alike ν r') :
    (s.take r).1.Alike ν (s'.take r').1 ∧
      List.Forall₂ (Reply.Alike ν) (s.take r).2 (s'.take r').2 := by
  have hsplit : List.Forall₂ (Reply.Alike ν) (s.takeWhile (!·.serves r))
      (s'.takeWhile (!·.serves r')) := by
    induction h with
    | nil => exact .nil
    | @cons p p' s s' hp _ ih =>
      rw [List.takeWhile_cons, List.takeWhile_cons, hp.serves hr]
      split
      · exact .cons hp ih
      · exact .nil
  have hrest := List.forall₂_drop (s.takeWhile (!·.serves r)).length h
  unfold Server.take
  dsimp only
  rw [← hsplit.length_eq]
  generalize s.drop (s.takeWhile (!·.serves r)).length = d at hrest ⊢
  generalize s'.drop (s.takeWhile (!·.serves r)).length = d' at hrest ⊢
  cases hrest with
  | nil => exact ⟨noReply_alike ν, h⟩
  | cons hp hrest => exact ⟨hp, List.rel_append hsplit hrest⟩

/-! Results and lines -/

def Failure.Alike (ν : Variation) (f f' : Failure) : Prop := Text.Alike ν f.message f'.message

/-- Results that hold alike documents, and failures with alike messages. -/
structure TransportResult.Alike (ν : Variation) (r r' : TransportResult) : Prop where
  document : Option.Rel Json.Value.Alike r.document r'.document
  failure : Option.Rel (Failure.Alike ν) r.failure r'.failure

structure Delivery.Alike (ν : Variation) (d d' : Delivery) : Prop where
  result : d.asTransport.Alike ν d'.asTransport
  isEmpty : d.isEmpty = d'.isEmpty

/-- The same line, but for addresses in it that stand for each other. -/
structure Log.Line.Alike (ν : Variation) (l l' : Log.Line) : Prop where
  level : l.level = l'.level
  source : l.source = l'.source
  message : Text.Alike ν l.message l'.message
  reason : l.reason = l'.reason

theorem Log.Line.Alike.eq {l l' : Log.Line} (h : l.Alike .none l') : l = l' := by
  obtain ⟨level, source, message, reason⟩ := l
  obtain ⟨level', source', message', reason'⟩ := l'
  obtain ⟨rfl, rfl, hm, rfl⟩ := h
  obtain rfl : message = message' := hm.eq
  rfl

end Storefront
